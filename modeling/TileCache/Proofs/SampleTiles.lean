import TileCache.Proofs.DistinctTiles
import TileCache.Tile.Sample
set_option autoImplicit false

/-!
# Sample tiles fill a zoom level row by row

Sample tiles are numbered from zero and put into rows of one width. Column and row are remainder and
quotient of the number, and words of 32 bits hold both: a row is at most `2 ^ 16` tiles wide, and
there are no more than `2 ^ 32` rows as long as the tiles are not more than those have room for. So
a tile's number can be told from its coordinate, and different tiles have different keys. With more
tiles than that the numbers start again from the first coordinate.

## Main definitions

* `TileCache.Coord.number` — the number of a coordinate, counted row by row.
* `TileCache.Coord.Precedes` — the order row by row.
* `TileCache.Sample.RowByRow` — the first so many tiles of a zoom level, row by row.

## Main results

* `TileCache.Coord.precedes_iff` — the order row by row is that of the numbers.
* `TileCache.Sample.number_coord` — the coordinate of a tile has the tile's number.
* `TileCache.Sample.nodup_coords_iff` — how many sample tiles there can be without repetition.
* `TileCache.Sample.tiles_row_by_row` — what sample tiles are, and that stores keep them apart.
-/

namespace TileCache

/-! ## Counting row by row -/

namespace Coord

/-- The number of a coordinate, counted from zero and row by row, in rows of width `w`. -/
def number (w : ℕ) (c : Coord) : ℕ :=
  c.y.toNat * w + c.x.toNat

/-- Whether a coordinate comes before another row by row: in an earlier row, or in the same row and
an earlier column. -/
def Precedes (c d : Coord) : Prop :=
  c.y < d.y ∨ c.y = d.y ∧ c.x < d.x

variable {w : ℕ} {c d : Coord}

/-- What is in an earlier row has a smaller number. -/
lemma number_lt_of_row_lt (hc : c.x.toNat < w) (h : c.y.toNat < d.y.toNat) :
    c.number w < d.number w := by
  unfold number
  calc c.y.toNat * w + c.x.toNat
      < c.y.toNat * w + w := Nat.add_lt_add_left hc _
    _ = (c.y.toNat + 1) * w := (Nat.succ_mul ..).symm
    _ ≤ d.y.toNat * w := Nat.mul_le_mul_right w h
    _ ≤ d.y.toNat * w + d.x.toNat := Nat.le_add_right ..

/-- **The order row by row is that of the numbers**, for coordinates that are not beyond the end of
their row. -/
lemma precedes_iff (hc : c.x.toNat < w) (hd : d.x.toNat < w) :
    c.Precedes d ↔ c.number w < d.number w := by
  rw [Precedes, UInt32.lt_iff_toNat_lt, UInt32.lt_iff_toNat_lt, ← UInt32.toNat_inj]
  constructor
  · rintro (hrow | ⟨hrow, hcolumn⟩)
    · exact number_lt_of_row_lt hc hrow
    · rw [number, number, hrow]
      exact Nat.add_lt_add_left hcolumn _
  · intro hlt
    rcases Nat.lt_trichotomy c.y.toNat d.y.toNat with hrow | hrow | hrow
    · exact .inl hrow
    · rw [number, number, hrow] at hlt
      exact .inr ⟨hrow, Nat.lt_of_add_lt_add_left hlt⟩
    · exact absurd hlt (Nat.lt_asymm (number_lt_of_row_lt hd hrow))

end Coord

namespace Sample

variable {layer g : String} {z : UInt32} {n i j : ℕ}

/-! ## Coordinates -/

/-- The width of a row is a power of two. -/
lemma rowWidth_eq (z : UInt32) : rowWidth z = 2 ^ min z.toNat 16 :=
  Nat.one_shiftLeft _

/-- A row is not empty. -/
lemma rowWidth_pos (z : UInt32) : 0 < rowWidth z := by
  rw [rowWidth_eq]
  exact Nat.two_pow_pos _

/-- A row is at most `2 ^ 16` tiles wide. -/
lemma rowWidth_le (z : UInt32) : rowWidth z ≤ 2 ^ 16 := by
  rw [rowWidth_eq]
  exact Nat.pow_le_pow_right Nat.two_pos (Nat.min_le_right ..)

/-- **The column is the remainder of the number**, for all numbers. -/
lemma toNat_x_coord (z : UInt32) (i : ℕ) : (coord z i).x.toNat = i % rowWidth z := by
  apply UInt32.toNat_ofNat_of_lt'
  calc i % rowWidth z
      < rowWidth z := Nat.mod_lt i (rowWidth_pos z)
    _ ≤ 2 ^ 16 := rowWidth_le z
    _ < UInt32.size := by decide

/-- **The row is the quotient of the number**, for the numbers that `2 ^ 32` rows have room for. -/
lemma toNat_y_coord (hi : i < 2 ^ 32 * rowWidth z) : (coord z i).y.toNat = i / rowWidth z :=
  UInt32.toNat_ofNat_of_lt' (Nat.div_lt_of_lt_mul (Nat.mul_comm .. ▸ hi))

/-- No coordinate is beyond the end of its row. -/
lemma x_coord_lt (z : UInt32) (i : ℕ) : (coord z i).x.toNat < rowWidth z := by
  rw [toNat_x_coord]
  exact Nat.mod_lt i (rowWidth_pos z)

/-- **The coordinate of a tile has the tile's number.** -/
lemma number_coord (hi : i < 2 ^ 32 * rowWidth z) : (coord z i).number (rowWidth z) = i := by
  rw [Coord.number, toNat_x_coord, toNat_y_coord hi]
  exact Nat.div_add_mod' i (rowWidth z)

/-- Behind the last row the coordinates start again. -/
lemma coord_add_period (z : UInt32) (i : ℕ) : coord z (i + 2 ^ 32 * rowWidth z) = coord z i := by
  have hrow : UInt32.ofNat (i / rowWidth z + 2 ^ 32) = UInt32.ofNat (i / rowWidth z) := by
    rw [← UInt32.toNat_inj, UInt32.toNat_ofNat', UInt32.toNat_ofNat', Nat.add_mod_right]
  rw [coord, Nat.add_mul_mod_self_right, Nat.add_mul_div_right _ _ (rowWidth_pos z), hrow, coord]

/-- Tiles come row by row in the order of their numbers. -/
lemma precedes_coord (hij : i < j) (hj : j < 2 ^ 32 * rowWidth z) :
    (coord z i).Precedes (coord z j) := by
  rw [Coord.precedes_iff (x_coord_lt z i) (x_coord_lt z j), number_coord (hij.trans hj),
    number_coord hj]
  exact hij

/-! ## Tiles -/

/-- Sample tiles by their numbers. -/
lemma gridsetTiles_eq (layer g : String) (z : UInt32) (n : ℕ) :
    gridsetTiles layer g z n =
      (List.range n).map fun i => { tile layer (coord z i) with gridset := g } :=
  List.map_map

/-- Sample tiles are in their usual gridset unless another is asked for. -/
lemma tiles_eq_gridsetTiles (layer : String) (z : UInt32) (n : ℕ) :
    tiles layer z n = gridsetTiles layer gridset z n :=
  (gridsetTiles_eq ..).symm

/-- There are as many sample tiles as asked for. -/
@[simp]
lemma length_gridsetTiles : (gridsetTiles layer g z n).length = n := by
  simp [gridsetTiles_eq]

/-- A sample tile is the tile of some number. -/
lemma exists_of_mem_gridsetTiles {t : Tile} (h : t ∈ gridsetTiles layer g z n) :
    ∃ i, { tile layer (coord z i) with gridset := g } = t := by
  rw [gridsetTiles_eq] at h
  obtain ⟨i, -, hi⟩ := List.mem_map.1 h
  exact ⟨i, hi⟩

/-- The coordinate of a sample tile by its number. -/
lemma coord_getElem_gridsetTiles (h : i < (gridsetTiles layer g z n).length) :
    (gridsetTiles layer g z n)[i].coord = coord z i := by
  simp only [gridsetTiles_eq, List.getElem_map, List.getElem_range]
  rfl

/-- The coordinates of sample tiles. -/
lemma map_coord_gridsetTiles :
    (gridsetTiles layer g z n).map (·.coord) = (List.range n).map (coord z) := by
  rw [gridsetTiles_eq, List.map_map]
  rfl

/-- **No coordinate is used twice just if the tiles are not more than `2 ^ 32` rows have room
for.** -/
lemma nodup_coords_iff :
    ((gridsetTiles layer g z n).map (·.coord)).Nodup ↔ n ≤ 2 ^ 32 * rowWidth z := by
  rw [map_coord_gridsetTiles]
  constructor
  · intro hnodup
    by_contra hlt
    have hinj := List.inj_on_of_nodup_map hnodup
    have hzero : 2 ^ 32 * rowWidth z = 0 := by
      refine hinj (List.mem_range.2 (by omega)) (List.mem_range.2 (by omega)) ?_
      simpa using coord_add_period z 0
    have := rowWidth_pos z
    omega
  · intro hn
    refine List.nodup_range.map_on fun i hi j hj heq => ?_
    rw [← number_coord ((List.mem_range.1 hi).trans_le hn), heq,
      number_coord ((List.mem_range.1 hj).trans_le hn)]

/-- The first `n` tiles of a zoom level of a layer, in a gridset, row by row. -/
structure RowByRow (layer g : String) (z : UInt32) (w n : ℕ) (ts : List Tile) : Prop where
  length : ts.length = n
  /-- All tiles are at the zoom level of the layer and the gridset. -/
  level : ∀ t ∈ ts, t.layer = layer ∧ t.gridset = g ∧ t.coord.z = z
  /-- No coordinate is used twice. -/
  distinct : (ts.map (·.coord)).Nodup
  /-- Each tile comes before those behind it, by its row and then by its column. -/
  ordered : ts.Pairwise fun t t' => t.coord.Precedes t'.coord
  /-- No row has more than `w` columns. -/
  narrow : ∀ t ∈ ts, t.coord.x.toNat < w
  /-- The words of a coordinate hold remainder and quotient of the tile's number undiminished. -/
  column_row : ∀ i (h : i < ts.length), ts[i].coord.x.toNat = i % w ∧ ts[i].coord.y.toNat = i / w
  /-- Each tile can be told by its coordinate. -/
  numbered : ∀ i (h : i < ts.length), ts[i].coord.number w = i

/-- Sample tiles come row by row. -/
lemma rowByRow_gridsetTiles (layer g : String) (hn : n ≤ 2 ^ 32 * rowWidth z) :
    RowByRow layer g z (rowWidth z) n (gridsetTiles layer g z n) := by
  have hroom : ∀ {i}, i < (gridsetTiles layer g z n).length → i < 2 ^ 32 * rowWidth z := by
    intro i h
    rw [length_gridsetTiles] at h
    exact h.trans_le hn
  refine ⟨length_gridsetTiles, ?_, nodup_coords_iff.2 hn, ?_, ?_, ?_, ?_⟩
  · intro t ht
    obtain ⟨i, rfl⟩ := exists_of_mem_gridsetTiles ht
    exact ⟨rfl, rfl, rfl⟩
  · rw [List.pairwise_iff_getElem]
    intro i j hi hj hij
    rw [coord_getElem_gridsetTiles, coord_getElem_gridsetTiles]
    exact precedes_coord hij (hroom hj)
  · intro t ht
    obtain ⟨i, rfl⟩ := exists_of_mem_gridsetTiles ht
    exact x_coord_lt z i
  · intro i h
    rw [coord_getElem_gridsetTiles]
    exact ⟨toNat_x_coord z i, toNat_y_coord (hroom h)⟩
  · intro i h
    rw [coord_getElem_gridsetTiles]
    exact number_coord (hroom h)

/-- A store takes sample tiles with names. -/
lemma isStorable_of_mem (hlayer : layer ≠ "") (hg : g ≠ "") {t : Tile}
    (ht : t ∈ gridsetTiles layer g z n) : t.IsStorable := by
  obtain ⟨i, rfl⟩ := exists_of_mem_gridsetTiles ht
  refine ⟨Option.some_ne_none _, Layout.slot_isNamed_iff.2 ⟨hlayer, hg, ?_, nofun⟩⟩
  change format ≠ ""
  decide

/-- Sample tiles with names are kept apart. -/
lemma keptApart_gridsetTiles (hn : n ≤ 2 ^ 32 * rowWidth z) (hlayer : layer ≠ "") (hg : g ≠ "") :
    KeptApart (gridsetTiles layer g z n) := by
  refine .of_nodup (fun t => isStorable_of_mem hlayer hg) (List.Nodup.of_map Slot.coord ?_)
  rw [List.map_map]
  exact nodup_coords_iff.2 hn

/-- **Sample tiles fill a zoom level row by row, and stores keep them apart.** In rows of
`w = 2 ^ min z 16` columns, take no more tiles than `2 ^ 32` rows have room for. Then they are as
many as asked for, at distinct coordinates in the order of rows and columns, the tile number `i` at
column `i % w` and row `i / w`, so that its number is `w` times its row and its column. With names
that are not empty the tiles have distinct keys in every layout, and as many objects are in an empty
store after all of them were stored, if no request fails.

**Proof sketch.** The rows are narrow and few enough for words of 32 bits to hold column and row. So
the number of a tile can be had from its coordinate, and the order of the numbers is that of rows
and columns. Distinct coordinates make distinct keys, so no tile overwrites another. -/
theorem tiles_row_by_row (layer g : String) (z : UInt32) (n : ℕ)
    (hn : n ≤ 2 ^ 32 * 2 ^ min z.toNat 16) :
    (RowByRow layer gridset z (2 ^ min z.toNat 16) n (tiles layer z n) ∧
      (layer ≠ "" → KeptApart (tiles layer z n))) ∧
    RowByRow layer g z (2 ^ min z.toNat 16) n (gridsetTiles layer g z n) ∧
      (layer ≠ "" → g ≠ "" → KeptApart (gridsetTiles layer g z n)) := by
  rw [← rowWidth_eq] at hn ⊢
  refine ⟨⟨?_, fun hlayer => ?_⟩, rowByRow_gridsetTiles layer g hn, keptApart_gridsetTiles hn⟩
  · rw [tiles_eq_gridsetTiles]
    exact rowByRow_gridsetTiles layer gridset hn
  · rw [tiles_eq_gridsetTiles]
    exact keptApart_gridsetTiles hn hlayer (by decide)

/-- At zoom level 40 rows are no wider than at level 16. The last of all tiles that there is room for
has the largest column and the largest row, and an empty store keeps it and all tiles before it. -/
theorem last_tile_of_deep_level :
    let ts := gridsetTiles "basemap/v2" "EPSG:900913" 40 (2 ^ 48)
    let w : World := { store := .ofRoot "p" }
    2 ^ 48 ≤ 2 ^ 32 * 2 ^ min (40 : UInt32).toNat 16 ∧
    (∃ h : 2 ^ 48 - 1 < ts.length, ts[2 ^ 48 - 1].coord = ⟨40, 65535, 4294967295⟩) ∧
    (w.after {} (ts.map .put)).session.bucket.objects.entries.length = 2 ^ 48 := by
  intro ts w
  have hn : 2 ^ 48 ≤ 2 ^ 32 * 2 ^ min (40 : UInt32).toNat 16 := by decide
  obtain ⟨-, hrows, hkept⟩ := tiles_row_by_row "basemap/v2" "EPSG:900913" 40 (2 ^ 48) hn
  -- From here on the tiles are known by their properties alone, for they are too many to be made.
  change RowByRow _ _ _ _ _ ts at hrows
  change _ → _ → KeptApart ts at hkept
  clear_value ts
  have hlast : 2 ^ 48 - 1 < ts.length := by
    rw [hrows.length]
    decide
  obtain ⟨-, -, hobjects⟩ := (hkept (by decide) (by decide)).stored {} w rfl rfl nofun
  refine ⟨hn, ⟨hlast, ?_⟩, ?_⟩
  · obtain ⟨hcolumn, hrow⟩ := hrows.column_row (2 ^ 48 - 1) hlast
    obtain ⟨-, -, hlevel⟩ := hrows.level _ (List.getElem_mem hlast)
    generalize ts[2 ^ 48 - 1].coord = c at hcolumn hrow hlevel ⊢
    obtain ⟨z, x, y⟩ := c
    simp only [Coord.mk.injEq]
    exact ⟨hlevel, UInt32.toNat_inj.1 hcolumn, UInt32.toNat_inj.1 hrow⟩
  · rw [hobjects, hrows.length]
    rfl

end Sample

end TileCache
