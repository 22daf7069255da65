import TileCache.Proofs.Layout
set_option autoImplicit false

/-!
# What is below the key of a layer or of a gridset

Keys are compared level by level, so that the keys strictly below a layer's are those of the layer,
whatever names are textual beginnings of others. A gridset that is called like the leaf of metadata
has the key of the metadata, but nothing of the metadata is strictly below it.

## Main results

* `TileCache.Layout.tile_isBelow_layer`, `tile_isBelow_gridset` — which tiles are below.
* `TileCache.Layout.metadata_isBelow_layer`, `not_metadata_isBelow_gridset` — which metadata is.
* `TileCache.Layout.layer_eq_of_isBelow`, `gridset_eq_of_isBelow` — the subtrees of different layers
  and of different gridsets are disjoint.
-/

namespace TileCache.Layout

variable {l : Layout} {t : Tile} {n n' g g' : String} {k base base' : Key}

/-! ## Tiles and metadata -/

/-- **The tiles below the key of a layer are those of the layer.** -/
lemma tile_isBelow_layer (ht : l.tile t = .ok k) (hb : l.layer n = .ok base) :
    k.isBelow base = true ↔ t.layer = n := by
  obtain ⟨hs, hk⟩ := tile_eq_ok_iff.1 ht
  obtain ⟨hn, hbase⟩ := layer_eq_ok_iff.1 hb
  rw [Key.isBelow_iff, hk, hbase]
  simp [Slot.path, Segment.encode_inj, Tile.slot]

/-- **The tiles below the key of a gridset are those of the gridset.** -/
lemma tile_isBelow_gridset (ht : l.tile t = .ok k) (hb : l.gridset n g = .ok base) :
    k.isBelow base = true ↔ t.layer = n ∧ t.gridset = g := by
  obtain ⟨hs, hk⟩ := tile_eq_ok_iff.1 ht
  obtain ⟨hn, hg, hbase⟩ := gridset_eq_ok_iff.1 hb
  rw [Key.isBelow_iff, hk, hbase]
  simp [Slot.path, Segment.encode_inj, Tile.slot]

/-- The metadata below the key of a layer is that of the layer. -/
lemma metadata_isBelow_layer (hm : l.metadata n = .ok k) (hb : l.layer n' = .ok base) :
    k.isBelow base = true ↔ n = n' := by
  obtain ⟨hn, hk⟩ := metadata_eq_ok_iff.1 hm
  obtain ⟨hn', hbase⟩ := layer_eq_ok_iff.1 hb
  rw [Key.isBelow_iff, hk, hbase]
  simp [Segment.encode_inj]

/-- No metadata is below the key of a gridset. -/
lemma not_metadata_isBelow_gridset (hm : l.metadata n = .ok k) (hb : l.gridset n' g = .ok base) :
    k.isBelow base = false := by
  obtain ⟨hn, hk⟩ := metadata_eq_ok_iff.1 hm
  obtain ⟨hn', hg, hbase⟩ := gridset_eq_ok_iff.1 hb
  rw [Bool.eq_false_iff, Ne, Key.isBelow_iff, hk, hbase]
  simp

/-! ## The root -/

/-- The key of a tile is below the root. -/
lemma tile_isBelow_root (ht : l.tile t = .ok k) : k.isBelow l.root = true := by
  obtain ⟨hs, hk⟩ := tile_eq_ok_iff.1 ht
  exact Key.isBelow_iff.2 ⟨_, _, hk⟩

/-- The key of metadata is below the root. -/
lemma metadata_isBelow_root (hm : l.metadata n = .ok k) : k.isBelow l.root = true := by
  obtain ⟨hn, hk⟩ := metadata_eq_ok_iff.1 hm
  exact Key.isBelow_iff.2 ⟨_, _, hk⟩

/-- What is below the key of a layer is below the root. -/
lemma isBelow_root_of_layer (hb : l.layer n = .ok base) (h : k.isBelow base = true) :
    k.isBelow l.root = true := by
  obtain ⟨hn, hbase⟩ := layer_eq_ok_iff.1 hb
  obtain ⟨s, rest, hk⟩ := Key.isBelow_iff.1 h
  rw [hbase, List.append_assoc] at hk
  exact Key.isBelow_iff.2 ⟨_, _, hk⟩

/-- What is below the key of a gridset is below the root. -/
lemma isBelow_root_of_gridset (hb : l.gridset n g = .ok base) (h : k.isBelow base = true) :
    k.isBelow l.root = true := by
  obtain ⟨hn, hg, hbase⟩ := gridset_eq_ok_iff.1 hb
  obtain ⟨s, rest, hk⟩ := Key.isBelow_iff.1 h
  rw [hbase, List.append_assoc] at hk
  exact Key.isBelow_iff.2 ⟨_, _, hk⟩

/-- A gridset with a key is in a layer with a key, and what is below the one is below the other. -/
lemma exists_layer_of_gridset (hb : l.gridset n g = .ok base) :
    ∃ base', l.layer n = .ok base' ∧ ∀ k : Key, k.isBelow base = true → k.isBelow base' = true := by
  obtain ⟨hn, hg, hbase⟩ := gridset_eq_ok_iff.1 hb
  rw [gridset, bind_eq_ok_iff] at hb
  obtain ⟨base', hb', -⟩ := hb
  obtain ⟨hn', hbase'⟩ := layer_eq_ok_iff.1 hb'
  refine ⟨base', hb', fun k hk => ?_⟩
  obtain ⟨s, rest, hk⟩ := Key.isBelow_iff.1 hk
  rw [Key.isBelow_iff, hk, hbase, hbase']
  exact ⟨Segment.encode g hg, s :: rest, by simp⟩

/-! ## Different subtrees -/

/-- **A key is below the key of one layer at most.** -/
lemma layer_eq_of_isBelow (hb : l.layer n = .ok base) (hb' : l.layer n' = .ok base')
    (h : k.isBelow base = true) (h' : k.isBelow base' = true) : n = n' := by
  obtain ⟨hn, hbase⟩ := layer_eq_ok_iff.1 hb
  obtain ⟨hn', hbase'⟩ := layer_eq_ok_iff.1 hb'
  obtain ⟨s, rest, hk⟩ := Key.isBelow_iff.1 h
  obtain ⟨s', rest', hk'⟩ := Key.isBelow_iff.1 h'
  rw [hk, hbase, hbase'] at hk'
  simp [Segment.encode_inj] at hk'
  exact hk'.1

/-- **A key is below the key of one gridset at most.** -/
lemma gridset_eq_of_isBelow (hb : l.gridset n g = .ok base) (hb' : l.gridset n' g' = .ok base')
    (h : k.isBelow base = true) (h' : k.isBelow base' = true) : n = n' ∧ g = g' := by
  obtain ⟨hn, hg, hbase⟩ := gridset_eq_ok_iff.1 hb
  obtain ⟨hn', hg', hbase'⟩ := gridset_eq_ok_iff.1 hb'
  obtain ⟨s, rest, hk⟩ := Key.isBelow_iff.1 h
  obtain ⟨s', rest', hk'⟩ := Key.isBelow_iff.1 h'
  rw [hk, hbase, hbase'] at hk'
  simp [Segment.encode_inj] at hk'
  exact ⟨hk'.1, hk'.2.1⟩

end TileCache.Layout
