import TileCache.Layout
import TileCache.Proofs.Key
set_option autoImplicit false

/-!
# Keys are addresses

A key determines what it was made from. The segments of a tile's key below the root are those of its
slot: layer, gridset, canonical format, parameters, coordinate. Each is injective, for
percent-encoding is, decimal numerals are, and a row holds no dot to be taken for the one before the
extension. Spellings of one format share their extension, so the format's identifier decides the
leaf too. The segments of a metadata key are fewer, and its leaf does not begin with a digit.

## Main definitions

* `TileCache.Slot` — the address of a tile, one for all spellings of its format and parameters.
* `TileCache.Slot.IsNamed` — whether all identifiers of an address can be segments.
* `TileCache.Slot.path` — the segments of an address.

## Main results

* `TileCache.Layout.tile_eq_ok_iff` — the key of a tile, by its segments.
* `TileCache.Layout.tile_key_inj`, `metadata_key_inj` — keys are equal just if addresses are.
* `TileCache.Layout.keys_determine_addresses` — all of this across stores.
-/

namespace TileCache

/-! ## Formats -/

namespace Format

/-- Each identifier in the table is not empty and finds a format with the same identifier and the
same extension. -/
private lemma known_sound : ∀ f ∈ known, f.id ≠ "" ∧
    (find? f.id).map (fun g => (g.id, g.extension)) = some (f.id, f.extension) := by
  decide +kernel

/-- The empty name is that of no known format. -/
private lemma find?_empty : find? "" = none := by
  decide +kernel

/-- What is found is in the table. -/
lemma mem_known_of_find? {name : String} {format : Format} (h : find? name = some format) :
    format ∈ known := by
  unfold find? at h
  exact List.mem_of_find?_eq_some h

/-- A canonical identifier stands for the same format as the name. -/
lemma find?_canonicalId (name : String) :
    (find? (canonicalId name)).map (fun g => (g.id, g.extension)) =
      (find? name).map fun g => (g.id, g.extension) := by
  cases h : find? name with
  | none => simp [canonicalId, h]
  | some f => simpa [canonicalId, h] using (known_sound f (mem_known_of_find? h)).2

/-- Names with one canonical identifier have one extension. -/
lemma extensionOf_canonicalId (name : String) :
    extensionOf (canonicalId name) = extensionOf name := by
  have h := find?_canonicalId name
  unfold extensionOf
  cases hc : find? (canonicalId name) <;> cases hn : find? name <;> simp_all

/-- Only the empty name has the empty identifier. -/
lemma canonicalId_eq_empty_iff {name : String} : canonicalId name = "" ↔ name = "" := by
  unfold canonicalId
  cases h : find? name with
  | none => rfl
  | some f =>
    have hid := (known_sound f (mem_known_of_find? h)).1
    have hname : name ≠ "" := by
      rintro rfl
      rw [find?_empty] at h
      cases h
    simp [hid, hname]

end Format

/-! ## Numbers in keys -/

namespace Layout

/-- A decimal numeral holds no dot. -/
lemma dot_not_mem_toDigits (n : ℕ) : '.' ∉ Nat.toDigits 10 n := by
  intro h
  have := Nat.isDigit_of_mem_toDigits (by decide) (by decide) h
  simp at this

/-- A decimal numeral is what stands before the first dot behind it. -/
lemma takeWhile_toDigits (n : ℕ) (rest : List Char) :
    (Nat.toDigits 10 n ++ '.' :: rest).takeWhile (· != '.') = Nat.toDigits 10 n := by
  rw [List.takeWhile_append_of_pos]
  · simp
  · intro c hc
    have hne : c ≠ '.' := by
      rintro rfl
      exact dot_not_mem_toDigits n hc
    simpa using hne

/-- Numbers with one decimal numeral are one number. -/
lemma toDigits_inj {m n : ℕ} (h : Nat.toDigits 10 m = Nat.toDigits 10 n) : m = n := by
  have := congrArg (Nat.ofDigitChars 10 · 0) h
  simpa using this

/-- Numbers with one text are one number. -/
lemma toString_toNat_inj {m n : UInt32} : toString m.toNat = toString n.toNat ↔ m = n := by
  constructor
  · intro h
    have h := congrArg String.toList h
    simp only [Nat.toString_eq_repr, Nat.toList_repr] at h
    exact UInt32.toNat_inj.1 (toDigits_inj h)
  · rintro rfl
    rfl

/-- Numbers with one segment are one number. -/
lemma numeral_inj {m n : UInt32} : numeral m = numeral n ↔ m = n := by
  unfold numeral
  rw [Segment.encode_inj, toString_toNat_inj]

/-- The characters of a row, a dot and an extension. -/
lemma toList_leaf (row : ℕ) (extension : String) :
    (toString row ++ "." ++ extension).toList = Nat.toDigits 10 row ++ '.' :: extension.toList := by
  rw [String.toList_append, String.toList_append, Nat.toString_eq_repr, Nat.toList_repr,
    List.append_assoc]
  rfl

/-- The name of a metadata leaf is not changed by percent-encoding. -/
lemma metadataLeaf_eq :
    metadataLeaf = Segment.encode "metadata.properties" (by decide) := by
  apply Segment.ext_text
  decide +kernel

end Layout

/-! ## Addresses of tiles -/

/-- The address of a tile: what its key is made of. -/
structure Slot where
  layer : String
  gridset : String
  /-- The canonical identifier of the format. -/
  format : String
  parameters : String
  coord : Coord
  deriving DecidableEq, Repr

/-- The address of a tile. All spellings of a format have one identifier, and a tile without
parameters has the default ones. -/
def Tile.slot (t : Tile) : Slot where
  layer := t.layer
  gridset := t.gridset
  format := Format.canonicalId t.format
  parameters := t.parameters.getD Layout.defaultParameters
  coord := t.coord

namespace Slot

/-- Whether no identifier of an address is empty, so that all can be segments. -/
structure IsNamed (s : Slot) : Prop where
  layer : s.layer ≠ ""
  gridset : s.gridset ≠ ""
  format : s.format ≠ ""
  parameters : s.parameters ≠ ""

/-- The last segment of an address. -/
def leaf (s : Slot) : Segment :=
  Segment.encode (toString s.coord.y.toNat ++ "." ++ Format.extensionOf s.format) (by simp)

/-- Last segments are equal just if rows and extensions are. -/
lemma leaf_inj {s t : Slot} :
    s.leaf = t.leaf ↔
      s.coord.y = t.coord.y ∧ Format.extensionOf s.format = Format.extensionOf t.format := by
  unfold leaf
  rw [Segment.encode_inj]
  constructor
  · intro h
    have h := congrArg String.toList h
    rw [Layout.toList_leaf, Layout.toList_leaf] at h
    have hrow := congrArg (List.takeWhile (· != '.')) h
    rw [Layout.takeWhile_toDigits, Layout.takeWhile_toDigits] at hrow
    rw [hrow, List.append_cancel_left_eq, List.cons.injEq] at h
    exact ⟨UInt32.toNat_inj.1 (Layout.toDigits_inj hrow), String.toList_injective h.2⟩
  · rintro ⟨hrow, hextension⟩
    rw [hrow, hextension]

/-- **No last segment of an address is that of metadata**, for it begins with a digit. -/
lemma leaf_ne_metadataLeaf (s : Slot) : s.leaf ≠ Layout.metadataLeaf := by
  rw [Layout.metadataLeaf_eq, leaf, Ne, Segment.encode_inj]
  intro h
  have h := congrArg String.toList h
  rw [Layout.toList_leaf] at h
  obtain ⟨d, ds, hd⟩ :=
    List.exists_cons_of_ne_nil (Nat.toDigits_ne_nil (n := s.coord.y.toNat) (b := 10))
  have hdigit : d.isDigit = true :=
    Nat.isDigit_of_mem_toDigits (b := 10) (n := s.coord.y.toNat) (by decide) (by decide)
      (hd ▸ List.mem_cons_self)
  have hm : d = 'm' := by
    rw [hd] at h
    exact (List.cons.inj h).1
  subst hm
  revert hdigit
  decide

/-- The segments of an address. -/
def path (s : Slot) (h : s.IsNamed) : List Segment :=
  [Segment.encode s.layer h.layer, Segment.encode s.gridset h.gridset,
    Segment.encode s.format h.format, Segment.encode s.parameters h.parameters,
    Layout.numeral s.coord.z, Layout.numeral s.coord.x, s.leaf]

/-- A path has seven levels. -/
lemma length_path (s : Slot) (h : s.IsNamed) : (s.path h).length = 7 := rfl

/-- **Addresses with one path are one address.** -/
lemma path_inj {s t : Slot} {hs : s.IsNamed} {ht : t.IsNamed} : s.path hs = t.path ht ↔ s = t := by
  constructor
  · intro h
    simp only [path, List.cons.injEq, Segment.encode_inj, Layout.numeral_inj, leaf_inj] at h
    obtain ⟨hlayer, hgridset, hformat, hparameters, hz, hx, ⟨hy, -⟩, -⟩ := h
    obtain ⟨_, _, _, _, z, x, y⟩ := s
    obtain ⟨_, _, _, _, z', x', y'⟩ := t
    simp_all
  · rintro rfl
    rfl

end Slot

namespace Layout

/-! ## Keys of a store by their segments -/

/-- Two steps succeed just if the first does and then the second. -/
lemma bind_eq_ok_iff {ε α β : Type} {x : Except ε α} {f : α → Except ε β} {b : β} :
    x >>= f = .ok b ↔ ∃ a, x = .ok a ∧ f a = .ok b := by
  cases x <;> simp [bind, Except.bind]

/-- The segment of an identifier, which must not be empty. -/
lemma segment_eq_ok_iff {what : Identifier} {identifier : String} {s : Segment} :
    segment what identifier = .ok s ↔ ∃ h : identifier ≠ "", Segment.encode identifier h = s := by
  unfold segment
  split_ifs with h <;> simp [h]

/-- The key of a layer. -/
lemma layer_eq_ok_iff {l : Layout} {name : String} {key : Key} :
    l.layer name = .ok key ↔ ∃ h : name ≠ "",
      key.segments = l.root.segments ++ [Segment.encode name h] := by
  simp only [layer, bind_eq_ok_iff, segment_eq_ok_iff, pure, Except.pure, Except.ok.injEq,
    Key.eq_iff_segments, Key.segments_child]
  constructor
  · rintro ⟨_, ⟨h, rfl⟩, hkey⟩
    exact ⟨h, hkey.symm⟩
  · rintro ⟨h, hkey⟩
    exact ⟨_, ⟨h, rfl⟩, hkey.symm⟩

/-- The key of a gridset. -/
lemma gridset_eq_ok_iff {l : Layout} {name gridset : String} {key : Key} :
    l.gridset name gridset = .ok key ↔ ∃ (hn : name ≠ "") (hg : gridset ≠ ""),
      key.segments = l.root.segments ++ [Segment.encode name hn, Segment.encode gridset hg] := by
  simp only [Layout.gridset, bind_eq_ok_iff, layer_eq_ok_iff, segment_eq_ok_iff, pure,
    Except.pure, Except.ok.injEq, Key.eq_iff_segments, Key.segments_child]
  constructor
  · rintro ⟨base, ⟨hn, hbase⟩, _, ⟨hg, rfl⟩, hkey⟩
    exact ⟨hn, hg, by simp [← hkey, hbase]⟩
  · rintro ⟨hn, hg, hkey⟩
    exact ⟨l.root.child (Segment.encode name hn), ⟨hn, rfl⟩, _, ⟨hg, rfl⟩, by simp [hkey]⟩

/-- The key of a layer's metadata. -/
lemma metadata_eq_ok_iff {l : Layout} {name : String} {key : Key} :
    l.metadata name = .ok key ↔ ∃ h : name ≠ "",
      key.segments = l.root.segments ++ [Segment.encode name h, metadataLeaf] := by
  simp only [metadata, bind_eq_ok_iff, layer_eq_ok_iff, pure, Except.pure, Except.ok.injEq,
    Key.eq_iff_segments, Key.segments_child]
  constructor
  · rintro ⟨base, ⟨h, hbase⟩, hkey⟩
    exact ⟨h, by simp [← hkey, hbase]⟩
  · rintro ⟨h, hkey⟩
    exact ⟨l.root.child (Segment.encode name h), ⟨h, rfl⟩, by simp [hkey]⟩

/-- The last segment of a tile's key is that of its address. -/
lemma tileLeaf_eq (t : Tile) : tileLeaf t = t.slot.leaf := by
  simp only [tileLeaf, Slot.leaf, Tile.slot, Format.extensionOf_canonicalId]

/-- **The key of a tile**: the root and the path of its address. -/
lemma tile_eq_ok_iff {l : Layout} {t : Tile} {key : Key} :
    l.tile t = .ok key ↔ ∃ h : t.slot.IsNamed,
      key.segments = l.root.segments ++ t.slot.path h := by
  simp only [tile, bind_eq_ok_iff, gridset_eq_ok_iff, segment_eq_ok_iff, pure, Except.pure,
    Except.ok.injEq, Key.eq_iff_segments, Key.segments_child, tileLeaf_eq]
  constructor
  · rintro ⟨base, ⟨hl, hg, hbase⟩, _, ⟨hf, rfl⟩, _, ⟨hp, rfl⟩, hkey⟩
    exact ⟨⟨hl, hg, hf, hp⟩, by simp [← hkey, hbase, Slot.path, Tile.slot]⟩
  · rintro ⟨h, hkey⟩
    refine ⟨(l.root.child (Segment.encode _ h.layer)).child (Segment.encode _ h.gridset),
      ⟨h.layer, h.gridset, ?_⟩, _, ⟨h.format, rfl⟩, _, ⟨h.parameters, rfl⟩, ?_⟩
    · simp [Tile.slot]
    · simp [hkey, Slot.path, Tile.slot]

/-- A tile has a key just if no identifier of it is empty. -/
lemma slot_isNamed_iff {t : Tile} :
    t.slot.IsNamed ↔ t.layer ≠ "" ∧ t.gridset ≠ "" ∧ t.format ≠ "" ∧ t.parameters ≠ some "" := by
  have hparameters : t.parameters.getD defaultParameters ≠ "" ↔ t.parameters ≠ some "" := by
    cases t.parameters <;> simp [defaultParameters]
  constructor
  · intro h
    exact ⟨h.layer, h.gridset, fun hf => h.format (Format.canonicalId_eq_empty_iff.2 hf),
      hparameters.1 h.parameters⟩
  · rintro ⟨hl, hg, hf, hp⟩
    exact ⟨hl, hg, fun h => hf (Format.canonicalId_eq_empty_iff.1 h), hparameters.2 hp⟩

/-! ## Keys of different things -/

section Inj

variable {l l' : Layout} {t t' : Tile} {n n' : String} {k k' : Key}

/-- **Keys of tiles are equal just if the roots and the addresses are.** -/
lemma tile_key_inj (h : l.tile t = .ok k) (h' : l'.tile t' = .ok k') :
    k = k' ↔ l.root = l'.root ∧ t.slot = t'.slot := by
  obtain ⟨hn, hk⟩ := tile_eq_ok_iff.1 h
  obtain ⟨hn', hk'⟩ := tile_eq_ok_iff.1 h'
  rw [Key.eq_iff_segments, hk, hk', Key.eq_iff_segments]
  constructor
  · intro heq
    obtain ⟨hroot, hpath⟩ :=
      List.append_inj' heq ((Slot.length_path _ hn).trans (Slot.length_path _ hn').symm)
    exact ⟨hroot, Slot.path_inj.1 hpath⟩
  · rintro ⟨hroot, hslot⟩
    rw [hroot, Slot.path_inj.2 hslot]

/-- **Keys of metadata are equal just if the roots and the layers are.** -/
lemma metadata_key_inj (h : l.metadata n = .ok k) (h' : l'.metadata n' = .ok k') :
    k = k' ↔ l.root = l'.root ∧ n = n' := by
  obtain ⟨hn, hk⟩ := metadata_eq_ok_iff.1 h
  obtain ⟨hn', hk'⟩ := metadata_eq_ok_iff.1 h'
  rw [Key.eq_iff_segments, hk, hk', Key.eq_iff_segments]
  constructor
  · intro heq
    obtain ⟨hroot, hpath⟩ := List.append_inj' heq rfl
    simp only [List.cons.injEq, Segment.encode_inj] at hpath
    exact ⟨hroot, hpath.1⟩
  · rintro ⟨hroot, rfl⟩
    rw [hroot]

/-- The key of a tile is none of metadata. -/
lemma isMetadata_tile (h : l.tile t = .ok k) : isMetadata k = false := by
  obtain ⟨hn, hk⟩ := tile_eq_ok_iff.1 h
  simp [isMetadata, Key.leaf?, hk, Slot.path, Slot.leaf_ne_metadataLeaf]

/-- The key of metadata is one of metadata. -/
lemma isMetadata_metadata (h : l.metadata n = .ok k) : isMetadata k = true := by
  obtain ⟨hn, hk⟩ := metadata_eq_ok_iff.1 h
  simp [isMetadata, Key.leaf?, hk]

/-- **No tile shares a key with metadata.** -/
lemma tile_key_ne_metadata (h : l.tile t = .ok k) (h' : l'.metadata n = .ok k') : k ≠ k' := by
  rintro rfl
  have := isMetadata_tile h
  rw [isMetadata_metadata h'] at this
  cases this

end Inj

/-- **Keys determine addresses, across all stores.** For stores with the roots `r` and `r'`, tiles
`t` and `t'` and layers `n` and `n'`: the keys of the tiles are one text just if the roots have the
same pieces and the tiles the same address; so it is with the keys of metadata; a tile never shares
its key with metadata; and a tile has a key just if its layer, its gridset and its format are named
and its parameters are not the empty text.

**Proof sketch.** A key is its segments, and these are the root's and then the path of the address
or the two levels of the metadata. Paths have one length, so roots and paths can be compared apart;
a path determines its address level by level, for percent-encoding and numerals are injective. -/
theorem keys_determine_addresses (r r' : String) (t t' : Tile) (n n' : String) :
    (∀ k k', (ofText r).tile t = .ok k → (ofText r').tile t' = .ok k' →
      (k.text = k'.text ↔ Key.pieces r.toList = Key.pieces r'.toList ∧ t.slot = t'.slot)) ∧
    (∀ k k', (ofText r).metadata n = .ok k → (ofText r').metadata n' = .ok k' →
      (k.text = k'.text ↔ Key.pieces r.toList = Key.pieces r'.toList ∧ n = n')) ∧
    (∀ k k', (ofText r).tile t = .ok k → (ofText r').metadata n = .ok k' → k.text ≠ k'.text) ∧
    ((∃ k, (ofText r).tile t = .ok k) ↔
      t.layer ≠ "" ∧ t.gridset ≠ "" ∧ t.format ≠ "" ∧ t.parameters ≠ some "") := by
  have htext : ∀ k k' : Key, k.text = k'.text ↔ k = k' :=
    fun k k' => ⟨Key.ext_text, fun h => h ▸ rfl⟩
  refine ⟨?_, ?_, ?_, ?_⟩
  · intro k k' h h'
    rw [htext, tile_key_inj h h', ← Key.ofText_inj]
    rfl
  · intro k k' h h'
    rw [htext, metadata_key_inj h h', ← Key.ofText_inj]
    rfl
  · intro k k' h h'
    rw [Ne, htext]
    exact tile_key_ne_metadata h h'
  · rw [← slot_isNamed_iff]
    constructor
    · rintro ⟨k, hk⟩
      exact (tile_eq_ok_iff.1 hk).1
    · intro h
      exact ⟨⟨_, _, rfl⟩, tile_eq_ok_iff.2 ⟨h, rfl⟩⟩

/-- Two spellings of one address below two spellings of one root have one key, although their
identifiers are made of what has a meaning in keys. -/
theorem keys_agree_on_spellings :
    let t : Tile := { layer := "a/..", gridset := "metadata.properties", coord := ⟨1, 2, 3⟩,
                      format := "Image / PNG; mode=8bit" }
    let t' : Tile := { t with format := "png8", parameters := some "default" }
    ∃ k k', (ofText "/p//%2F/").tile t = .ok k ∧ (ofText "p/%2F").tile t' = .ok k' ∧
      k.text = k'.text := by
  intro t t'
  obtain ⟨k, hk⟩ := (keys_determine_addresses "/p//%2F/" "" t t "" "").2.2.2.2 (by decide)
  obtain ⟨k', hk'⟩ := (keys_determine_addresses "p/%2F" "" t' t' "" "").2.2.2.2 (by decide)
  refine ⟨k, k', hk, hk', ?_⟩
  exact ((keys_determine_addresses "/p//%2F/" "p/%2F" t t' "" "").1 k k' hk hk').2
    ⟨by decide +kernel, by decide +kernel⟩

end Layout

end TileCache
