import TileCache.Proofs.Subtree
set_option autoImplicit false

/-!
# Keys are matched as texts

A bucket knows nothing of segments. To tell what is under a base it compares texts: the text of the
key must begin with that of the base, and unless one of the two ends there, a slash must follow. For
the keys of a layout this comes to a comparison of segments, since no segment holds a slash or is
empty. Hence what is under the key of a layer or of a gridset is its own subtree and nothing else,
also where names are textual beginnings of others, or hold slashes and escapes.

## Main definitions

* `TileCache.Key.rest?` — what a text has behind a base that it begins with.
* `TileCache.Key.TextWithin`, `TileCache.Key.TextBelow` — being matched by a base, and strictly
  below it, as texts.

## Main results

* `TileCache.Key.rest?_text_eq_some_iff` — what is behind the base are the segments behind its own.
* `TileCache.Key.textWithin_iff`, `TileCache.Key.textBelow_iff` — being matched, by segments.
* `TileCache.Layout.subtrees_exact` — what the keys of layers and of gridsets match.
-/

namespace TileCache

namespace Key

/-! ## Comparing texts -/

/-- What a text has behind a base that it begins with. A slash parts the two, unless one of them is
empty. -/
def rest? (base text : List Char) : Option (List Char) := do
  let rest ← text.dropPrefix? base
  if rest = [] ∨ base = [] then return rest
  rest.dropPrefix? ['/']

/-- The base matches the key: the text of the key is that of the base, or goes on behind it. -/
def TextWithin (k base : Key) : Prop :=
  ∃ rest, rest? base.text.toList k.text.toList = some rest

/-- The base matches the key, and the text of the key goes on behind it. -/
def TextBelow (k base : Key) : Prop :=
  ∃ rest, rest? base.text.toList k.text.toList = some rest ∧ rest ≠ []

/-- A text without its beginning. -/
lemma dropPrefix?_eq_some_iff {cs start rest : List Char} :
    cs.dropPrefix? start = some rest ↔ cs = start ++ rest := by
  rw [List.dropPrefix?_eq_some_iff]
  constructor
  · rintro ⟨start', rfl, hstart⟩
    rw [beq_iff_eq.1 hstart]
  · rintro rfl
    exact ⟨start, rfl, beq_iff_eq.2 rfl⟩

/-- **The three ways to begin with a base**: to be the base, to begin with nothing, and to go on
behind a slash. -/
lemma rest?_eq_some_iff {base text rest : List Char} :
    rest? base text = some rest ↔
      text = base ∧ rest = [] ∨ base = [] ∧ rest = text ∨
        base ≠ [] ∧ text = base ++ '/' :: rest := by
  simp only [rest?, Option.bind_eq_bind, Option.bind_eq_some_iff, dropPrefix?_eq_some_iff]
  constructor
  · rintro ⟨behind, rfl, hbehind⟩
    split_ifs at hbehind with hempty
    · obtain rfl : behind = rest := Option.some.inj hbehind
      rcases hempty with rfl | rfl
      · exact .inl ⟨List.append_nil base, rfl⟩
      · exact .inr (.inl ⟨rfl, rfl⟩)
    · rw [not_or] at hempty
      rw [dropPrefix?_eq_some_iff.1 hbehind]
      exact .inr (.inr ⟨hempty.2, rfl⟩)
  · rintro (⟨rfl, rfl⟩ | ⟨rfl, rfl⟩ | ⟨hbase, rfl⟩)
    · exact ⟨[], (List.append_nil _).symm, if_pos (.inl rfl)⟩
    · exact ⟨rest, rfl, if_pos (.inr rfl)⟩
    · refine ⟨'/' :: rest, rfl, ?_⟩
      rw [if_neg (by simp [hbase])]
      exact dropPrefix?_eq_some_iff.2 rfl

/-! ## Texts of keys -/

/-- There is always a first piece, though it may be empty. -/
lemma splitSlash_ne_nil (cs : List Char) : splitSlash cs ≠ [] := by
  cases cs with
  | nil => simp [splitSlash]
  | cons c cs =>
    unfold splitSlash
    split_ifs
    · simp
    · split <;> simp

/-- A slash between two texts parts their pieces. -/
lemma splitSlash_append_slash (cs rest : List Char) :
    splitSlash (cs ++ '/' :: rest) = splitSlash cs ++ splitSlash rest := by
  induction cs with
  | nil => simp [splitSlash]
  | cons c cs ih =>
    by_cases hc : c = '/'
    · simp [splitSlash, hc, ih]
    · obtain ⟨piece, pieces, hcs⟩ := List.exists_cons_of_ne_nil (splitSlash_ne_nil cs)
      simp [splitSlash, hc, ih, hcs]

/-- A slash between two texts parts their pieces that are not empty. -/
lemma pieces_append_slash (cs rest : List Char) :
    pieces (cs ++ '/' :: rest) = pieces cs ++ pieces rest := by
  rw [pieces, splitSlash_append_slash, List.filter_append]
  rfl

/-- Between the characters of two lists of segments is a slash. -/
lemma joinChars_append {s t : List Segment} (hs : s ≠ []) (ht : t ≠ []) :
    joinChars (s ++ t) = joinChars s ++ '/' :: joinChars t := by
  induction s with
  | nil => exact absurd rfl hs
  | cons first rest ih =>
    cases rest with
    | nil =>
      obtain ⟨next, others, rfl⟩ := List.exists_cons_of_ne_nil ht
      rfl
    | cons second rest =>
      have hrest := ih (List.cons_ne_nil second rest)
      rw [List.cons_append] at hrest
      simp only [List.cons_append, joinChars, hrest, List.append_assoc]

/-- The characters of a key. -/
lemma toList_text (k : Key) : k.text.toList = joinChars k.segments := by
  rw [k.text_eq, String.toList_ofList]

/-- Only no segments have no characters. -/
lemma joinChars_eq_nil_iff {s : List Segment} : joinChars s = [] ↔ s = [] :=
  ⟨fun h => joinChars_injective (t := []) h, fun h => by rw [h]; rfl⟩

/-- If the characters of a list of segments go on behind a slash, then its segments begin with those
in front of the slash.

**Proof sketch.** The pieces of the characters are those of the segments, and the slash parts them.
A segment is known by its characters. -/
lemma prefix_of_joinChars_eq {s t : List Segment} {rest : List Char}
    (h : joinChars t = joinChars s ++ '/' :: rest) : s <+: t := by
  have hpieces := congrArg pieces h
  rw [pieces_append_slash, pieces_joinChars, pieces_joinChars] at hpieces
  obtain ⟨front, hfront, heq⟩ := List.prefix_map_iff.1 ⟨_, hpieces.symm⟩
  have hinjective : Function.Injective fun s : Segment => s.text.toList :=
    fun a b hab => Segment.ext_text (String.toList_injective hab)
  rwa [List.map_injective_iff.2 hinjective heq]

/-! ## Being matched -/

section Matched

variable {k base : Key} {rest : List Char}

/-- If the text of a key begins with a base, its segments begin with those of the base. -/
lemma prefix_of_rest? (h : rest? base.text.toList k.text.toList = some rest) :
    base.segments <+: k.segments := by
  rw [toList_text, toList_text] at h
  rcases rest?_eq_some_iff.1 h with ⟨heq, -⟩ | ⟨hbase, -⟩ | ⟨-, heq⟩
  · exact ⟨[], (List.append_nil _).trans (joinChars_injective heq).symm⟩
  · rw [joinChars_eq_nil_iff.1 hbase]
    exact List.nil_prefix
  · exact prefix_of_joinChars_eq heq

/-- Behind the base are the characters of the segments behind its own. -/
lemma rest?_of_segments {behind : List Segment} (h : k.segments = base.segments ++ behind) :
    rest? base.text.toList k.text.toList = some (joinChars behind) := by
  rw [toList_text, toList_text, rest?_eq_some_iff, h]
  by_cases hbase : base.segments = []
  · rw [hbase]
    exact .inr (.inl ⟨rfl, rfl⟩)
  by_cases hbehind : behind = []
  · rw [hbehind, List.append_nil]
    exact .inl ⟨rfl, rfl⟩
  · exact .inr (.inr ⟨mt joinChars_eq_nil_iff.1 hbase, joinChars_append hbase hbehind⟩)

/-- **What a text has behind a base are the segments behind its own.** -/
lemma rest?_text_eq_some_iff :
    rest? base.text.toList k.text.toList = some rest ↔
      ∃ behind, k.segments = base.segments ++ behind ∧ rest = joinChars behind := by
  constructor
  · intro h
    obtain ⟨behind, hk⟩ := prefix_of_rest? h
    exact ⟨behind, hk.symm, Option.some.inj (h.symm.trans (rest?_of_segments hk.symm))⟩
  · rintro ⟨behind, hk, rfl⟩
    exact rest?_of_segments hk

/-- **To be matched by a base is to have its segments in front.** -/
lemma textWithin_iff : k.TextWithin base ↔ k.isWithin base = true := by
  simp only [TextWithin, rest?_text_eq_some_iff, isWithin_iff]
  constructor
  · rintro ⟨_, behind, hk, -⟩
    exact ⟨behind, hk.symm⟩
  · rintro ⟨behind, hk⟩
    exact ⟨_, behind, hk.symm, rfl⟩

/-- **To be strictly below a base is to have its segments in front and others behind.** -/
lemma textBelow_iff : k.TextBelow base ↔ k.isBelow base = true := by
  simp only [TextBelow, rest?_text_eq_some_iff, isBelow_iff]
  constructor
  · rintro ⟨_, ⟨behind, hk, rfl⟩, hne⟩
    obtain ⟨s, others, rfl⟩ := List.exists_cons_of_ne_nil (mt joinChars_eq_nil_iff.2 hne)
    exact ⟨s, others, hk⟩
  · rintro ⟨s, others, hk⟩
    exact ⟨_, ⟨s :: others, hk, rfl⟩, mt joinChars_eq_nil_iff.1 (List.cons_ne_nil s others)⟩

end Matched

end Key

namespace Layout

variable {l : Layout} {n g : String} {k base : Key}

/-! ## Subtrees -/

/-- The key of a layer is within the root. -/
lemma layer_isWithin_root (h : l.layer n = .ok base) : base.isWithin l.root = true := by
  obtain ⟨hn, hbase⟩ := layer_eq_ok_iff.1 h
  exact Key.isWithin_iff.2 ⟨_, hbase.symm⟩

/-- The key of a gridset is within the root. -/
lemma gridset_isWithin_root (h : l.gridset n g = .ok base) : base.isWithin l.root = true := by
  obtain ⟨hn, hg, hbase⟩ := gridset_eq_ok_iff.1 h
  exact Key.isWithin_iff.2 ⟨_, hbase.symm⟩

/-- The key of a gridset is that of metadata just if the gridset is called like the leaf of metadata
and is in the same layer. -/
lemma gridset_eq_metadata_iff {n' : String} {metadata : Key} (h : l.gridset n g = .ok base)
    (h' : l.metadata n' = .ok metadata) :
    base = metadata ↔ n = n' ∧ g = "metadata.properties" := by
  obtain ⟨hn, hg, hbase⟩ := gridset_eq_ok_iff.1 h
  obtain ⟨hn', hmetadata⟩ := metadata_eq_ok_iff.1 h'
  rw [Key.eq_iff_segments, hbase, hmetadata, metadataLeaf_eq]
  simp [Segment.encode_inj]

/-- **A key below one root is not within a key that is within another**, if neither root is within
the other. -/
lemma not_isWithin_of_roots {l' : Layout} (hout : l.root.isWithin l'.root = false)
    (hout' : l'.root.isWithin l.root = false) (hk : k.isBelow l.root = true)
    (hbase : base.isWithin l'.root = true) : ¬k.isWithin base = true := by
  intro hwithin
  have hk' : k.isWithin l'.root = true := by
    rw [Key.isWithin_iff] at hbase hwithin ⊢
    exact hbase.trans hwithin
  have hin := Key.isWithin_or_isWithin (Key.isWithin_of_isBelow hk) hk'
  simp [hout, hout'] at hin

/-- **Keys of layers and of gridsets match exactly their own subtrees.** Take any layout, a tile of
which no identifier is empty, and any names of layers `n` and `n'` and of a gridset `g'`. All of them
have keys. The tile is strictly below the key of the layer `n'` just if this is its layer, and
strictly below the key of the gridset just if this is its gridset, in its layer. The metadata of `n`
is strictly below the key of the layer `n'` just if the two are one; it is strictly below the key of
no gridset, not even if the gridset is called like the leaf of metadata, which is when the two have
one key. That leaf tells metadata from tiles. And if of two roots neither matches the other, then no
key of a layer or gridset below the one matches a tile or metadata below the other.

**Proof sketch.** Matching of texts is matching of segments. The segments of all these keys are those
of the root, and then one for each name, which determines the name; the path of a tile goes on below
its gridset, that of metadata ends there. -/
theorem subtrees_exact (l : Layout) (t : Tile) (n n' g' : String)
    (hlayer : t.layer ≠ "") (hgridset : t.gridset ≠ "") (hformat : t.format ≠ "")
    (hparameters : t.parameters ≠ some "") (hn : n ≠ "") (hn' : n' ≠ "") (hg' : g' ≠ "") :
    ∃ key metadata layer gridset : Key,
      l.tile t = .ok key ∧ l.metadata n = .ok metadata ∧ l.layer n' = .ok layer ∧
      l.gridset n' g' = .ok gridset ∧
      (key.TextBelow layer ↔ t.layer = n') ∧
      (key.TextBelow gridset ↔ t.layer = n' ∧ t.gridset = g') ∧
      (metadata.TextBelow layer ↔ n = n') ∧ ¬metadata.TextBelow gridset ∧
      (gridset = metadata ↔ n' = n ∧ g' = "metadata.properties") ∧
      isMetadata metadata = true ∧ isMetadata key = false ∧
      ∀ l' : Layout, ¬l.root.TextWithin l'.root → ¬l'.root.TextWithin l.root →
        ∀ base, (∃ n'', l'.layer n'' = .ok base) ∨ (∃ n'' g'', l'.gridset n'' g'' = .ok base) →
          ¬key.TextWithin base ∧ ¬metadata.TextWithin base := by
  have hnamed : t.slot.IsNamed := slot_isNamed_iff.2 ⟨hlayer, hgridset, hformat, hparameters⟩
  obtain ⟨key, hkey⟩ : ∃ key, l.tile t = .ok key := ⟨⟨_, _, rfl⟩, tile_eq_ok_iff.2 ⟨hnamed, rfl⟩⟩
  obtain ⟨metadata, hmetadata⟩ : ∃ k, l.metadata n = .ok k :=
    ⟨⟨_, _, rfl⟩, metadata_eq_ok_iff.2 ⟨hn, rfl⟩⟩
  obtain ⟨layer, hlayer'⟩ : ∃ k, l.layer n' = .ok k := ⟨⟨_, _, rfl⟩, layer_eq_ok_iff.2 ⟨hn', rfl⟩⟩
  obtain ⟨gridset, hgridset'⟩ : ∃ k, l.gridset n' g' = .ok k :=
    ⟨⟨_, _, rfl⟩, gridset_eq_ok_iff.2 ⟨hn', hg', rfl⟩⟩
  simp only [Key.textBelow_iff, Key.textWithin_iff, Bool.not_eq_true]
  refine ⟨key, metadata, layer, gridset, hkey, hmetadata, hlayer', hgridset',
    tile_isBelow_layer hkey hlayer', tile_isBelow_gridset hkey hgridset',
    metadata_isBelow_layer hmetadata hlayer', not_metadata_isBelow_gridset hmetadata hgridset',
    gridset_eq_metadata_iff hgridset' hmetadata, isMetadata_metadata hmetadata,
    isMetadata_tile hkey, ?_⟩
  intro l' hout hout' base hbase
  have hroot : base.isWithin l'.root = true := by
    rcases hbase with ⟨n'', hbase⟩ | ⟨n'', g'', hbase⟩
    · exact layer_isWithin_root hbase
    · exact gridset_isWithin_root hbase
  exact ⟨Bool.eq_false_iff.2 (not_isWithin_of_roots hout hout' (tile_isBelow_root hkey) hroot),
    Bool.eq_false_iff.2 (not_isWithin_of_roots hout hout' (metadata_isBelow_root hmetadata) hroot)⟩

/-- A layer with a name that seems to lead to another, and a gridset that is called like the leaf of
metadata: the tile is below the gridset and not below the other layer, the metadata is not below the
gridset although the two have one key, and a root whose text goes on behind that of the first has
nothing to do with either. -/
theorem subtrees_of_awkward_names :
    let t : Tile := { layer := "a/..", gridset := "metadata.properties", coord := ⟨1, 2, 3⟩,
                      format := "image/png" }
    ∃ key metadata gridset other foreign : Key,
      (ofText "p").tile t = .ok key ∧ (ofText "p").metadata "a/.." = .ok metadata ∧
      (ofText "p").gridset "a/.." "metadata.properties" = .ok gridset ∧
      (ofText "p").layer "a" = .ok other ∧ (ofText "p.a").layer "a/.." = .ok foreign ∧
      key.TextBelow gridset ∧ ¬key.TextBelow other ∧
      gridset = metadata ∧ ¬metadata.TextBelow gridset ∧
      ¬key.TextWithin foreign ∧ ¬metadata.TextWithin foreign := by
  intro t
  obtain ⟨key, metadata, -, gridset, hkey, hmetadata, -, hgridset, -, hbelow, -, hnone, hsame, -, -,
      happart⟩ :=
    subtrees_exact (ofText "p") t "a/.." "a/.." "metadata.properties" (by decide) (by decide)
      (by decide) (by decide) (by decide) (by decide) (by decide)
  obtain ⟨key', -, other, -, hkey', -, hother, -, hbelow', -⟩ :=
    subtrees_exact (ofText "p") t "a/.." "a" "g" (by decide) (by decide) (by decide) (by decide)
      (by decide) (by decide) (by decide)
  obtain rfl : key = key' := Except.ok.inj (hkey.symm.trans hkey')
  obtain ⟨foreign, hforeign⟩ : ∃ k, (ofText "p.a").layer "a/.." = .ok k :=
    ⟨⟨_, _, rfl⟩, layer_eq_ok_iff.2 ⟨by decide, rfl⟩⟩
  obtain ⟨hkeyout, hmetadataout⟩ := happart (ofText "p.a")
    (mt Key.textWithin_iff.1 (by decide +kernel)) (mt Key.textWithin_iff.1 (by decide +kernel))
    foreign (.inl ⟨_, hforeign⟩)
  exact ⟨key, metadata, gridset, other, foreign, hkey, hmetadata, hgridset, hother, hforeign,
    hbelow.2 ⟨rfl, rfl⟩, mt hbelow'.1 (by decide), hsame.2 ⟨rfl, rfl⟩, hnone, hkeyout,
    hmetadataout⟩

end Layout

end TileCache
