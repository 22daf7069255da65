import TileCache.Proofs.Catalogue
import TileCache.Proofs.Dispatch
import TileCache.Proofs.Properties
import TileCache.Proofs.Subtree
set_option autoImplicit false

/-!
# A store is a catalogue

Over a bucket that holds nothing below its root, a store replies as a catalogue does. The bucket
represents the catalogue: under the key of a tile is what the catalogue keeps at its address, under
the key of metadata is its encoding, and below the root is nothing else. Every call keeps this, for
keys determine addresses, subtrees are those of layers and gridsets, and the encoding of metadata
can be undone.

## Main definitions

* `TileCache.Represents` — a bucket holds what a catalogue keeps.

## Main results

* `TileCache.Represents.simulates` — a call does what the catalogue does, and keeps the relation.
* `TileCache.Store.replies_eq_catalogue` — so does every run over a bucket without objects below the
  root.
-/

namespace TileCache

/-- What is kept as an object. -/
def StoredObject.deposit (o : StoredObject) : Deposit :=
  ⟨o.data, o.modified⟩

/-- A bucket holds, below the root of a layout, what a catalogue keeps. -/
structure Represents (l : Layout) (b : Bucket) (c : Catalogue) : Prop where
  /-- Both have seen as many writes. -/
  clock : b.clock = c.clock
  /-- Under the key of a tile is what is kept at its address. -/
  tile : ∀ t k, l.tile t = .ok k → (b.find? k).map StoredObject.deposit = c.tiles.find? t.slot
  /-- Under the key of a layer's metadata is its encoding, and nothing if it is empty. -/
  metadata : ∀ n k, l.metadata n = .ok k →
    (b.find? k).map (·.data) =
      if c.metadata n = .empty then none else some (Properties.encode (c.metadata n))
  /-- Below the root are tiles and metadata only. -/
  below : ∀ k o, b.find? k = some o → k.isBelow l.root = true →
    (∃ t, l.tile t = .ok k) ∨ ∃ n, l.metadata n = .ok k
  /-- What is kept is kept at the address of a tile with a key. -/
  named : ∀ s d, c.tiles.find? s = some d → ∃ t k, t.slot = s ∧ l.tile t = .ok k

namespace Represents

variable {l : Layout} {b b' : Bucket} {c c' : Catalogue} {t : Tile} {n g : String} {k base : Key}

/-- A bucket without objects below the root represents the empty catalogue. -/
lemma empty (h : ∀ k o, b.find? k = some o → k.isBelow l.root = false) :
    Represents l b { clock := b.clock } := by
  have hnone : ∀ k, k.isBelow l.root = true → b.find? k = none :=
    fun k => Bucket.find?_eq_none_of_isBelow h
  refine ⟨rfl, ?_, ?_, ?_, ?_⟩
  · intro t k ht
    rw [hnone k (Layout.tile_isBelow_root ht)]
    rfl
  · intro n k hm
    rw [hnone k (Layout.metadata_isBelow_root hm)]
    rfl
  · intro k o hfind hbelow
    rw [hnone k hbelow] at hfind
    cases hfind
  · intro s d hfind
    cases hfind

/-! ## Writes -/

/-- Storing a tile keeps the relation. -/
lemma store (h : Represents l b c) (ht : l.tile t = .ok k) (blob : Octets) (contentType : String) :
    Represents l (b.put k blob contentType) (c.store t.slot blob) := by
  refine ⟨?_, ?_, ?_, ?_, ?_⟩
  · simp [Catalogue.store, h.clock]
  · intro t' k' ht'
    have hkey : k' = k ↔ t'.slot = t.slot := by
      simpa using Layout.tile_key_inj ht' ht
    rw [b.find?_put, Catalogue.store, SortedMap.find?_insert_eq]
    by_cases heq : t'.slot = t.slot
    · rw [if_pos (hkey.2 heq), if_pos heq, h.clock]
      rfl
    · rw [if_neg (mt hkey.1 heq), if_neg heq]
      exact h.tile t' k' ht'
  · intro n' k' hm
    rw [b.find?_put, if_neg (Layout.tile_key_ne_metadata ht hm).symm]
    exact h.metadata n' k' hm
  · intro k' o hfind hbelow
    rw [b.find?_put] at hfind
    by_cases heq : k' = k
    · exact .inl ⟨t, heq ▸ ht⟩
    · rw [if_neg heq] at hfind
      exact h.below k' o hfind hbelow
  · intro s d hfind
    rw [Catalogue.store, SortedMap.find?_insert_eq] at hfind
    by_cases heq : s = t.slot
    · exact ⟨t, k, heq.symm, ht⟩
    · rw [if_neg heq] at hfind
      exact h.named s d hfind

/-- Writing metadata that is not empty keeps the relation. -/
lemma putMetadata (h : Represents l b c) (hm : l.metadata n = .ok k) {m : Properties}
    (hne : m ≠ .empty) (contentType : String) :
    Represents l (b.put k (Properties.encode m) contentType)
      { c.setMetadata n m with clock := c.clock + 1 } := by
  refine ⟨?_, ?_, ?_, ?_, h.named⟩
  · simp [h.clock]
  · intro t' k' ht'
    rw [b.find?_put, if_neg (Layout.tile_key_ne_metadata ht' hm)]
    exact h.tile t' k' ht'
  · intro n' k' hm'
    have hkey : k' = k ↔ n' = n := by
      simpa using Layout.metadata_key_inj hm' hm
    rw [b.find?_put]
    by_cases heq : n' = n
    · subst heq
      rw [if_pos (hkey.2 rfl)]
      simp [Catalogue.setMetadata, hne]
    · rw [if_neg (mt hkey.1 heq)]
      simp only [Catalogue.setMetadata, Function.update_of_ne heq]
      exact h.metadata n' k' hm'
  · intro k' o hfind hbelow
    rw [b.find?_put] at hfind
    by_cases heq : k' = k
    · exact .inr ⟨n, heq ▸ hm⟩
    · rw [if_neg heq] at hfind
      exact h.below k' o hfind hbelow

/-! ## Removals -/

/-- Removing the tiles whose address passes a test keeps the relation, if the keys that are removed
are those of these tiles. -/
lemma without (h : Represents l b c) (gone : Key → Bool) {test : Slot → Bool}
    (hfind : ∀ k, b'.find? k = if gone k then none else b.find? k) (hclock : b'.clock = b.clock)
    (htile : ∀ t k, l.tile t = .ok k → gone k = test t.slot)
    (hmetadata : ∀ n k, l.metadata n = .ok k → gone k = false) :
    Represents l b' (c.without test) := by
  have hkept : ∀ s, (c.without test).tiles.find? s = if test s then none else c.tiles.find? s := by
    intro s
    rw [Catalogue.without, SortedMap.find?_filter]
    cases test s <;> rfl
  refine ⟨hclock.trans h.clock, ?_, ?_, ?_, ?_⟩
  · intro t k ht
    rw [hfind, hkept, htile t k ht]
    cases test t.slot with
    | true => rfl
    | false => exact h.tile t k ht
  · intro n k hm
    rw [hfind, hmetadata n k hm]
    exact h.metadata n k hm
  · intro k o hk hbelow
    rw [hfind] at hk
    split_ifs at hk
    exact h.below k o hk hbelow
  · intro s d hs
    rw [hkept] at hs
    split_ifs at hs
    exact h.named s d hs

/-- Removing metadata keeps the relation. -/
lemma eraseMetadata (h : Represents l b c) (hm : l.metadata n = .ok k) :
    Represents l (b.erase k) (c.setMetadata n .empty) := by
  refine ⟨h.clock, ?_, ?_, ?_, h.named⟩
  · intro t' k' ht'
    rw [b.find?_erase, if_neg (Layout.tile_key_ne_metadata ht' hm)]
    exact h.tile t' k' ht'
  · intro n' k' hm'
    have hkey : k' = k ↔ n' = n := by
      simpa using Layout.metadata_key_inj hm' hm
    rw [b.find?_erase]
    by_cases heq : n' = n
    · rw [if_pos (hkey.2 heq), heq]
      simp [Catalogue.setMetadata]
    · rw [if_neg (mt hkey.1 heq)]
      simp only [Catalogue.setMetadata, Function.update_of_ne heq]
      exact h.metadata n' k' hm'
  · intro k' o hfind hbelow
    rw [b.find?_erase] at hfind
    split_ifs at hfind
    exact h.below k' o hfind hbelow

/-- Erasing the object of a tile keeps the relation. -/
lemma eraseTile (h : Represents l b c) (ht : l.tile t = .ok k) :
    Represents l (b.erase k) (c.without fun s => s = t.slot) := by
  refine h.without (fun k' => decide (k' = k)) ?_ rfl ?_ ?_
  · intro k'
    simp [b.find?_erase]
  · intro t' k' ht'
    have hkey : k' = k ↔ t'.slot = t.slot := by
      simpa using Layout.tile_key_inj ht' ht
    simp [hkey]
  · intro n' k' hm
    simp [(Layout.tile_key_ne_metadata ht hm).symm]

/-- Clearing what is below the key of a layer keeps the relation. -/
lemma clearLayer (h : Represents l b c) (hb : l.layer n = .ok base) :
    Represents l (b.clearBelow base) (c.without fun s => s.layer = n) := by
  refine h.without _ (b.find?_clearBelow base) rfl ?_ ?_
  · intro t k ht
    rw [Bool.eq_iff_iff, Bool.and_eq_true, Layout.isMetadata_tile ht,
      Layout.tile_isBelow_layer ht hb, decide_eq_true_eq]
    simp [Tile.slot]
  · intro n' k hm
    simp [Layout.isMetadata_metadata hm]

/-- Clearing what is below the key of a gridset keeps the relation. -/
lemma clearGridset (h : Represents l b c) (hb : l.gridset n g = .ok base) :
    Represents l (b.clearBelow base) (c.without fun s => s.layer = n ∧ s.gridset = g) := by
  refine h.without _ (b.find?_clearBelow base) rfl ?_ ?_
  · intro t k ht
    rw [Bool.eq_iff_iff, Bool.and_eq_true, Layout.isMetadata_tile ht,
      Layout.tile_isBelow_gridset ht hb, decide_eq_true_eq]
    simp [Tile.slot]
  · intro n' k hm
    simp [Layout.isMetadata_metadata hm]

/-! ## What is found -/

/-- **The catalogue holds tiles that pass a test just if there are keys to be deleted**, if the keys
below `base` are those of these tiles. -/
lemma holds_iff (h : Represents l b c) {test : Slot → Bool}
    (hroot : ∀ k : Key, k.isBelow base = true → k.isBelow l.root = true)
    (htile : ∀ t k, l.tile t = .ok k → (k.isBelow base = true ↔ test t.slot = true)) :
    c.holds test = true ↔ b.tileKeys base ≠ [] := by
  rw [Catalogue.holds, List.any_eq_true]
  constructor
  · rintro ⟨s, hs, htest⟩
    obtain ⟨⟨s, d⟩, hmem, rfl⟩ := List.mem_map.1 hs
    have hfind : c.tiles.find? s = some d := (c.tiles.find?_eq_some_iff s d).2 hmem
    obtain ⟨t, k, rfl, ht⟩ := h.named s d hfind
    obtain ⟨o, ho, -⟩ := Option.map_eq_some_iff.1 ((h.tile t k ht).trans hfind)
    refine List.ne_nil_of_mem (a := k) ((b.mem_tileKeys_iff base).2 ?_)
    exact ⟨⟨o, ho⟩, (htile t k ht).2 htest, Layout.isMetadata_tile ht⟩
  · intro hne
    obtain ⟨k, hk⟩ := List.exists_mem_of_ne_nil _ hne
    obtain ⟨⟨o, ho⟩, hbelow, hnot⟩ := (b.mem_tileKeys_iff base).1 hk
    rcases h.below k o ho (hroot k hbelow) with ⟨t, ht⟩ | ⟨n, hm⟩
    · have hfind : c.tiles.find? t.slot = some o.deposit := by
        rw [← h.tile t k ht, ho]
        rfl
      refine ⟨t.slot, ?_, (htile t k ht).1 hbelow⟩
      exact List.mem_map.2 ⟨_, (c.tiles.find?_eq_some_iff _ _).1 hfind, rfl⟩
    · rw [Layout.isMetadata_metadata hm] at hnot
      cases hnot

/-- The catalogue holds tiles of a layer just if there are keys to be deleted. -/
lemma holds_layer_iff (h : Represents l b c) (hb : l.layer n = .ok base) :
    (c.holds fun s => s.layer = n) = true ↔ b.tileKeys base ≠ [] := by
  refine h.holds_iff (fun k => Layout.isBelow_root_of_layer hb) ?_
  intro t k ht
  rw [Layout.tile_isBelow_layer ht hb, decide_eq_true_eq]
  rfl

/-- The catalogue holds tiles of a gridset just if there are keys to be deleted. -/
lemma holds_gridset_iff (h : Represents l b c) (hb : l.gridset n g = .ok base) :
    (c.holds fun s => s.layer = n ∧ s.gridset = g) = true ↔ b.tileKeys base ≠ [] := by
  refine h.holds_iff (fun k => Layout.isBelow_root_of_gridset hb) ?_
  intro t k ht
  rw [Layout.tile_isBelow_gridset ht hb, decide_eq_true_eq]
  rfl

/-- A layer has a metadata object just if its metadata is not empty. -/
lemma find?_metadata_eq_none_iff (h : Represents l b c) (hm : l.metadata n = .ok k) :
    b.find? k = none ↔ c.metadata n = .empty := by
  have hdata := h.metadata n k hm
  by_cases hempty : c.metadata n = .empty
  · rw [if_pos hempty, Option.map_eq_none_iff] at hdata
    simp [hdata, hempty]
  · rw [if_neg hempty] at hdata
    obtain ⟨o, ho, -⟩ := Option.map_eq_some_iff.1 hdata
    simp [ho, hempty]

/-- **What is read as the metadata of a layer is its metadata.** -/
lemma properties_eq (h : Represents l b c) (hm : l.metadata n = .ok k) :
    b.properties k = .ok (c.metadata n) := by
  have hdata := h.metadata n k hm
  unfold Bucket.properties
  cases hfind : b.find? k with
  | none => rw [(h.find?_metadata_eq_none_iff hm).1 hfind]
  | some o =>
    have hne : c.metadata n ≠ .empty := by
      rw [Ne, ← h.find?_metadata_eq_none_iff hm, hfind]
      simp
    rw [hfind, if_neg hne] at hdata
    have hencoded : o.data = Properties.encode (c.metadata n) := Option.some.inj hdata
    dsimp only
    rw [hencoded, Properties.decode_encode]

end Represents

/-! ## One call -/

/-- An effect without panic is what the catalogue makes of the call: the same reply, and a bucket
that represents the catalogue afterwards. -/
def Effect.Simulates (e : Effect) (l : Layout) (r : Reply × Catalogue) : Prop :=
  e.reply none = r.1 ∧ Represents l e.bucket r.2

/-- The reply of a call that returns a truth value. -/
def truthReply (value : Bool) : Reply where
  completion := .returned (.truth value)

namespace Represents

variable {s : Store} {b : Bucket} {c : Catalogue}

/-- Storing a tile does what the catalogue does. -/
lemma simulates_put (h : Represents s.layout b c) (hlive : s.live = true) (t : Tile) :
    (s.putEffect b t).Simulates s.layout (c.put t) := by
  have hcheck := s.layout.tile_check t
  unfold Store.putEffect Store.checkedPut Catalogue.put
  rw [Store.guard_of_live hlive]
  cases hblob : t.blob with
  | none => exact ⟨rfl, h⟩
  | some blob =>
    by_cases hformat : t.format = ""
    · simp only [hformat, if_true]
      exact ⟨rfl, h⟩
    · simp only [if_neg hformat]
      cases ht : s.layout.tile t with
      | error e =>
        rw [← hcheck, ht]
        exact ⟨rfl, h⟩
      | ok k =>
        rw [← hcheck, ht]
        exact ⟨rfl, h.store ht blob t.format⟩

/-- Reading a tile does what the catalogue does. -/
lemma simulates_get (h : Represents s.layout b c) (hlive : s.live = true) (t : Tile) :
    (s.getEffect b t).Simulates s.layout (c.get t) := by
  unfold Store.getEffect Catalogue.get
  rw [Store.checkedTile_of_live hlive, ← s.layout.tile_check t]
  cases ht : s.layout.tile t with
  | error e => exact ⟨rfl, h⟩
  | ok k =>
    simp only [Except.map_ok]
    rw [← h.tile t k ht]
    cases b.find? k with
    | none => exact ⟨rfl, h⟩
    | some o => exact ⟨rfl, h⟩

/-- Removing a tile does what the catalogue does. -/
lemma simulates_deleteTile (h : Represents s.layout b c) (hlive : s.live = true) (t : Tile) :
    (s.deleteTileEffect b t).Simulates s.layout (c.deleteTile t) := by
  unfold Store.deleteTileEffect Catalogue.deleteTile
  rw [Store.checkedTile_of_live hlive, ← s.layout.tile_check t]
  cases ht : s.layout.tile t with
  | error e => exact ⟨rfl, h⟩
  | ok k =>
    simp only [Except.map_ok]
    rw [← h.tile t k ht]
    cases b.find? k with
    | none => exact ⟨rfl, h⟩
    | some o => exact ⟨rfl, h.eraseTile ht⟩

/-- Removing a layer does what the catalogue does. -/
lemma simulates_deleteLayer (h : Represents s.layout b c) (hlive : s.live = true) (n : String) :
    (s.deleteLayerEffect b n).Simulates s.layout (c.deleteLayer n) := by
  have hcheck := s.layout.layer_check n
  have hcheck' := s.layout.metadata_check n
  unfold Store.deleteLayerEffect Store.checkedLayer Catalogue.deleteLayer
  rw [Store.guard_of_live hlive, ← hcheck]
  cases hb : s.layout.layer n with
  | error e => exact ⟨rfl, h⟩
  | ok base =>
    cases hm : s.layout.metadata n with
    | error e =>
      rw [hm, ← hcheck, hb] at hcheck'
      cases hcheck'
    | ok metadata =>
      have hholds := h.holds_layer_iff hb
      have hempty := h.find?_metadata_eq_none_iff hm
      have hremoved := (h.clearLayer hb).eraseMetadata hm
      have hexisted : ((c.holds fun s => s.layer = n) || decide (c.metadata n ≠ .empty)) = true ↔
          ¬(b.tileKeys base = [] ∧ b.find? metadata = none) := by
        rw [Bool.or_eq_true, hholds, decide_eq_true_eq, Ne, Ne, hempty]
        tauto
      change Effect.Simulates (if b.tileKeys base = [] ∧ b.find? metadata = none then _ else _) _ _
      by_cases hnone : b.tileKeys base = [] ∧ b.find? metadata = none
      · rw [if_pos hnone]
        rw [b.clearBelow_of_tileKeys_eq_nil base hnone.1, b.erase_of_find?_eq_none hnone.2]
          at hremoved
        have hfalse := Bool.eq_false_iff.2 (mt hexisted.1 (not_not_intro hnone))
        exact ⟨congrArg truthReply hfalse.symm, hremoved⟩
      · rw [if_neg hnone]
        exact ⟨congrArg truthReply (hexisted.2 hnone).symm, hremoved⟩

/-- Removing a gridset does what the catalogue does. -/
lemma simulates_deleteGridset (h : Represents s.layout b c) (hlive : s.live = true)
    (n g : String) : (s.deleteGridsetEffect b n g).Simulates s.layout (c.deleteGridset n g) := by
  unfold Store.deleteGridsetEffect Catalogue.deleteGridset
  rw [Store.checkedGridset_of_live hlive, ← s.layout.gridset_check n g]
  cases hb : s.layout.gridset n g with
  | error e => exact ⟨rfl, h⟩
  | ok base =>
    have hholds := h.holds_gridset_iff hb
    have hclear := h.clearGridset hb
    simp only [Except.map_ok]
    by_cases hnone : b.tileKeys base = []
    · rw [if_pos hnone]
      rw [b.clearBelow_of_tileKeys_eq_nil base hnone] at hclear
      have hfalse : (c.holds fun s => s.layer = n ∧ s.gridset = g) = false := by
        rw [← Bool.not_eq_true, hholds, not_not]
        exact hnone
      exact ⟨congrArg truthReply hfalse.symm, hclear⟩
    · rw [if_neg hnone]
      exact ⟨congrArg truthReply (hholds.2 hnone).symm, hclear⟩

/-- Reading metadata does what the catalogue does. -/
lemma simulates_getMetadata (h : Represents s.layout b c) (hlive : s.live = true)
    (n name : String) :
    (s.getMetadataEffect b n name).Simulates s.layout (c.getMetadata n name) := by
  unfold Store.getMetadataEffect Catalogue.getMetadata
  rw [Store.checkedMetadata_of_live hlive, ← s.layout.metadata_check n]
  cases hm : s.layout.metadata n with
  | error e => exact ⟨rfl, h⟩
  | ok k =>
    simp only [Except.map_ok]
    rw [h.properties_eq hm]
    exact ⟨rfl, h⟩

/-- Writing metadata does what the catalogue does. -/
lemma simulates_putMetadata (h : Represents s.layout b c) (hlive : s.live = true)
    (n name value : String) :
    (s.putMetadataEffect b n name value).Simulates s.layout (c.putMetadata n name value) := by
  unfold Store.putMetadataEffect Catalogue.putMetadata
  rw [Store.checkedMetadata_of_live hlive, ← s.layout.metadata_check n]
  cases hm : s.layout.metadata n with
  | error e => exact ⟨rfl, h⟩
  | ok k =>
    simp only [Except.map_ok]
    rw [h.properties_eq hm]
    have hne : (c.metadata n).insert name value ≠ .empty := by
      intro heq
      have hfind := SortedMap.find?_insert_self (c.metadata n) name value
      rw [heq] at hfind
      cases hfind
    exact ⟨rfl, h.putMetadata hm hne _⟩

/-- **Every call does what the catalogue does.** -/
lemma simulates (h : Represents s.layout b c) (hlive : s.live = true) (call : Call) :
    (call.effect s b).Simulates s.layout (c.step call) := by
  cases call with
  | put t => exact h.simulates_put hlive t
  | get t => exact h.simulates_get hlive t
  | deleteTile t => exact h.simulates_deleteTile hlive t
  | deleteLayer n => exact h.simulates_deleteLayer hlive n
  | deleteGridset n g => exact h.simulates_deleteGridset hlive n g
  | getMetadata n name => exact h.simulates_getMetadata hlive n name
  | putMetadata n name value => exact h.simulates_putMetadata hlive n name value

end Represents

/-! ## Runs -/

namespace World

variable {ctx : Context} {w : World} {c : Catalogue}

/-- A world in which a live store represents a catalogue. -/
structure Shows (w : World) (c : Catalogue) : Prop where
  live : w.store.live = true
  represents : Represents w.store.layout w.session.bucket c

/-- **One operation replies as the catalogue does**, and the world shows the catalogue after it. -/
lemma Shows.perform (h : w.Shows c) (hplan : ctx.plan = .faultless)
    (hcalm : ctx.callbacks.NeverPanic) (call : Call) :
    (call.operation.perform.runIn ctx w).1 = (c.step call).1 ∧
      (call.operation.perform.runIn ctx w).2.Shows (c.step call).2 := by
  obtain ⟨session, hbucket, hrun⟩ := Call.hasEffect_effect hplan call w
  obtain ⟨hreply, hrepresents⟩ := h.represents.simulates h.live call
  have hpanic := Store.panic_notify hcalm w.store w.deliveries
    (call.effect w.store w.session.bucket).event
  rw [hrun, hpanic]
  exact ⟨hreply, h.live, hbucket ▸ hrepresents⟩

/-- A run replies as the catalogue does. -/
lemma Shows.replies (h : w.Shows c) (hplan : ctx.plan = .faultless)
    (hcalm : ctx.callbacks.NeverPanic) (calls : List Call) :
    ((Operation.performAll (calls.map Call.operation)).runIn ctx w).1 = c.replies calls := by
  induction calls generalizing w c with
  | nil => rfl
  | cons call rest ih =>
    obtain ⟨hreply, hshows⟩ := h.perform hplan hcalm call
    rw [List.map_cons, Operation.runIn_performAll_cons, Catalogue.replies, hreply, ih hshows]

end World

/-- **A store is a catalogue to its callers.** Take any live store, whatever its root, the size of
its batches and its listeners, over a bucket that holds nothing strictly below the root, and let no
request fail and no listener panic. Then every run of calls replies, with the tiles that were given,
as the catalogue does which is empty at first.

**Proof sketch.** The bucket represents the empty catalogue. Every call does what the catalogue does
and leaves a bucket that represents the catalogue after it, so the replies agree by induction on the
run. -/
theorem Store.replies_eq_catalogue (ctx : Context) (w : World) (calls : List Call)
    (hlive : w.store.live = true) (hplan : ctx.plan = .faultless)
    (hcalm : ctx.callbacks.NeverPanic)
    (hempty : ∀ k o, w.session.bucket.find? k = some o → k.isBelow w.store.layout.root = false) :
    ((Operation.performAll (calls.map Call.operation)).runIn ctx w).1 =
      ({ clock := w.session.bucket.clock } : Catalogue).replies calls := by
  have hshows : w.Shows { clock := w.session.bucket.clock } :=
    ⟨hlive, Represents.empty hempty⟩
  exact hshows.replies hplan hcalm calls

/-- Names that are made of what has a meaning in keys, over a bucket that others use too: two
spellings are one tile, and removing a gridset that is called like the leaf of metadata leaves the
metadata. -/
theorem Store.replies_of_awkward_names :
    let t : Tile := { layer := "a%/..", gridset := "metadata.properties", coord := ⟨1, 2, 3⟩,
                      format := "Image / PNG; mode=8bit" }
    let t' : Tile := { t with format := "png8", parameters := some "default" }
    let w : World :=
      { store := { Store.ofRoot "p" with listeners := ⟨[.console]⟩ }
        session := { bucket := ({} : Bucket).put (Key.ofText "q/x") [7] "text/plain" } }
    let calls : List Call :=
      [.put (t.withBlob [1, 2]), .putMetadata "a%/.." "k" "v", .get t',
        .deleteGridset "a%/.." "metadata.properties", .deleteTile t, .getMetadata "a%/.." "k",
        .deleteLayer "a%/..", .deleteLayer "a%/.."]
    ((Operation.performAll (calls.map Call.operation)).runIn {} w).1 =
      [⟨.returned .done, none⟩, ⟨.returned .done, none⟩,
        ⟨.returned (.truth true), some { t'.withBlob [1, 2] with created := some 2 }⟩,
        ⟨.returned (.truth true), none⟩, ⟨.returned (.truth false), some t⟩,
        ⟨.returned (.text (some "v")), none⟩, ⟨.returned (.truth true), none⟩,
        ⟨.returned (.truth false), none⟩] := by
  intro t t' w calls
  have hempty : ∀ k o, w.session.bucket.find? k = some o →
      k.isBelow w.store.layout.root = false := by
    intro k o hfind
    rw [Bucket.find?_put] at hfind
    split_ifs at hfind with hk
    · rw [hk]
      decide +kernel
    · cases hfind
  rw [Store.replies_eq_catalogue {} w calls rfl rfl (fun _ _ => rfl) hempty]
  decide +kernel

end TileCache
