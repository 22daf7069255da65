import TileCache.Proofs.BulkDelete
import TileCache.Proofs.Layout
import TileCache.Store
set_option autoImplicit false

/-!
# The requests of one operation

Every operation that stores, reads or removes something first checks its arguments and the store,
and only then makes requests. The checks are a function of store and arguments alone. What passes
them is turned into requests, and of these it is said what they make of the bucket if none fails.

## Main definitions

* `TileCache.Store.checkedPut`, `checkedTile`, `checkedLayer`, `checkedGridset`, `checkedMetadata` —
  the checks, which return the keys that the requests are about.
* `TileCache.Bucket.properties` — the metadata kept under a key.

## Main results

* `TileCache.Store.checkedPut_bind`, `checkedTile_bind`, `checkedLayer_bind`,
  `checkedGridset_bind`, `checkedMetadata_bind` — the operations begin with the checks.
* `TileCache.Store.serves_writeTile`, `serves_readTile`, `serves_eraseTile_some`,
  `serves_eraseLayer_some`, `serves_eraseGridset`, `serves_readMetadata`, `serves_writeMetadata` —
  what each makes of a bucket.
-/

namespace TileCache

namespace RequestM

variable {α β : Type}

/-- A check that passes makes no request. -/
@[simp]
lemma ofExcept_ok (a : α) :
    (MonadExcept.ofExcept (.ok a : Except StorageError α) : RequestM α) = pure a := rfl

/-- Checks in sequence are one check. -/
lemma ofExcept_bind (x : Except StorageError α) (f : α → Except StorageError β) :
    (MonadExcept.ofExcept (x >>= f) : RequestM β) =
      MonadExcept.ofExcept x >>= fun a => MonadExcept.ofExcept (f a) := by
  cases x with
  | error e => rfl
  | ok a =>
    rw [ofExcept_ok, pure_bind]
    rfl

end RequestM

/-- The metadata kept under a key, empty if there is none. -/
def Bucket.properties (b : Bucket) (key : Key) : Except StorageError Properties :=
  match b.find? key with
  | some o => Properties.decode o.data
  | none => .ok .empty

namespace Store

open RequestM

variable (s : Store)

/-! ## Checks -/

/-- Fails once the store has been shut down. -/
def guard : Except StorageError Unit :=
  if s.live then .ok () else .error .destroyed

/-- The blob and the key that a tile is stored with. -/
def checkedPut (t : Tile) : Except StorageError (Octets × Key) := do
  let some blob := t.blob | throw (.invalidArgument .blobRequired)
  if t.format = "" then throw (.invalidArgument .formatRequired)
  let key ← s.layout.tile t
  s.guard
  return (blob, key)

/-- The key that a tile is read or removed with. -/
def checkedTile (t : Tile) : Except StorageError Key := do
  let key ← s.layout.tile t
  s.guard
  return key

/-- The keys of a layer and of its metadata. -/
def checkedLayer (n : String) : Except StorageError (Key × Key) := do
  let base ← s.layout.layer n
  let metadata ← s.layout.metadata n
  s.guard
  return (base, metadata)

/-- The key of a gridset. -/
def checkedGridset (n g : String) : Except StorageError Key := do
  let base ← s.layout.gridset n g
  s.guard
  return base

/-- The key of a layer's metadata. -/
def checkedMetadata (n : String) : Except StorageError Key := do
  s.guard
  s.layout.metadata n

/-- A store that has been shut down fails the check. -/
lemma requireLive_eq : s.requireLive = MonadExcept.ofExcept s.guard := by
  unfold requireLive guard
  cases s.live <;> rfl

/-! ## Operations begin with the checks -/

section Bind

variable {α : Type}

/-- Storing a tile begins with its check. -/
lemma checkedPut_bind {t : Tile} {blob : Octets} (hblob : t.blob = some blob)
    (hformat : t.format ≠ "") (f : Key → RequestM α) :
    (MonadExcept.ofExcept (s.checkedPut t) >>= fun x => f x.2) = (do
      let key ← MonadExcept.ofExcept (s.layout.tile t)
      s.requireLive
      f key) := by
  simp only [checkedPut, hblob, if_neg hformat, requireLive_eq, ofExcept_bind, bind_assoc]
  rfl

/-- Reading and removing a tile begin with its check. -/
lemma checkedTile_bind (t : Tile) (f : Key → RequestM α) :
    (MonadExcept.ofExcept (s.checkedTile t) >>= f) = (do
      let key ← MonadExcept.ofExcept (s.layout.tile t)
      s.requireLive
      f key) := by
  simp only [checkedTile, requireLive_eq, ofExcept_bind, bind_assoc]
  rfl

/-- Removing a layer begins with its check. -/
lemma checkedLayer_bind (n : String) (f : Key → Key → RequestM α) :
    (MonadExcept.ofExcept (s.checkedLayer n) >>= fun x => f x.1 x.2) = (do
      let base ← MonadExcept.ofExcept (s.layout.layer n)
      let metadata ← MonadExcept.ofExcept (s.layout.metadata n)
      s.requireLive
      f base metadata) := by
  simp only [checkedLayer, requireLive_eq, ofExcept_bind, bind_assoc]
  rfl

/-- Removing a gridset begins with its check. -/
lemma checkedGridset_bind (n g : String) (f : Key → RequestM α) :
    (MonadExcept.ofExcept (s.checkedGridset n g) >>= f) = (do
      let base ← MonadExcept.ofExcept (s.layout.gridset n g)
      s.requireLive
      f base) := by
  simp only [checkedGridset, requireLive_eq, ofExcept_bind, bind_assoc]
  rfl

/-- Reading and writing metadata begin with its check. -/
lemma checkedMetadata_bind (n : String) (f : Key → RequestM α) :
    (MonadExcept.ofExcept (s.checkedMetadata n) >>= f) = (do
      s.requireLive
      let key ← MonadExcept.ofExcept (s.layout.metadata n)
      f key) := by
  simp only [checkedMetadata, requireLive_eq, ofExcept_bind, bind_assoc]

end Bind

/-! ## What passes the checks -/

section Passed

variable {s} {t : Tile} {n g : String} {blob : Octets} {key base : Key}

/-- A store passes its check just if it has not been shut down. -/
lemma guard_eq_ok_iff {u : Unit} : s.guard = .ok u ↔ s.live = true := by
  unfold guard
  cases s.live <;> simp

/-- A store that has not been shut down passes its check. -/
lemma guard_of_live (h : s.live = true) : s.guard = .ok () :=
  guard_eq_ok_iff.2 h

/-- A store that has been shut down does not pass its check. -/
lemma guard_of_dead (h : s.live = false) : s.guard = .error .destroyed := by
  rw [guard, h]
  rfl

/-- The key of a tile is all that is checked of it while the store is live. -/
lemma checkedTile_of_live (h : s.live = true) (t : Tile) : s.checkedTile t = s.layout.tile t := by
  unfold checkedTile
  rw [guard_of_live h]
  exact bind_pure _

/-- The key of a gridset is all that is checked of it while the store is live. -/
lemma checkedGridset_of_live (h : s.live = true) (n g : String) :
    s.checkedGridset n g = s.layout.gridset n g := by
  unfold checkedGridset
  rw [guard_of_live h]
  exact bind_pure _

/-- The key of metadata is all that is checked of it while the store is live. -/
lemma checkedMetadata_of_live (h : s.live = true) (n : String) :
    s.checkedMetadata n = s.layout.metadata n := by
  unfold checkedMetadata
  rw [guard_of_live h]
  rfl

/-- A tile can be stored just if it has a blob and a format and a key. -/
lemma checkedPut_eq_ok_iff :
    s.checkedPut t = .ok (blob, key) ↔
      t.blob = some blob ∧ t.format ≠ "" ∧ s.layout.tile t = .ok key ∧ s.live = true := by
  unfold checkedPut
  cases t.blob with
  | none => simp [throw, throwThe, MonadExceptOf.throw]
  | some blob' =>
    by_cases hformat : t.format = ""
    · simp [hformat, throw, throwThe, MonadExceptOf.throw, bind, Except.bind]
    · simp only [hformat, if_false, Layout.bind_eq_ok_iff, guard_eq_ok_iff, pure, Except.pure,
        Except.ok.injEq, Prod.mk.injEq]
      constructor
      · rintro ⟨key', hkey, _, hlive, rfl, rfl⟩
        exact ⟨rfl, hformat, hkey, hlive⟩
      · rintro ⟨hblob, -, hkey, hlive⟩
        exact ⟨key, hkey, (), hlive, Option.some.inj hblob, rfl⟩

/-- A tile can be read and removed just if it has a key. -/
lemma checkedTile_eq_ok_iff :
    s.checkedTile t = .ok key ↔ s.layout.tile t = .ok key ∧ s.live = true := by
  simp [checkedTile, Layout.bind_eq_ok_iff, guard_eq_ok_iff, pure, Except.pure]

/-- A layer can be removed just if it and its metadata have keys. -/
lemma checkedLayer_eq_ok_iff :
    s.checkedLayer n = .ok (base, key) ↔
      s.layout.layer n = .ok base ∧ s.layout.metadata n = .ok key ∧ s.live = true := by
  simp only [checkedLayer, Layout.bind_eq_ok_iff, guard_eq_ok_iff, pure, Except.pure,
    Except.ok.injEq, Prod.mk.injEq]
  constructor
  · rintro ⟨base, hbase, key, hkey, _, hlive, rfl, rfl⟩
    exact ⟨hbase, hkey, hlive⟩
  · rintro ⟨hbase, hkey, hlive⟩
    exact ⟨base, hbase, key, hkey, (), hlive, rfl, rfl⟩

/-- A gridset can be removed just if it has a key. -/
lemma checkedGridset_eq_ok_iff :
    s.checkedGridset n g = .ok base ↔ s.layout.gridset n g = .ok base ∧ s.live = true := by
  simp [checkedGridset, Layout.bind_eq_ok_iff, guard_eq_ok_iff, pure, Except.pure]

/-- Metadata can be read and written just if it has a key. -/
lemma checkedMetadata_eq_ok_iff :
    s.checkedMetadata n = .ok key ↔ s.layout.metadata n = .ok key ∧ s.live = true := by
  simp [checkedMetadata, Layout.bind_eq_ok_iff, guard_eq_ok_iff, and_comm]

end Passed

/-! ## The requests that follow -/

section Serves

variable {s} {t : Tile} {n g : String} {blob : Octets} {key base : Key} {e : StorageError}
  (b : Bucket)

/-- A tile that does not pass its check is not stored. -/
lemma serves_writeTile_error (h : s.checkedPut t = .error e) :
    Serves (writeTile t s) b (.error e) b := by
  cases hblob : t.blob with
  | none =>
    simp only [checkedPut, writeTile, hblob] at h ⊢
    cases h
    exact serves_throw _ b
  | some blob =>
    by_cases hformat : t.format = ""
    · simp only [checkedPut, writeTile, hblob, if_pos hformat] at h ⊢
      cases h
      exact serves_throw _ b
    · unfold writeTile
      simp only [hblob, if_neg hformat]
      rw [← checkedPut_bind s hblob hformat, h]
      exact serves_throw e b

/-- **Storing a tile** writes its object. The event, if somebody listens, says what was there. -/
lemma serves_writeTile (h : s.checkedPut t = .ok (blob, key)) :
    Serves (writeTile t s) b
      (.ok (if s.listeners.isEmpty then none
        else some (match b.find? key with
          | some o => .tileUpdated t o.size
          | none => .tileStored t)))
      (b.put key blob t.format) := by
  obtain ⟨hblob, hformat, -, -⟩ := checkedPut_eq_ok_iff.1 h
  unfold writeTile
  simp only [hblob, if_neg hformat]
  rw [← checkedPut_bind s hblob hformat, h]
  have hwrite : Serves (writeTile.writeBlob t key blob) b (.ok ()) (b.put key blob t.format) :=
    (Backend.serves_put key b blob t.format).bind (Backend.serves_count _ _)
  cases hlisteners : s.listeners.isEmpty with
  | true => exact hwrite.bind (serves_pure _ _)
  | false =>
    refine (Backend.serves_head key b).bind (hwrite.bind ?_)
    cases b.find? key <;> exact serves_pure _ _

/-- A tile that does not pass its check is not read. -/
lemma serves_readTile_error (h : s.checkedTile t = .error e) :
    Serves (readTile t s) b (.error e) b := by
  unfold readTile
  rw [← checkedTile_bind, h]
  exact serves_throw e b

/-- Reading a tile finds its object. -/
lemma serves_readTile (h : s.checkedTile t = .ok key) :
    Serves (readTile t s) b (.ok (b.find? key)) b := by
  unfold readTile
  rw [← checkedTile_bind, h]
  refine (serves_pure key b).bind ((Backend.serves_get key b).bind ?_)
  cases b.find? key <;> exact (Backend.serves_count _ _).bind (serves_pure _ _)

/-- A tile that does not pass its check is not removed. -/
lemma serves_eraseTile_error (h : s.checkedTile t = .error e) :
    Serves (eraseTile t s) b (.error e) b := by
  unfold eraseTile
  rw [← checkedTile_bind, h]
  exact serves_throw e b

/-- Removing a tile that is not there changes nothing. -/
lemma serves_eraseTile_none (h : s.checkedTile t = .ok key) (hfind : b.find? key = none) :
    Serves (eraseTile t s) b (.ok none) b := by
  have hhead := Backend.serves_head key b
  rw [hfind] at hhead
  unfold eraseTile
  rw [← checkedTile_bind, h]
  exact (serves_pure key b).bind (hhead.bind (serves_pure _ _))

/-- **Removing a tile** that is there erases its object and returns its size. -/
lemma serves_eraseTile_some {o : StoredObject} (h : s.checkedTile t = .ok key)
    (hfind : b.find? key = some o) :
    Serves (eraseTile t s) b (.ok (some o.size)) (b.erase key) := by
  have hhead := Backend.serves_head key b
  rw [hfind] at hhead
  unfold eraseTile
  rw [← checkedTile_bind, h]
  refine (serves_pure key b).bind (hhead.bind ?_)
  refine (Backend.serves_delete key b).bind ?_
  exact (Backend.serves_count _ _).bind (serves_pure _ _)

/-- A layer that does not pass its check is not removed. -/
lemma serves_eraseLayer_error (h : s.checkedLayer n = .error e) :
    Serves (eraseLayer n s) b (.error e) b := by
  unfold eraseLayer
  rw [← checkedLayer_bind, h]
  exact serves_throw e b

/-- Removing a layer that has neither tiles nor metadata changes nothing. -/
lemma serves_eraseLayer_none {metadata : Key} (h : s.checkedLayer n = .ok (base, metadata))
    (htiles : b.tileKeys base = []) (hfind : b.find? metadata = none) :
    Serves (eraseLayer n s) b (.ok false) b := by
  have hrun := BulkDelete.serves_run s.batchSize base b
  rw [htiles, b.clearBelow_of_tileKeys_eq_nil base htiles] at hrun
  have hhead := Backend.serves_head metadata b
  rw [hfind] at hhead
  unfold eraseLayer
  rw [← checkedLayer_bind, h]
  refine (serves_pure _ b).bind (hrun.bind ?_)
  exact (hhead.bind (serves_pure _ _)).bind (serves_pure _ _)

/-- **Removing a layer** that has tiles or metadata erases what is below its key, metadata apart,
and then its metadata. -/
lemma serves_eraseLayer_some {metadata : Key} (h : s.checkedLayer n = .ok (base, metadata))
    (hthere : b.tileKeys base ≠ [] ∨ b.find? metadata ≠ none) :
    Serves (eraseLayer n s) b (.ok true) ((b.clearBelow base).erase metadata) := by
  obtain ⟨-, hmetadata, -⟩ := checkedLayer_eq_ok_iff.1 h
  have hrun := BulkDelete.serves_run s.batchSize base b
  have hdelete := (Backend.serves_delete metadata (b.clearBelow base)).bind
    (f := fun _ => pure true) (serves_pure true _)
  unfold eraseLayer
  rw [← checkedLayer_bind, h]
  refine (serves_pure _ b).bind (hrun.bind ?_)
  by_cases htiles : b.tileKeys base = []
  · obtain ⟨o, ho⟩ := Option.ne_none_iff_exists'.1 (hthere.resolve_left (by simp [htiles]))
    -- Metadata is left out of the batches, so it is still there when it is probed.
    have hhead := Backend.serves_head metadata (b.clearBelow base)
    simp only [b.find?_clearBelow, Layout.isMetadata_metadata hmetadata, ho, Bool.not_true,
      Bool.and_false, Bool.false_eq_true, if_false] at hhead
    rw [if_neg (by simp [htiles])]
    exact hhead.bind ((serves_pure true _).bind hdelete)
  · rw [if_pos (List.length_pos_iff.2 htiles)]
    exact (serves_pure true _).bind hdelete

/-- A gridset that does not pass its check is not removed. -/
lemma serves_eraseGridset_error (h : s.checkedGridset n g = .error e) :
    Serves (eraseGridset n g s) b (.error e) b := by
  unfold eraseGridset
  rw [← checkedGridset_bind, h]
  exact serves_throw e b

/-- **Removing a gridset** erases what is below its key, metadata apart. -/
lemma serves_eraseGridset (h : s.checkedGridset n g = .ok base) :
    Serves (eraseGridset n g s) b (.ok (decide (b.tileKeys base ≠ []))) (b.clearBelow base) := by
  unfold eraseGridset
  rw [← checkedGridset_bind, h]
  refine (serves_pure _ b).bind ((BulkDelete.serves_run s.batchSize base b).bind ?_)
  have hpos : 0 < (b.tileKeys base).length ↔ b.tileKeys base ≠ [] := List.length_pos_iff
  simp only [hpos]
  exact serves_pure _ _

/-- Metadata that does not pass its check is not read. -/
lemma serves_readMetadata_error {name : String} (h : s.checkedMetadata n = .error e) :
    Serves (readMetadata n name s) b (.error e) b := by
  unfold readMetadata loadProperties
  simp only [bind_assoc]
  rw [← checkedMetadata_bind, h]
  exact serves_throw e b

/-- The metadata of a layer is what is kept under its key. -/
lemma serves_loadProperties (h : s.layout.metadata n = .ok key) :
    Serves (s.loadProperties n) b (b.properties key) b := by
  unfold loadProperties Bucket.properties
  rw [h]
  refine (serves_pure key b).bind ((Backend.serves_get key b).bind ?_)
  cases b.find? key with
  | none => exact serves_pure _ _
  | some o => exact serves_ofExcept _ _

/-- Reading metadata looks a name up in what is kept. -/
lemma serves_readMetadata {name : String} (h : s.checkedMetadata n = .ok key) :
    Serves (readMetadata n name s) b ((b.properties key).map (·.find? name)) b := by
  obtain ⟨hkey, hlive⟩ := checkedMetadata_eq_ok_iff.1 h
  have hload := serves_loadProperties b hkey
  unfold readMetadata requireLive
  rw [if_pos hlive]
  refine (serves_pure _ b).bind ?_
  cases hproperties : b.properties key with
  | error e =>
    rw [hproperties] at hload
    exact hload.bind_error
  | ok m =>
    rw [hproperties] at hload
    exact hload.bind (serves_pure _ _)

/-- Metadata that does not pass its check is not written. -/
lemma serves_writeMetadata_error {name value : String} (h : s.checkedMetadata n = .error e) :
    Serves (writeMetadata n name value s) b (.error e) b := by
  unfold writeMetadata loadProperties
  simp only [bind_assoc]
  rw [← checkedMetadata_bind, h]
  exact serves_throw e b

/-- Metadata that cannot be read is not overwritten. -/
lemma serves_writeMetadata_unreadable {name value : String} (h : s.checkedMetadata n = .ok key)
    (hproperties : b.properties key = .error e) :
    Serves (writeMetadata n name value s) b (.error e) b := by
  obtain ⟨hkey, hlive⟩ := checkedMetadata_eq_ok_iff.1 h
  have hload := serves_loadProperties b hkey
  rw [hproperties] at hload
  unfold writeMetadata requireLive
  rw [if_pos hlive]
  exact (serves_pure _ b).bind hload.bind_error

/-- **Writing metadata** writes what is kept with one value changed. -/
lemma serves_writeMetadata {name value : String} {m : Properties}
    (h : s.checkedMetadata n = .ok key) (hproperties : b.properties key = .ok m) :
    Serves (writeMetadata n name value s) b (.ok ())
      (b.put key (Properties.encode (m.insert name value)) Properties.contentType) := by
  obtain ⟨hkey, hlive⟩ := checkedMetadata_eq_ok_iff.1 h
  have hload := serves_loadProperties b hkey
  rw [hproperties] at hload
  unfold writeMetadata requireLive
  rw [if_pos hlive, hkey]
  refine (serves_pure _ b).bind (hload.bind ((serves_pure key b).bind ?_))
  exact Backend.serves_put key b _ _

/-- The check of the access leaves the bucket as it is. -/
lemma exists_serves_probeRoot : ∃ x, Serves (probeRoot s) b x b := by
  have hrest (y : Except StorageError (Option Entry)) :
      ∃ x, Serves (MonadExcept.ofExcept y >>= fun _ => (pure () : RequestM Unit)) b x b := by
    cases y with
    | error e => exact ⟨_, (serves_throw e b).bind_error⟩
    | ok entry => exact ⟨_, (serves_pure entry b).bind (serves_pure () b)⟩
  unfold probeRoot
  rw [requireLive_eq]
  cases hguard : s.guard with
  | error e => exact ⟨_, (serves_throw e b).bind_error⟩
  | ok _ =>
    obtain ⟨x, hx⟩ := hrest _
    exact ⟨x, (serves_pure () b).bind ((Backend.serves_list s.layout.root b).bind hx)⟩

end Serves

end Store

end TileCache
