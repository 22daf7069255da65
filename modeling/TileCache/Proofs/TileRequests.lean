import TileCache.Proofs.CallRequests
set_option autoImplicit false

/-!
# Requests about one tile under any plan

How storing, reading and removing a tile may go if none of their requests fails with an error. The
probe that comes first is answered by the plan, so that what is known of the object is what the plan
says of it.

## Main definitions

* `TileCache.Store.writeEvent` — the event of a tile that was written.
* `TileCache.Store.TileWritten`, `TileErased` — how a tile may be stored and removed.

## Main results

* `TileCache.Store.writeTile_eq` — storing a tile is a check and then one or two requests.
* `TileCache.Store.tileWritten_of_ok`, `exists_of_readTile`, `tileErased_of_ok` — these are all the
  ways in which it may go.
-/

namespace TileCache.Store

open RequestM

variable {s : Store} {t : Tile} {p : Plan} {σ σ' : Session} {key : Key} {blob : Octets}

/-- The event of a tile that was written, given what the probe found. -/
def writeEvent (t : Tile) : Option ObjectInfo → Event
  | some info => .tileUpdated t info.size
  | none => .tileStored t

/-! ## Storing -/

/-- **Storing a tile** is its check and then a write, before which the object is probed if somebody
listens. -/
lemma writeTile_eq (t : Tile) (s : Store) :
    writeTile t s = MonadExcept.ofExcept (s.checkedPut t) >>= fun x =>
      if s.listeners.isEmpty then do
        writeTile.writeBlob t x.2 x.1
        return none
      else do
        let info ← Backend.head x.2
        writeTile.writeBlob t x.2 x.1
        return some (writeEvent t info) := by
  unfold writeTile
  cases hblob : t.blob with
  | none =>
    simp only [checkedPut, hblob]
    rfl
  | some blob =>
    by_cases hformat : t.format = ""
    · simp only [checkedPut, hblob, if_pos hformat]
      rfl
    · simp only [if_neg hformat]
      rw [← checkedPut_bind s hblob hformat]
      cases hcheck : s.checkedPut t with
      | error e => rw [ofExcept_error_bind, ofExcept_error_bind]
      | ok x =>
        obtain ⟨blob', key⟩ := x
        obtain ⟨hblob', -⟩ := checkedPut_eq_ok_iff.1 hcheck
        obtain rfl : blob = blob' := Option.some.inj (hblob.symm.trans hblob')
        simp only [ofExcept_ok, pure_bind]
        congr 2
        funext info
        cases info <;> rfl

/-- How a tile may be stored: the object is probed first if somebody listens. -/
inductive TileWritten (s : Store) (t : Tile) (p : Plan) (σ : Session) (key : Key) (blob : Octets) :
    Option Event → Session → Prop
  | unheard {σ' : Session} (nobody : s.listeners.isEmpty = true)
      (write : (writeTile.writeBlob t key blob).runUnder p σ = (.ok (), σ')) :
      TileWritten s t p σ key blob none σ'
  | heard {info : Option ObjectInfo} {σ₁ σ' : Session} (somebody : s.listeners.isEmpty = false)
      (probe : (Backend.head key).runUnder p σ = (.ok info, σ₁))
      (write : (writeTile.writeBlob t key blob).runUnder p σ₁ = (.ok (), σ')) :
      TileWritten s t p σ key blob (some (writeEvent t info)) σ'

/-- **A tile that is stored** passed its check, and was stored in one of these ways. -/
lemma tileWritten_of_ok {event : Option Event}
    (h : (writeTile t s).runUnder p σ = (.ok event, σ')) :
    ∃ blob key, s.checkedPut t = .ok (blob, key) ∧ TileWritten s t p σ key blob event σ' := by
  rw [writeTile_eq, runUnder_ofExcept_bind_eq_ok_iff] at h
  obtain ⟨⟨blob, key⟩, hcheck, h⟩ := h
  refine ⟨blob, key, hcheck, ?_⟩
  cases hlisteners : s.listeners.isEmpty with
  | true =>
    simp only [hlisteners, if_true] at h
    obtain ⟨_, σ₁, hwrite, h⟩ := runUnder_bind_eq_ok_iff.1 h
    cases h
    exact .unheard hlisteners hwrite
  | false =>
    simp only [hlisteners, Bool.false_eq_true, if_false] at h
    obtain ⟨info, σ₁, hhead, h⟩ := runUnder_bind_eq_ok_iff.1 h
    obtain ⟨_, σ₂, hwrite, h⟩ := runUnder_bind_eq_ok_iff.1 h
    cases h
    exact .heard hlisteners hhead hwrite

/-! ## Reading -/

/-- A tile that is read passed its check, and its object was fetched. -/
lemma exists_of_readTile {o : Option StoredObject}
    (h : (readTile t s).runUnder p σ = (.ok o, σ')) :
    ∃ key, s.checkedTile t = .ok key ∧
      (Backend.get key).runUnder p σ = (.ok o, σ.sent (.get key)) ∧ σ'.bucket = σ.bucket := by
  unfold readTile at h
  rw [← checkedTile_bind, runUnder_ofExcept_bind_eq_ok_iff] at h
  obtain ⟨key, hcheck, h⟩ := h
  obtain ⟨object, σ₁, hget, h⟩ := runUnder_bind_eq_ok_iff.1 h
  have hsent : σ₁ = σ.sent (.get key) := by
    rw [Backend.runUnder_get] at hget
    exact (congrArg Prod.snd hget).symm
  subst hsent
  cases object with
  | none =>
    cases h
    exact ⟨key, hcheck, hget, rfl⟩
  | some o =>
    cases h
    exact ⟨key, hcheck, hget, rfl⟩

/-! ## Removing -/

/-- How a tile may be removed: the object is probed first, and deleted if the probe finds it. -/
inductive TileErased (p : Plan) (σ : Session) (key : Key) : Option ℕ → Session → Prop
  | absent {σ' : Session} (probe : (Backend.head key).runUnder p σ = (.ok none, σ')) :
      TileErased p σ key none σ'
  | removed {info : ObjectInfo} {σ₁ σ₂ : Session}
      (probe : (Backend.head key).runUnder p σ = (.ok (some info), σ₁))
      (removal : (Backend.delete key).runUnder p σ₁ = (.ok (), σ₂)) :
      TileErased p σ key (some info.size)
        { σ₂ with counters := { σ₂.counters with deletes := σ₂.counters.deletes + 1 } }

/-- **A tile that is removed or found missing** passed its check, and was so in one of these ways.
-/
lemma tileErased_of_ok {size : Option ℕ} (h : (eraseTile t s).runUnder p σ = (.ok size, σ')) :
    ∃ key, s.checkedTile t = .ok key ∧ TileErased p σ key size σ' := by
  unfold eraseTile at h
  rw [← checkedTile_bind, runUnder_ofExcept_bind_eq_ok_iff] at h
  obtain ⟨key, hcheck, h⟩ := h
  obtain ⟨info, σ₁, hhead, h⟩ := runUnder_bind_eq_ok_iff.1 h
  refine ⟨key, hcheck, ?_⟩
  cases info with
  | none =>
    cases h
    exact .absent hhead
  | some info =>
    obtain ⟨_, σ₂, hdelete, h⟩ := runUnder_bind_eq_ok_iff.1 h
    cases h
    exact .removed hhead hdelete

end TileCache.Store
