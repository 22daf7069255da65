import TileCache.Proofs.Effect
set_option autoImplicit false

/-!
# A call is its requests and one announcement

Whatever becomes of its requests, a call goes in two halves. The requests are a computation on the
session alone, which comes to an error or to a finding: what the call is to return, the tile it was
given as it is to be, and what there is to announce. An error is returned, and nobody hears of it;
otherwise the listeners are told of what there is to announce, and of nothing else. What is to be
shown of calls under any plan is therefore to be shown of their requests.

## Main definitions

* `TileCache.Finding` — what the requests of a call come to.
* `TileCache.Call.given` — the tile that a call is given and may change.
* `TileCache.Call.requests` — the requests of a call.
* `TileCache.World.Announced` — what listeners were told between two worlds.

## Main results

* `TileCache.Call.runIn_perform` — a call is its requests and then one announcement.
* `TileCache.Call.of_failed`, `TileCache.Call.of_returned` — what is known of a call by its end.
* `TileCache.Call.runIn_perform_of_neverPanic` — a call if no listener panics.
-/

namespace TileCache

namespace RequestM

variable {α β : Type} {p : Plan} {s s' s'' : Session}

/-- A value that is made of another makes no request of its own. -/
lemma runUnder_map (f : α → β) (m : RequestM α) :
    (f <$> m).runUnder p s = ((m.runUnder p s).1.map f, (m.runUnder p s).2) := by
  rw [map_eq_pure_bind, runUnder_bind]
  rcases m.runUnder p s with ⟨_ | _, _⟩ <;> rfl

/-- What a computation comes to whose value is made of that of another. -/
lemma exists_of_runUnder_map {f : α → β} {m : RequestM α} {x : Except StorageError β}
    (h : (f <$> m).runUnder p s = (x, s')) : ∃ y, m.runUnder p s = (y, s') ∧ x = y.map f := by
  rw [runUnder_map] at h
  cases h
  exact ⟨_, rfl, rfl⟩

/-- Two computations in sequence come to a value just if the first does, and the second on what the
first left. -/
lemma runUnder_bind_eq_ok_iff {m : RequestM α} {f : α → RequestM β} {b : β} :
    (m >>= f).runUnder p s = (.ok b, s'') ↔
      ∃ a s', m.runUnder p s = (.ok a, s') ∧ (f a).runUnder p s' = (.ok b, s'') := by
  rw [runUnder_bind]
  rcases m.runUnder p s with ⟨_ | a, s₁⟩ <;> simp

/-- After a check that does not pass there is nothing. -/
lemma ofExcept_error_bind (e : StorageError) (f : α → RequestM β) :
    (MonadExcept.ofExcept (.error e : Except StorageError α) : RequestM α) >>= f = throw e := rfl

/-- What follows a check comes to a value just if the check passes, on the same session. -/
lemma runUnder_ofExcept_bind_eq_ok_iff {x : Except StorageError α} {f : α → RequestM β} {b : β} :
    (MonadExcept.ofExcept x >>= f).runUnder p s = (.ok b, s') ↔
      ∃ a, x = .ok a ∧ (f a).runUnder p s = (.ok b, s') := by
  rw [runUnder_bind, runUnder_ofExcept]
  cases x <;> simp

end RequestM

/-- What the requests of a call come to: the answer that it is to return, the tile it was given as
it is to be, and what is to be announced. -/
structure Finding where
  answer : Answer
  tile : Option Tile := none
  event : Option Event := none

/-- Between two worlds the listeners of the first were told of one event, each registration once, or
of nothing. -/
def World.Announced (w w' : World) (event : Option Event) : Prop :=
  w'.deliveries = w.deliveries ++
    event.elim [] fun event => w.store.listeners.listeners.map fun l => ⟨l, event⟩

/-- Where nothing is announced, nobody hears of anything. -/
lemma World.announced_none_iff {w w' : World} :
    w.Announced w' none ↔ w'.deliveries = w.deliveries := by
  rw [Announced, Option.elim_none, List.append_nil]

/-- Without a panic the listeners were told of what was announced. -/
lemma World.announced_told {w : World} {callbacks : Callbacks} {event : Option Event}
    {session : Session} (h : (w.store.notify callbacks w.deliveries event).panic = none) :
    w.Announced { w.told (w.store.notify callbacks w.deliveries event) with session } event := by
  cases event with
  | none => exact World.announced_none_iff.2 rfl
  | some event => exact Registry.deliveries_dispatch h

namespace Call

open RequestM StoreM Store

/-- The tile that a call is given and may change. -/
def given : Call → Option Tile
  | get t => some t
  | deleteTile t => some t
  | _ => none

/-- What storing a tile comes to. -/
def stored (event : Option Event) : Finding where
  answer := .done
  event := event

/-- What a fetch comes to. -/
def fetched (t : Tile) : Option StoredObject → Finding
  | none => { answer := .truth false, tile := t }
  | some o => { answer := .truth true, tile := Store.fill t o }

/-- What the removal of a tile comes to, given the size that was freed. -/
def freed (t : Tile) : Option ℕ → Finding
  | none => { answer := .truth false, tile := t }
  | some size =>
    { answer := .truth true
      tile := some { t with blobSize := size }
      event := some (.tileDeleted { t with blobSize := size }) }

/-- What the removal of many objects comes to, given whether there were any. -/
def swept (event : Event) (existed : Bool) : Finding where
  answer := .truth existed
  event := if existed then some event else none

/-- The requests of a call, and what they come to. -/
def requests (s : Store) : Call → RequestM Finding
  | put t => stored <$> writeTile t s
  | get t => fetched t <$> readTile t s
  | deleteTile t => freed t <$> eraseTile t s
  | deleteLayer n => swept (.layerDeleted n) <$> eraseLayer n s
  | deleteGridset n g => swept (.gridsetDeleted n g) <$> eraseGridset n g s
  | getMetadata n name => (fun value => { answer := .text value }) <$> readMetadata n name s
  | putMetadata n name value => (fun _ => { answer := .done }) <$> writeMetadata n name value s

/-- How a call ends, given the panic of a listener and what the requests came to. -/
def reply (call : Call) (panic : Option String) : Except StorageError Finding → Reply
  | .error e => { completion := .failed e, tile := call.given }
  | .ok f => { completion := panic.elim (.returned f.answer) .panicked, tile := f.tile }

/-- What there is to announce, given what the requests came to. -/
def event? : Except StorageError Finding → Option Event
  | .error _ => none
  | .ok f => f.event

variable {c : Context} {w : World} {call : Call} {x : Except StorageError Finding} {answer : Answer}
  {e : StorageError} {session : Session}

/-- Requests that come to the answer "no" leave the given tile as it was, and nothing to announce.
-/
lemma finding_of_requests_false {s : Store} {p : Plan} {σ σ' : Session} {f : Finding}
    (h : (call.requests s).runUnder p σ = (.ok f, σ')) (hno : f.answer = .truth false) :
    f.tile = call.given ∧ f.event = none := by
  cases call with
  | put t =>
    obtain ⟨_ | event, -, hf⟩ := exists_of_runUnder_map h <;> cases hf
    cases hno
  | get t =>
    obtain ⟨_ | _ | o, -, hf⟩ := exists_of_runUnder_map h <;> cases hf
    · exact ⟨rfl, rfl⟩
    · cases hno
  | deleteTile t =>
    obtain ⟨_ | _ | size, -, hf⟩ := exists_of_runUnder_map h <;> cases hf
    · exact ⟨rfl, rfl⟩
    · cases hno
  | deleteLayer n =>
    obtain ⟨_ | existed, -, hf⟩ := exists_of_runUnder_map h <;> cases hf
    cases hno
    exact ⟨rfl, rfl⟩
  | deleteGridset n g =>
    obtain ⟨_ | existed, -, hf⟩ := exists_of_runUnder_map h <;> cases hf
    cases hno
    exact ⟨rfl, rfl⟩
  | getMetadata n name =>
    obtain ⟨_ | value, -, hf⟩ := exists_of_runUnder_map h <;> cases hf
    cases hno
  | putMetadata n name value =>
    obtain ⟨_ | u, -, hf⟩ := exists_of_runUnder_map h <;> cases hf
    cases hno

/-- **A call is its requests and then one announcement**, whatever becomes of the requests. -/
theorem runIn_perform (h : (call.requests w.store).runUnder c.plan w.session = (x, session)) :
    let d := w.store.notify c.callbacks w.deliveries (event? x)
    call.operation.perform.runIn c w = (call.reply d.panic x, { w.told d with session }) := by
  cases call with
  | put t =>
    obtain ⟨y, hrun, rfl⟩ := exists_of_runUnder_map h
    simp only [operation, Operation.perform, Store.put, runIn_bind, runIn_request hrun]
    rcases y with e | _ | event
    · rfl
    · rfl
    · simp only [runIn_announce, runIn_pure, Completion.map_elim]
      rfl
  | get t =>
    obtain ⟨y, hrun, rfl⟩ := exists_of_runUnder_map h
    simp only [operation, Operation.perform, Store.get, runIn_bind, runIn_request hrun]
    rcases y with e | _ | o <;> rfl
  | deleteTile t =>
    obtain ⟨y, hrun, rfl⟩ := exists_of_runUnder_map h
    simp only [operation, Operation.perform, Store.deleteTile, runIn_bind, runIn_request hrun]
    rcases y with e | _ | size
    · rfl
    · rfl
    · simp only [runIn_bind, runIn_announce, runIn_pure, Completion.map_elim]
      rfl
  | deleteLayer n =>
    obtain ⟨y, hrun, rfl⟩ := exists_of_runUnder_map h
    simp only [operation, Operation.perform, Store.deleteLayer, runIn_bind, runIn_request hrun]
    rcases y with e | _ | _
    · rfl
    · rfl
    · simp only [runIn_announce, runIn_pure, Completion.map_elim]
      rfl
  | deleteGridset n g =>
    obtain ⟨y, hrun, rfl⟩ := exists_of_runUnder_map h
    simp only [operation, Operation.perform, Store.deleteGridset, runIn_bind, runIn_request hrun]
    rcases y with e | _ | _
    · rfl
    · rfl
    · simp only [runIn_announce, runIn_pure, Completion.map_elim]
      rfl
  | getMetadata n name =>
    obtain ⟨y, hrun, rfl⟩ := exists_of_runUnder_map h
    simp only [operation, Operation.perform, Store.getMetadata, runIn_bind, runIn_request hrun]
    cases y <;> rfl
  | putMetadata n name value =>
    obtain ⟨y, hrun, rfl⟩ := exists_of_runUnder_map h
    simp only [operation, Operation.perform, Store.putMetadata, runIn_bind, runIn_request hrun]
    cases y <;> rfl

/-- After a call the session is the one that its requests leave. -/
lemma session_perform (c : Context) (w : World) (call : Call) :
    (call.operation.perform.runIn c w).2.session =
      ((call.requests w.store).runUnder c.plan w.session).2 := by
  cases hrun : (call.requests w.store).runUnder c.plan w.session with
  | mk x session => rw [runIn_perform hrun]

/-- **A call that fails** has failed requests, and the world is as it was but for the session. -/
lemma of_failed (h : (call.operation.perform.runIn c w).1.completion = .failed e) :
    ∃ session, (call.requests w.store).runUnder c.plan w.session = (.error e, session) ∧
      call.operation.perform.runIn c w =
        ({ completion := .failed e, tile := call.given }, { w with session }) := by
  cases hrun : (call.requests w.store).runUnder c.plan w.session with
  | mk x session =>
    rw [runIn_perform hrun] at h ⊢
    cases x with
    | error e' =>
      cases h
      exact ⟨session, rfl, rfl⟩
    | ok f =>
      simp only [reply] at h
      generalize (w.store.notify c.callbacks w.deliveries (event? (.ok f))).panic = panic at h
      cases panic <;> cases h

/-- **A call that returns** has requests that came to its answer, and told the listeners of what
there was to announce. -/
lemma of_returned (h : (call.operation.perform.runIn c w).1.completion = .returned answer) :
    ∃ f session, (call.requests w.store).runUnder c.plan w.session = (.ok f, session) ∧
      f.answer = answer ∧ (call.operation.perform.runIn c w).1.tile = f.tile ∧
      w.Announced (call.operation.perform.runIn c w).2 f.event ∧
      (call.operation.perform.runIn c w).2.session = session := by
  cases hrun : (call.requests w.store).runUnder c.plan w.session with
  | mk x session =>
    rw [runIn_perform hrun] at h ⊢
    cases x with
    | error e => cases h
    | ok f =>
      cases hpanic : (w.store.notify c.callbacks w.deliveries f.event).panic with
      | some message =>
        simp only [reply, event?, hpanic, Option.elim_some] at h
        cases h
      | none =>
        simp only [reply, event?, hpanic, Option.elim_none, Completion.returned.injEq] at h
        exact ⟨f, session, rfl, h, rfl, World.announced_told hpanic, rfl⟩

/-- A call ends as its requests do if no listener panics, and the listeners hear of what there is to
announce. -/
lemma runIn_perform_of_neverPanic (hcalm : c.callbacks.NeverPanic)
    (h : (call.requests w.store).runUnder c.plan w.session = (x, session)) :
    (call.operation.perform.runIn c w).1 = call.reply none x ∧
      w.Announced (call.operation.perform.runIn c w).2 (event? x) := by
  have hpanic := Store.panic_notify hcalm w.store w.deliveries (event? x)
  rw [runIn_perform h]
  exact ⟨by rw [hpanic], World.announced_told hpanic⟩

end Call

end TileCache
