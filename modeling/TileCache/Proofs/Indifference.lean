import TileCache.Proofs.Lockstep
import TileCache.Proofs.Truthfulness
set_option autoImplicit false

/-!
# Listeners cannot influence what is stored

What a listener does when it is called may change the registry and may end the call in a panic. It
comes after all requests of the call, so that it is too late to make a difference to what is stored
or counted. What a listener makes a difference to by being registered is a probe, and a probe leaves
nothing behind. So two runs of the same operations keep in step, whoever listens in either and
whatever they do.

## Main definitions

* `TileCache.World.SameData` — worlds that differ at most in who listens and what was told.
* `TileCache.Operation.isStorage` — whether an operation is about what is stored.
* `TileCache.Upshot.Gives`, `TileCache.Upshot.Alike` — calls that end alike but for panics.

## Main results

* `TileCache.Operation.alike_perform` — one operation, carried out in two such worlds.
* `TileCache.World.SameData.after_filter` — a run, with and without changes to the listeners.
* `TileCache.Operation.indifferent_to_listeners` — two runs, with any listeners in either.
-/

namespace TileCache

/-! ## Worlds and upshots -/

/-- Two worlds whose stores differ at most in their listeners, with the same bucket and the same
counters. -/
structure World.SameData (w w' : World) : Prop where
  layout_eq : w.store.layout = w'.store.layout
  batchSize_eq : w.store.batchSize = w'.store.batchSize
  live_eq : w.store.live = w'.store.live
  bucket_eq : w.session.bucket = w'.session.bucket
  counters_eq : w.session.counters = w'.session.counters

namespace World.SameData

variable {w w' w'' : World}

/-- A world has the same data as itself. -/
lemma refl (w : World) : w.SameData w :=
  ⟨rfl, rfl, rfl, rfl, rfl⟩

/-- The same data can be compared either way. -/
lemma symm (h : w.SameData w') : w'.SameData w :=
  ⟨h.layout_eq.symm, h.batchSize_eq.symm, h.live_eq.symm, h.bucket_eq.symm, h.counters_eq.symm⟩

/-- The same data as the same data is the same data. -/
lemma trans (h : w.SameData w') (h' : w'.SameData w'') : w.SameData w'' :=
  ⟨h.layout_eq.trans h'.layout_eq, h.batchSize_eq.trans h'.batchSize_eq,
    h.live_eq.trans h'.live_eq, h.bucket_eq.trans h'.bucket_eq,
    h.counters_eq.trans h'.counters_eq⟩

/-- The sessions agree in all that requests can change. -/
lemma untouched (h : w.SameData w') : w.session.Untouched w'.session :=
  ⟨h.bucket_eq.symm, h.counters_eq.symm⟩

/-- The stores agree but for their listeners. -/
lemma store_eq (h : w.SameData w') :
    { w.store with listeners := w'.store.listeners } = w'.store :=
  Store.eq_of_live_eq h.layout_eq h.batchSize_eq rfl h.live_eq

/-- Whatever the listeners and the deliveries become, the data is that of the session. -/
lemma of_told (h : w.SameData w') {session session' : Session} (hs : session.Untouched session')
    (d d' : Registry.Dispatched) :
    ({ w.told d with session } : World).SameData { w'.told d' with session := session' } :=
  ⟨h.layout_eq, h.batchSize_eq, h.live_eq, hs.bucket_eq.symm, hs.counters_eq.symm⟩

end World.SameData

/-- How a call ended and the world after it. -/
abbrev Upshot := Reply × World

namespace Upshot

/-- The call returned the answer, unless the listener that was called last has panicked. -/
def Gives (callbacks : Callbacks) (answer : Answer) (x : Upshot) : Prop :=
  x.1.completion = .returned answer ∨
    ∃ message past call, x.1.completion = .panicked message ∧
      x.2.deliveries = past ++ [call] ∧ (callbacks past call).panic = some message

/-- Two calls, made in worlds with listeners of their own, end alike: the data is the same
afterwards, and so are the tiles they were given; and both fail with the same error, or there is one
answer that both return unless a listener panics. -/
structure Alike (callbacks callbacks' : Callbacks) (x x' : Upshot) : Prop where
  data : x.2.SameData x'.2
  tile_eq : x.1.tile = x'.1.tile
  completion : (∃ e, x.1.completion = .failed e ∧ x'.1.completion = .failed e) ∨
    ∃ answer, x.Gives callbacks answer ∧ x'.Gives callbacks' answer

end Upshot

/-! ## Panics -/

/-- A call that has something to announce gives its answer. -/
lemma Upshot.gives_notify (callbacks : Callbacks) (answer : Answer) (tile : Option Tile)
    (w : World) (event : Option Event) (session : Session) :
    let d := w.store.notify callbacks w.deliveries event
    Upshot.Gives callbacks answer
      ({ completion := d.panic.elim (.returned answer) .panicked, tile },
        { w.told d with session }) := by
  intro d
  cases hpanic : d.panic with
  | none => exact .inl rfl
  | some message =>
    refine .inr ⟨message, ?_⟩
    cases event with
    | none => cases hpanic
    | some event =>
      obtain ⟨past, call, hdeliveries, hcall⟩ := Registry.exists_of_panic hpanic
      exact ⟨past, call, rfl, hdeliveries, hcall⟩

/-! ## One operation -/

/-- Whether an operation is about what is stored, and not about who listens. -/
def Operation.isStorage : Operation → Bool
  | addListener _ => false
  | removeListener _ => false
  | _ => true

section Step

variable {w w' : World} (callbacks callbacks' : Callbacks)

/-- **A call ends alike in worlds with the same data**, whoever listens. -/
lemma Call.alike_perform (h : w.SameData w') (call : Call) :
    Upshot.Alike callbacks callbacks' (call.operation.perform.runIn { callbacks } w)
      (call.operation.perform.runIn { callbacks := callbacks' } w') := by
  obtain ⟨hresult, hsession⟩ :=
    call.lockstep_requests w.store w'.store.listeners _ _ h.untouched
  rw [h.store_eq] at hresult hsession
  rcases hrun : (call.requests w.store).runUnder .faultless w.session with ⟨x, session⟩
  rcases hrun' : (call.requests w'.store).runUnder .faultless w'.session with ⟨x', session'⟩
  rw [hrun, hrun'] at hresult hsession
  rw [runIn_perform hrun, runIn_perform hrun']
  refine ⟨h.of_told hsession _ _, ?_, ?_⟩
  · cases hresult with
    | error e => rfl
    | ok related => exact related.2
  · cases hresult with
    | error e => exact .inl ⟨e, rfl, rfl⟩
    | @ok f f' related =>
      refine .inr ⟨f.answer, Upshot.gives_notify _ _ _ _ _ _, ?_⟩
      rw [reply, related.1]
      exact Upshot.gives_notify _ _ _ _ _ _

/-- Checking the access ends alike in worlds with the same data. -/
lemma Operation.alike_checkAccess (h : w.SameData w') :
    Upshot.Alike callbacks callbacks' (checkAccess.perform.runIn { callbacks } w)
      (checkAccess.perform.runIn { callbacks := callbacks' } w') := by
  have hstore : w'.store.probeRoot = w.store.probeRoot := by
    rw [← h.store_eq]
    rfl
  obtain ⟨hresult, hsession⟩ := w.store.lockstep_probeRoot _ _ h.untouched
  rcases hrun : w.store.probeRoot.runUnder .faultless w.session with ⟨x, session⟩
  rcases hrun' : w.store.probeRoot.runUnder .faultless w'.session with ⟨x', session'⟩
  rw [hrun, hrun'] at hresult hsession
  rw [← hstore] at hrun'
  have hdata : ({ w with session } : World).SameData { w' with session := session' } :=
    ⟨h.layout_eq, h.batchSize_eq, h.live_eq, hsession.bucket_eq.symm, hsession.counters_eq.symm⟩
  simp only [perform, Store.checkAccess, StoreM.runIn_bind,
    StoreM.runIn_request (c := { callbacks }) hrun,
    StoreM.runIn_request (c := { callbacks := callbacks' }) hrun']
  cases hresult with
  | error e => exact ⟨hdata, rfl, .inl ⟨e, rfl, rfl⟩⟩
  | ok related => exact ⟨hdata, rfl, .inr ⟨.done, .inl rfl, .inl rfl⟩⟩

/-- **An operation ends alike in worlds with the same data**, whoever listens. -/
lemma Operation.alike_perform (h : w.SameData w') {o : Operation} (ho : o.isStorage = true) :
    Upshot.Alike callbacks callbacks' (o.perform.runIn { callbacks } w)
      (o.perform.runIn { callbacks := callbacks' } w') := by
  cases o with
  | put t => exact (Call.put t).alike_perform callbacks callbacks' h
  | get t => exact (Call.get t).alike_perform callbacks callbacks' h
  | deleteTile t => exact (Call.deleteTile t).alike_perform callbacks callbacks' h
  | deleteLayer n => exact (Call.deleteLayer n).alike_perform callbacks callbacks' h
  | deleteGridset n g => exact (Call.deleteGridset n g).alike_perform callbacks callbacks' h
  | getMetadata n name => exact (Call.getMetadata n name).alike_perform callbacks callbacks' h
  | putMetadata n name value =>
    exact (Call.putMetadata n name value).alike_perform callbacks callbacks' h
  | deleteRange | rename | clear => exact ⟨h, rfl, .inl ⟨_, rfl, rfl⟩⟩
  | checkAccess => exact alike_checkAccess callbacks callbacks' h
  | destroy =>
    exact ⟨⟨h.layout_eq, h.batchSize_eq, rfl, h.bucket_eq, h.counters_eq⟩, rfl,
      .inr ⟨.done, .inl rfl, .inl rfl⟩⟩
  | addListener l | removeListener l => cases ho

/-- To add and to remove listeners leaves the data as it is. -/
lemma Operation.sameData_of_listening {o : Operation} (ho : o.isStorage = false) (c : Context)
    (w : World) : (o.perform.runIn c w).2.SameData w := by
  cases o with
  | removeListener l => exact ⟨rfl, rfl, rfl, rfl, rfl⟩
  | addListener l =>
    simp only [perform, StoreM.runIn_bind, StoreM.runIn_addListener, StoreM.runIn_pure]
    split_ifs
    · exact ⟨rfl, rfl, rfl, rfl, rfl⟩
    · exact .refl w
  | _ => cases ho

end Step

/-! ## Runs -/

/-- **A run leaves the data that it leaves without its changes to the listeners**, whoever listens
in either.

**Proof sketch.** Induction on the run. A change to the listeners leaves the data as it is, and the
other run goes on without a step; any other operation is carried out in both, and ends alike. -/
lemma World.SameData.after_filter (callbacks callbacks' : Callbacks) {w w' : World}
    (h : w.SameData w') (run : List Operation) :
    (w.after { callbacks } run).SameData
      (w'.after { callbacks := callbacks' } (run.filter (·.isStorage))) := by
  induction run generalizing w w' with
  | nil => exact h
  | cons o rest ih =>
    rw [after_cons]
    cases ho : o.isStorage with
    | false =>
      rw [List.filter_cons_of_neg (by simp [ho])]
      exact ih ((Operation.sameData_of_listening ho _ w).trans h)
    | true =>
      rw [List.filter_cons_of_pos ho, after_cons w']
      exact ih (Operation.alike_perform callbacks callbacks' h ho).data

/-- **A panic comes too late.** A call that a panic ended has left the bucket, the trace of requests
and the counters as it does when it returns to listeners that only listen. -/
lemma Operation.session_of_panicked {c : Context} {w : World} {o : Operation} {message : String}
    (h : (o.perform.runIn c w).1.completion = .panicked message) :
    ∃ answer, (o.perform.runIn { plan := c.plan } w).1.completion = .returned answer ∧
      (o.perform.runIn { plan := c.plan } w).2.session = (o.perform.runIn c w).2.session := by
  rcases o.exists_call_or with ⟨call, rfl⟩ | hquiet
  · cases hrun : (call.requests w.store).runUnder c.plan w.session with
    | mk x session =>
      have hcalm : Callbacks.passive.NeverPanic := fun _ _ => rfl
      obtain ⟨hreply, -⟩ := Call.runIn_perform_of_neverPanic
        (c := ({ plan := c.plan } : Context)) hcalm hrun
      rw [Call.session_perform, Call.session_perform]
      rw [Call.runIn_perform hrun] at h
      cases x with
      | error e => cases h
      | ok f => exact ⟨f.answer, by rw [hreply]; rfl, rfl⟩
  · exact absurd h ((hquiet c w).2 message)

/-- Every listener removes itself, leaves an heir and panics. -/
def Callbacks.rash : Callbacks := fun _ call =>
  { edits := [.remove call.listener, .add (.named "heir")], panic := some "enough" }

namespace Operation

/-- **Listeners cannot influence what is stored.** Let two worlds have the same data, and carry out a
run in each without failing requests. In each of them any listeners may be registered that do
anything when they are called, and the runs are to be the same but for operations that add and
remove listeners, wherever these stand. Then the bucket and the counters are the same after both
runs, and with them all else but who listens and what was told. And any operation that both runs go
on with ends alike: the bucket and the counters are the same again, the tiles they were given are
the same, and both fail with the same error, or there is one answer that both return unless the last
of their own listeners to be called panicked. Even then nothing is left half done: under any plan, a
call that a panic ended has made the same requests, and left the same bucket and counters, as it
does when it returns its answer to listeners that only listen.

**Proof sketch.** The requests of a call do not depend on who listens, but for a probe that only the
event is made of. So they keep in step on sessions with the same bucket and the same counters, and
what listeners do comes behind them. Runs are compared with the run without changes to the
listeners, by induction. -/
theorem indifferent_to_listeners (callbacks callbacks' : Callbacks) {w w' : World}
    (h : w.SameData w') (run run' : List Operation)
    (hrun : run.filter (·.isStorage) = run'.filter (·.isStorage)) :
    let c : Context := { plan := .faultless, callbacks }
    let c' : Context := { plan := .faultless, callbacks := callbacks' }
    (w.after c run).SameData (w'.after c' run') ∧
    (∀ o : Operation, o.isStorage = true →
      Upshot.Alike callbacks callbacks' (o.perform.runIn c (w.after c run))
        (o.perform.runIn c' (w'.after c' run'))) ∧
    ∀ (ctx : Context) (v : World) (o : Operation) message,
      (o.perform.runIn ctx v).1.completion = .panicked message →
      ∃ answer, (o.perform.runIn { plan := ctx.plan } v).1.completion = .returned answer ∧
        (o.perform.runIn { plan := ctx.plan } v).2.session = (o.perform.runIn ctx v).2.session := by
  intro c c'
  have hfirst := h.after_filter callbacks callbacks' run
  have hsecond := (World.SameData.refl w').after_filter callbacks' callbacks' run'
  rw [← hrun] at hsecond
  have hdata : (w.after c run).SameData (w'.after c' run') := hfirst.trans hsecond.symm
  exact ⟨hdata, fun o ho => alike_perform callbacks callbacks' hdata ho,
    fun ctx v o message => session_of_panicked⟩

/-- Where a rash listener and a spy are told of it, the removal of the only tile ends in a panic;
where nobody listens, it returns that there was one. The bucket and the counters are the same. -/
theorem oneRoad_indifferent :
    let tile : Tile := { layer := "roads", gridset := "EPSG:4326", coord := ⟨0, 0, 0⟩,
                         format := "image/png" }
    let spied := [addListener (.named "spy"), put (tile.withBlob [7]), addListener (.named "log")]
    let alone := [removeListener (.named "log"), put (tile.withBlob [7])]
    ((deleteTile tile).perform.runIn { callbacks := .rash }
        (World.oneRoad.after { callbacks := .rash } spied)).1.completion = .panicked "enough" ∧
      ((deleteTile tile).perform.runIn {} (World.oneRoad.after {} alone)).1.completion =
        .returned (.truth true) ∧
      ((deleteTile tile).perform.runIn { callbacks := .rash }
          (World.oneRoad.after { callbacks := .rash } spied)).2.SameData
        ((deleteTile tile).perform.runIn {} (World.oneRoad.after {} alone)).2 := by
  intro tile spied alone
  obtain ⟨-, halike, -⟩ := indifferent_to_listeners .rash .passive (.refl World.oneRoad) spied
    alone rfl
  exact ⟨by decide +kernel, by decide +kernel, (halike (deleteTile tile) rfl).data⟩

end Operation

end TileCache
