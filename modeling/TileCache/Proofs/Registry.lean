import Mathlib.Data.List.Basic
import Mathlib.Data.List.Nodup
import Mathlib.Data.List.Range
import TileCache.Listener
set_option autoImplicit false

/-!
# The registry and its registrations

A registry is a list of listeners, in which a listener may stand several times. What it stands for
are registrations: each of them is made once, in some order, and may be removed once. Here the
registrations are numbered as they are made, and a list of the numbers of those removed is kept; the
registry is shown to be, at all times, the listeners of the registrations that are left, in the
order in which they were made. This is so whatever steps are taken, and whatever the listeners that
are called do to the registry in the middle of a dispatch, panics included.

## Main definitions

* `TileCache.Enrolment` — all registrations that were ever made, and which of them were removed.
* `TileCache.Enrolment.live`, `Enrolment.current` — the registrations that are left, and of whom.
* `TileCache.Registry.reactions`, `Registry.callsMade` — how all listeners would react to an event,
  and how many of them are called.
* `TileCache.RegistryStep`, `RegistryAnswer` — what can be done with a registry, and what is
  returned.
* `TileCache.Registry.perform`, `Enrolment.perform`, `Hub.run` — steps taken with either.

## Main results

* `TileCache.Enrolment.current_remove` — the earliest registration of a listener is removed.
* `TileCache.Registry.lt_callsMade_iff`, `Registry.deliver_eq` — which calls are made, and what they
  leave.
* `TileCache.Enrolment.perform_shows` — a step with a registry is one with registrations.
* `TileCache.Registry.run_eq_enrolment` — so is every run.
-/

namespace TileCache

/-! ## Registrations -/

/-- All registrations that were ever made, in their order, and the numbers of those removed. -/
structure Enrolment where
  added : List Listener
  gone : List ℕ
  gone_lt : ∀ i ∈ gone, i < added.length

namespace Enrolment

/-- No registration was ever made. -/
def empty : Enrolment :=
  ⟨[], [], fun _ h => absurd h List.not_mem_nil⟩

variable (e : Enrolment) (l : Listener)

/-- The registrations that are left, each with its number, in the order in which they were made. -/
def live : List (Listener × ℕ) :=
  e.added.zipIdx.filter fun x => x.2 ∉ e.gone

/-- The listeners of the registrations that are left. -/
def current : List Listener :=
  e.live.map (·.1)

/-- The number of the earliest registration of a listener that is left. -/
def earliest? : Option ℕ :=
  (e.live.find? fun x => x.1 = l).map (·.2)

/-- What is left has the number of a registration. -/
lemma lt_of_mem_live {x : Listener × ℕ} (h : x ∈ e.live) : x.2 < e.added.length := by
  have hmem : x ∈ e.added.zipIdx := (List.mem_filter.1 h).1
  simpa using List.snd_lt_of_mem_zipIdx hmem

/-- The earliest registration is one. -/
lemma lt_of_earliest? {i : ℕ} (h : e.earliest? l = some i) : i < e.added.length := by
  obtain ⟨x, hfind, rfl⟩ := Option.map_eq_some_iff.1 h
  exact e.lt_of_mem_live (List.mem_of_find?_eq_some hfind)

/-- One registration more. -/
def add : Enrolment where
  added := e.added ++ [l]
  gone := e.gone
  gone_lt := by
    intro i hi
    have := e.gone_lt i hi
    simp only [List.length_append, List.length_singleton]
    omega

/-- The registrations without the earliest one of a listener that is left. -/
def remove : Enrolment where
  added := e.added
  gone := (e.earliest? l).toList ++ e.gone
  gone_lt := by
    intro i hi
    rcases List.mem_append.1 hi with h | h
    · exact e.lt_of_earliest? l (Option.mem_toList.1 h)
    · exact e.gone_lt i h

/-- All registrations removed. -/
def clear : Enrolment where
  added := e.added
  gone := List.range e.added.length
  gone_lt := fun _ => List.mem_range.1

/-- The registrations after one change. -/
def edit : RegistryEdit → Enrolment
  | .add l => e.add l
  | .remove l => e.remove l

/-- The registrations after several changes, in their order. -/
def editAll (edits : List RegistryEdit) : Enrolment :=
  edits.foldl edit e

/-- No two registrations have one number. -/
lemma nodup_live : (e.live.map (·.2)).Nodup := by
  have hsub : (e.live.map (·.2)).Sublist (e.added.zipIdx.map (·.2)) :=
    List.filter_sublist.map _
  rw [List.zipIdx_map_snd] at hsub
  exact hsub.nodup List.nodup_range'

/-- A new registration comes last. -/
lemma current_add : (e.add l).current = e.current ++ [l] := by
  have hnew : e.added.length ∉ e.gone := fun h => lt_irrefl _ (e.gone_lt _ h)
  have hlive : (e.add l).live = e.live ++ [(l, e.added.length)] := by
    rw [live, add, List.zipIdx_append, List.filter_append, live]
    congr 1
    simp [hnew]
  rw [current, hlive, List.map_append]
  rfl

/-- What is removed is not left. -/
lemma live_remove : (e.remove l).live = e.live.filter fun x => x.2 ∉ (e.earliest? l).toList := by
  simp only [live, remove, List.filter_filter, List.mem_append, not_or, Bool.decide_and]

/-- What is left, about the earliest registration of a listener: none before it is of this listener,
and no other has its number. -/
lemma exists_live_eq {x : Listener × ℕ} (h : e.live.find? (fun x => x.1 = l) = some x) :
    ∃ before after, e.live = before ++ x :: after ∧ x.1 = l ∧ l ∉ before.map (·.1) ∧
      ∀ y ∈ before ++ after, y.2 ≠ x.2 := by
  obtain ⟨hx, before, after, hlive, hbefore⟩ := List.find?_eq_some_iff_append.1 h
  refine ⟨before, after, hlive, by simpa using hx, ?_, ?_⟩
  · rintro hmem
    obtain ⟨y, hy, heq⟩ := List.mem_map.1 hmem
    have hother := hbefore y hy
    simp [heq] at hother
  · have hnodup := e.nodup_live
    rw [hlive, List.map_append, List.map_cons, List.nodup_middle, List.nodup_cons,
      ← List.map_append] at hnodup
    exact fun y hy heq => hnodup.1 (List.mem_map.2 ⟨y, hy, heq⟩)

/-- **The earliest registration of a listener is removed**, if there is one. -/
lemma current_remove : (e.remove l).current = e.current.erase l := by
  rw [current, live_remove, earliest?]
  cases hfind : e.live.find? fun x => x.1 = l with
  | none =>
    have hnone : l ∉ e.current := by
      rw [List.find?_eq_none] at hfind
      rintro hmem
      obtain ⟨x, hx, rfl⟩ := List.mem_map.1 hmem
      simpa using hfind x hx
    rw [List.erase_of_not_mem hnone]
    simp [current]
  | some x =>
    obtain ⟨before, after, hlive, rfl, hbefore, hkept⟩ := e.exists_live_eq l hfind
    have hfilter : e.live.filter (fun y => y.2 ∉ (some x.2).toList) = before ++ after := by
      rw [hlive, List.filter_append, List.filter_cons_of_neg (by simp), ← List.filter_append]
      exact List.filter_eq_self.2 fun y hy => by simpa using hkept y hy
    calc (e.live.filter fun y => y.2 ∉ (some x.2).toList).map (·.1)
        = before.map (·.1) ++ after.map (·.1) := by rw [hfilter, List.map_append]
      _ = (before.map (·.1) ++ x.1 :: after.map (·.1)).erase x.1 := by
        rw [List.erase_append_right _ hbefore, List.erase_cons_head]
      _ = e.current.erase x.1 := by rw [current, hlive, List.map_append, List.map_cons]

/-- After everything is removed nothing is left. -/
lemma current_clear : e.clear.current = [] := by
  have hnone : e.clear.live = [] := by
    refine List.filter_eq_nil_iff.2 fun x hx => ?_
    have := List.snd_lt_of_mem_zipIdx hx
    simpa [clear] using this
  rw [current, hnone, List.map_nil]

/-- A listener is registered just if there is an earliest registration of it. -/
lemma isSome_earliest? : (e.earliest? l).isSome = e.current.contains l := by
  rw [earliest?, Option.isSome_map, Bool.eq_iff_iff, List.find?_isSome, List.contains_iff_mem,
    current, List.mem_map]
  simp only [decide_eq_true_eq]

end Enrolment

/-! ## Dispatches -/

namespace Registry

variable {callbacks : Callbacks} {event : Event}

/-- How the listeners of some calls react, each given the deliveries before its own. -/
def reactions (callbacks : Callbacks) (past calls : List Delivery) : List Reaction :=
  calls.zipIdx.map fun x => callbacks (past ++ calls.take x.2) x.1

/-- How many calls are made if these are the reactions: up to the first panic. -/
def callsMade (reactions : List Reaction) : ℕ :=
  min (reactions.findIdx (·.panic.isSome) + 1) reactions.length

/-- The first listener reacts to the past alone, the others to it as well. -/
lemma reactions_cons (past : List Delivery) (call : Delivery) (rest : List Delivery) :
    reactions callbacks past (call :: rest) =
      callbacks past call :: reactions callbacks (past ++ [call]) rest := by
  rw [reactions, List.zipIdx_cons, List.map_cons, List.take_zero, List.append_nil, reactions,
    List.zipIdx_succ, List.map_map]
  congr 1
  refine List.map_congr_left fun x _ => ?_
  simp

/-- There is a reaction to each call. -/
lemma length_reactions (past calls : List Delivery) :
    (reactions callbacks past calls).length = calls.length := by
  simp [reactions]

/-- After a panic no call is made. -/
lemma callsMade_of_some {x : Reaction} {message : String} (h : x.panic = some message)
    (rest : List Reaction) : callsMade (x :: rest) = 1 := by
  simp [callsMade, List.findIdx_cons, h]

/-- After a reaction without a panic calls go on. -/
lemma callsMade_of_none {x : Reaction} (h : x.panic = none) (rest : List Reaction) :
    callsMade (x :: rest) = callsMade rest + 1 := by
  simp only [callsMade, List.findIdx_cons, h, Option.isSome_none, cond_false, List.length_cons]
  omega

/-- **A call is made just if none before it ended in a panic.** -/
lemma lt_callsMade_iff (reactions : List Reaction) (i : ℕ) :
    i < callsMade reactions ↔
      i < reactions.length ∧ ∀ x ∈ reactions.take i, x.panic = none := by
  induction reactions generalizing i with
  | nil => simp [callsMade]
  | cons x rest ih =>
    cases i with
    | zero => simp [callsMade]
    | succ i =>
      cases hpanic : x.panic with
      | none => simp [callsMade_of_none hpanic, ih, hpanic]
      | some message => simp [callsMade_of_some hpanic, hpanic]

/-- Changes are made one after the other. -/
lemma editAll_append (r : Registry) (edits edits' : List RegistryEdit) :
    r.editAll (edits ++ edits') = (r.editAll edits).editAll edits' := by
  simp only [editAll, List.foldl_append]

/-- **Calls are made up to the first panic.** The registry has then been changed by all of them, in
their order. -/
lemma deliver_eq (r : Registry) (past : List Delivery) (listeners : List Listener) :
    let calls : List Delivery := listeners.map fun l => ⟨l, event⟩
    let reactions := reactions callbacks past calls
    deliver callbacks event r past listeners =
      ⟨r.editAll ((reactions.take (callsMade reactions)).flatMap (·.edits)),
        past ++ calls.take (callsMade reactions), reactions.findSome? (·.panic)⟩ := by
  induction listeners generalizing r past with
  | nil => simp [deliver, reactions, editAll]
  | cons l rest ih =>
    simp only [List.map_cons, reactions_cons]
    rw [deliver]
    cases hpanic : (callbacks past ⟨l, event⟩).panic with
    | some message =>
      simp [callsMade_of_some hpanic, hpanic, editAll]
    | none =>
      simp only [callsMade_of_none hpanic, List.take_succ_cons, List.flatMap_cons,
        List.findSome?_cons, hpanic, editAll_append]
      rw [ih]
      simp

end Registry

/-! ## Steps -/

/-- What can be done with a registry. The listeners may behave differently at every dispatch. -/
inductive RegistryStep
  | add (listener : Listener)
  | remove (listener : Listener)
  | clear
  | dispatch (callbacks : Callbacks) (event : Event)

/-- What a step returns. -/
inductive RegistryAnswer
  | added
  | removed (found : Bool)
  | cleared (count : ℕ)
  | dispatched (calls : List Delivery) (panic : Option String)
  deriving DecidableEq, Repr

/-- Registrations, kept in some form, and all deliveries so far. -/
structure Hub (ρ : Type) where
  state : ρ
  deliveries : List Delivery := []

/-- Steps taken one after the other, whatever becomes of each. -/
def Hub.run {ρ : Type} (perform : Hub ρ → RegistryStep → RegistryAnswer × Hub ρ) (h : Hub ρ) :
    List RegistryStep → List RegistryAnswer × Hub ρ
  | [] => ([], h)
  | step :: rest =>
    let (answer, h') := perform h step
    let (answers, h'') := Hub.run perform h' rest
    (answer :: answers, h'')

/-- A step taken with a registry. -/
def Registry.perform (h : Hub Registry) : RegistryStep → RegistryAnswer × Hub Registry
  | .add l => (.added, { h with state := h.state.add l })
  | .remove l => (.removed (h.state.contains l), { h with state := h.state.remove l })
  | .clear => (.cleared h.state.size, { h with state := h.state.clear })
  | .dispatch callbacks event =>
    let d := h.state.dispatch callbacks h.deliveries event
    (.dispatched (d.deliveries.drop h.deliveries.length) d.panic, ⟨d.registry, d.deliveries⟩)

/-- A step taken with registrations. A dispatch is to those that are left when it begins, in their
order and each once, up to the first panic; they then are changed as the listeners did. -/
def Enrolment.perform (h : Hub Enrolment) : RegistryStep → RegistryAnswer × Hub Enrolment
  | .add l => (.added, { h with state := h.state.add l })
  | .remove l => (.removed (h.state.earliest? l).isSome, { h with state := h.state.remove l })
  | .clear => (.cleared h.state.live.length, { h with state := h.state.clear })
  | .dispatch callbacks event =>
    let calls : List Delivery := h.state.live.map fun x => ⟨x.1, event⟩
    let reactions := Registry.reactions callbacks h.deliveries calls
    let made := Registry.callsMade reactions
    (.dispatched (calls.take made) (reactions.findSome? (·.panic)),
      { state := h.state.editAll ((reactions.take made).flatMap (·.edits))
        deliveries := h.deliveries ++ calls.take made })

namespace Enrolment

/-- The registry holds the listeners of the registrations that are left, and the same was
delivered. -/
structure Shows (e : Hub Enrolment) (r : Hub Registry) : Prop where
  listeners_eq : r.state.listeners = e.state.current
  deliveries_eq : r.deliveries = e.deliveries

/-- Changes of the registry are changes of the registrations. -/
lemma listeners_editAll {e : Enrolment} {r : Registry} (h : r.listeners = e.current)
    (edits : List RegistryEdit) : (r.editAll edits).listeners = (e.editAll edits).current := by
  unfold Registry.editAll editAll
  induction edits generalizing e r with
  | nil => exact h
  | cons edit rest ih =>
    rw [List.foldl_cons, List.foldl_cons]
    refine ih ?_
    cases edit with
    | add l => rw [Registry.edit, Registry.add, Enrolment.edit, current_add, h]
    | remove l => rw [Registry.edit, Registry.remove, Enrolment.edit, current_remove, h]

/-- **A step with a registry is one with registrations**: it returns the same, and the registry
again holds what is left. -/
lemma perform_shows {e : Hub Enrolment} {r : Hub Registry} (h : Shows e r) (step : RegistryStep) :
    (Registry.perform r step).1 = (perform e step).1 ∧
      Shows (perform e step).2 (Registry.perform r step).2 := by
  obtain ⟨hlisteners, hdeliveries⟩ := h
  cases step with
  | add l =>
    refine ⟨rfl, ?_, hdeliveries⟩
    simp only [Registry.perform, perform, Registry.add, current_add, hlisteners]
  | remove l =>
    refine ⟨?_, ?_, hdeliveries⟩
    · simp only [Registry.perform, perform, Registry.contains, isSome_earliest?, hlisteners]
    · simp only [Registry.perform, perform, Registry.remove, current_remove, hlisteners]
  | clear =>
    refine ⟨?_, ?_, hdeliveries⟩
    · simp only [Registry.perform, perform, Registry.size, hlisteners, current, List.length_map]
    · exact e.state.current_clear.symm
  | dispatch callbacks event =>
    have hcalls : (e.state.current.map fun l => ({ listener := l, event } : Delivery)) =
        e.state.live.map fun x => ⟨x.1, event⟩ := by
      rw [current, List.map_map]
      rfl
    simp only [Registry.perform, perform, Registry.dispatch, Registry.deliver_eq, hlisteners,
      hdeliveries, hcalls, List.drop_left]
    exact ⟨trivial, listeners_editAll hlisteners _, rfl⟩

/-- Runs with a registry are runs with registrations. -/
lemma run_shows {e : Hub Enrolment} {r : Hub Registry} (h : Shows e r)
    (steps : List RegistryStep) :
    (Hub.run Registry.perform r steps).1 = (Hub.run perform e steps).1 ∧
      Shows (Hub.run perform e steps).2 (Hub.run Registry.perform r steps).2 := by
  induction steps generalizing e r with
  | nil => exact ⟨rfl, h⟩
  | cons step rest ih =>
    obtain ⟨hanswer, hshows⟩ := perform_shows h step
    obtain ⟨hanswers, hrest⟩ := ih hshows
    exact ⟨congrArg₂ _ hanswer hanswers, hrest⟩

end Enrolment

/-- **A registry is its registrations.** Let listeners be added and removed, everything be cleared
and events be dispatched, in any order, to listeners that change the registry as they like when they
are called and may panic. Then a registry that is empty at first always holds the listeners of the
registrations that are left, in the order in which they were made, also after any changes in the
middle of a dispatch. To remove a listener removes the earliest of its registrations, and tells
whether there was one; to clear tells how many there were. A dispatch calls the listeners of those
registrations that were there when it began, in their order and each once, whatever is removed or
added meanwhile, and stops after the first that panics. It leaves the registrations as the listeners
that were called have changed them, one after the other.

**Proof sketch.** One step is the same with a registry and with its registrations; so is a run, by
induction on its steps. For a dispatch the calls are made one by one, up to the first panic, and
each listener is given what was delivered before it. -/
theorem Registry.run_eq_enrolment (steps : List RegistryStep) :
    let actual := Hub.run Registry.perform { state := {} } steps
    let ideal := Hub.run Enrolment.perform { state := .empty } steps
    actual.1 = ideal.1 ∧ actual.2.deliveries = ideal.2.deliveries ∧
      actual.2.state.listeners = ideal.2.state.current ∧
      (∀ edits, (actual.2.state.editAll edits).listeners =
        (ideal.2.state.editAll edits).current) ∧
      ∀ callbacks past calls i,
        i < callsMade (reactions callbacks past calls) ↔
          i < calls.length ∧ ∀ x ∈ (reactions callbacks past calls).take i, x.panic = none := by
  obtain ⟨hanswers, hlisteners, hdeliveries⟩ :=
    Enrolment.run_shows (e := { state := .empty }) (r := { state := {} }) ⟨rfl, rfl⟩ steps
  refine ⟨hanswers, hdeliveries, hlisteners, Enrolment.listeners_editAll hlisteners, ?_⟩
  intro callbacks past calls i
  rw [lt_callsMade_iff, length_reactions]

/-- A listener that is registered twice is called twice, though its first call removes both
registrations; the one that it adds is not called. -/
example :
    let a := Listener.named "a"
    let event := Event.layerDeleted "roads"
    let leave : Callbacks := fun _ _ => { edits := [.remove a, .remove a, .add .console] }
    (Hub.run Registry.perform { state := {} } [.add a, .add a, .dispatch leave event, .clear]).1 =
      [.added, .added, .dispatched [⟨a, event⟩, ⟨a, event⟩] none, .cleared 2] := by
  decide

end TileCache
