import Mathlib.Tactic.Common
import TileCache.Listener
set_option autoImplicit false

/-!
# Deliveries of one event

A dispatch of listeners that never panic reaches all of them, in the order of registration; and a
listener that no call adds or removes stays registered as often as it was.

## Main definitions

* `TileCache.Callbacks.NeverPanic` — no listener panics, whatever was delivered before.
* `TileCache.Callbacks.Spare` — no call adds or removes registrations of one listener.

## Main results

* `TileCache.Registry.deliveries_dispatch`, `dispatch_of_neverPanic` — the deliveries of one event.
* `TileCache.Registry.exists_of_panic` — whose panic it is that a dispatch ends in.
* `TileCache.Registry.count_dispatch` — how often a listener is registered afterwards.
-/

namespace TileCache

/-- No listener panics, whatever was delivered before. -/
def Callbacks.NeverPanic (callbacks : Callbacks) : Prop :=
  ∀ deliveries call, (callbacks deliveries call).panic = none

/-- No call of any listener adds or removes registrations of `l`. -/
def Callbacks.Spare (callbacks : Callbacks) (l : Listener) : Prop :=
  ∀ deliveries call, RegistryEdit.add l ∉ (callbacks deliveries call).edits ∧
    RegistryEdit.remove l ∉ (callbacks deliveries call).edits

namespace Registry

variable {callbacks : Callbacks} {r : Registry} {deliveries : List Delivery} {event : Event}
  {l : Listener}

/-- Listeners of which none panics all receive the event, in their order. -/
lemma deliveries_deliver {listeners : List Listener}
    (h : (deliver callbacks event r deliveries listeners).panic = none) :
    (deliver callbacks event r deliveries listeners).deliveries =
      deliveries ++ listeners.map fun l => ⟨l, event⟩ := by
  induction listeners generalizing r deliveries with
  | nil => simp [deliver]
  | cons first rest ih =>
    rw [deliver] at h ⊢
    cases hpanic : (callbacks deliveries ⟨first, event⟩).panic with
    | some message => simp [hpanic] at h
    | none =>
      simp only [hpanic] at h ⊢
      rw [ih h, List.map_cons, List.append_assoc]
      rfl

/-- **A dispatch that ends in a panic** ends in that of the listener that was called last. -/
lemma exists_of_panic {listeners : List Listener} {message : String}
    (h : (deliver callbacks event r deliveries listeners).panic = some message) :
    ∃ past call, (deliver callbacks event r deliveries listeners).deliveries = past ++ [call] ∧
      (callbacks past call).panic = some message := by
  induction listeners generalizing r deliveries with
  | nil => cases h
  | cons first rest ih =>
    rw [deliver] at h ⊢
    cases hpanic : (callbacks deliveries ⟨first, event⟩).panic with
    | some message' =>
      simp only [hpanic, Option.some.injEq] at h ⊢
      exact ⟨deliveries, ⟨first, event⟩, rfl, hpanic.trans (congrArg some h)⟩
    | none =>
      simp only [hpanic] at h ⊢
      exact ih h

/-- Where listeners never panic, none does. -/
lemma panic_deliver (h : callbacks.NeverPanic) (listeners : List Listener) :
    (deliver callbacks event r deliveries listeners).panic = none := by
  induction listeners generalizing r deliveries with
  | nil => rfl
  | cons first rest ih =>
    rw [deliver, h]
    exact ih

/-- **Without a panic an event reaches all registered listeners**, in the order of registration. -/
lemma deliveries_dispatch (h : (r.dispatch callbacks deliveries event).panic = none) :
    (r.dispatch callbacks deliveries event).deliveries =
      deliveries ++ r.listeners.map fun l => ⟨l, event⟩ :=
  deliveries_deliver h

/-- **Registered listeners that never panic all receive an event**, in the order of registration. -/
lemma dispatch_of_neverPanic (h : callbacks.NeverPanic) :
    (r.dispatch callbacks deliveries event).panic = none ∧
      (r.dispatch callbacks deliveries event).deliveries =
        deliveries ++ r.listeners.map fun l => ⟨l, event⟩ := by
  have hpanic : (r.dispatch callbacks deliveries event).panic = none := panic_deliver h r.listeners
  exact ⟨hpanic, deliveries_dispatch hpanic⟩

/-- A change that is not about a listener leaves it registered as often as it was. -/
lemma count_edit {e : RegistryEdit} (hadd : e ≠ .add l) (hremove : e ≠ .remove l) :
    (r.edit e).listeners.count l = r.listeners.count l := by
  cases e with
  | add l' =>
    have hne : l' ≠ l := fun h => hadd (by rw [h])
    simp [edit, add, hne]
  | remove l' =>
    have hne : l' ≠ l := fun h => hremove (by rw [h])
    simp [edit, remove, List.count_erase_of_ne hne.symm]

/-- Changes that are not about a listener leave it registered as often as it was. -/
lemma count_editAll {edits : List RegistryEdit} (hadd : .add l ∉ edits)
    (hremove : .remove l ∉ edits) :
    (r.editAll edits).listeners.count l = r.listeners.count l := by
  unfold editAll
  induction edits generalizing r with
  | nil => rfl
  | cons e edits ih =>
    simp only [List.mem_cons, not_or] at hadd hremove
    rw [List.foldl_cons, ih hadd.2 hremove.2]
    exact count_edit (Ne.symm hadd.1) (Ne.symm hremove.1)

/-- Calls that spare a listener leave it registered as often as it was. -/
lemma count_deliver (h : callbacks.Spare l) (listeners : List Listener) :
    (deliver callbacks event r deliveries listeners).registry.listeners.count l =
      r.listeners.count l := by
  induction listeners generalizing r deliveries with
  | nil => rfl
  | cons first rest ih =>
    obtain ⟨hadd, hremove⟩ := h deliveries ⟨first, event⟩
    rw [deliver]
    cases (callbacks deliveries ⟨first, event⟩).panic with
    | none => exact ih.trans (count_editAll hadd hremove)
    | some message => exact count_editAll hadd hremove

/-- **A listener that is spared stays registered** as often as it was. -/
lemma count_dispatch (h : callbacks.Spare l) :
    (r.dispatch callbacks deliveries event).registry.listeners.count l = r.listeners.count l :=
  count_deliver h r.listeners

end Registry

end TileCache
