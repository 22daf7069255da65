import TileCache.Proofs.Verdicts
set_option autoImplicit false

/-!
# Caller errors depend on the arguments alone

Trying again is pointless where the caller is to blame. For it is the arguments that are at fault,
and these are judged before anything else is asked: no bucket, no store and no other request makes
a difference to the verdict.

## Main results

* `TileCache.Operation.caller_errors_exact` — when the caller is to blame, and what becomes of the
  operation then.
-/

namespace TileCache

namespace Operation

variable {o : Operation} {c : Context} {w : World} {e : StorageError}

/-- A store that has not been shut down does nothing but fail if something is wrong with the
arguments. -/
lemma runIn_of_verdict (hlive : w.store.live = true) (h : o.verdict = .error e) (c : Context) :
    o.perform.runIn c w = ({ completion := .failed e, tile := o.given }, w) :=
  runIn_of_refused ((check_of_live hlive o).trans h) c

/-- **The caller is to blame just if something is wrong with the arguments**, and for that very
reason. -/
lemma failed_caller_iff (hlive : w.store.live = true) :
    (o.perform.runIn c w).1.completion = .failed e ∧ e.isCallerError = true ↔
      o.verdict = .error e := by
  constructor
  · rintro ⟨hfailed, hcaller⟩
    cases hverdict : o.verdict with
    | error e' =>
      rw [runIn_of_verdict hlive hverdict] at hfailed
      cases hfailed
      rfl
    | ok u =>
      have hbucket : e.FromBucket :=
        fromBucket_of_passed ((check_of_live hlive o).trans hverdict) hfailed
      rw [hbucket.isCallerError] at hcaller
      cases hcaller
  · intro hverdict
    rw [runIn_of_verdict hlive hverdict]
    exact ⟨rfl, isCallerError_of_verdict hverdict⟩

/-- An operation that has made a request can only fail with an error that comes from the bucket. -/
lemma fromBucket_of_requested (h : (o.perform.runIn c w).1.completion = .failed e)
    (hrequested : (o.perform.runIn c w).2.session.trace ≠ w.session.trace) : e.FromBucket := by
  cases hcheck : o.check w.store with
  | error e' =>
    rw [runIn_of_refused hcheck] at hrequested
    exact absurd rfl hrequested
  | ok u => exact fromBucket_of_passed hcheck h

/-- **Caller errors depend on the arguments alone.** Let an operation fail with a caller error on
some store that has not been shut down, whatever becomes of its requests and whatever listeners do.
Then on every store that has not been shut down, below any root, over any bucket, with any listeners
and any batch size, and whatever becomes of requests, the operation fails with this very error, and
the world is as it was: no request has been made, nobody has heard of anything, no counter has moved
and the tile it was given is as it was. Conversely, an error is never a caller error if the
operation has made a request, be it that a request failed or that metadata was fetched that cannot
be read. And the caller is to blame just if a tile is to be stored that has no blob, or an
identifier that the operation uses is empty, or the operation is one that the store does not offer.

**Proof sketch.** What is checked before the first request is, while the store is live, a verdict on
the arguments. If it fails, that is all that happens. If it passes, all errors that are left come
from the bucket, and for these the caller is not to blame. -/
theorem caller_errors_exact (o : Operation) :
    (∀ c w e, w.store.live = true → (o.perform.runIn c w).1.completion = .failed e →
      e.isCallerError = true →
      ∀ c' w', w'.store.live = true →
        o.perform.runIn c' w' = ({ completion := .failed e, tile := o.given }, w')) ∧
    (∀ c w e, (o.perform.runIn c w).1.completion = .failed e →
      (o.perform.runIn c w).2.session.trace ≠ w.session.trace → e.isCallerError = false) ∧
    ∀ c w, w.store.live = true →
      ((∃ e, (o.perform.runIn c w).1.completion = .failed e ∧ e.isCallerError = true) ↔
        (∃ t, o = put t ∧ t.blob = none) ∨ (∃ x ∈ o.identifiers, x.2 = "") ∨
          o = deleteRange ∨ o = rename ∨ o = clear) := by
  refine ⟨fun c w e hlive hfailed hcaller c' w' hlive' => ?_,
    fun c w e hfailed hrequested => ?_, fun c w hlive => ?_⟩
  · exact runIn_of_verdict hlive' ((failed_caller_iff hlive).1 ⟨hfailed, hcaller⟩) c'
  · exact (fromBucket_of_requested hfailed hrequested).isCallerError
  · simp only [failed_caller_iff hlive]
    have herror : (∃ e, o.verdict = .error e) ↔ o.verdict ≠ .ok () := by
      cases o.verdict <;> simp
    rw [herror, ne_eq, verdict_eq_ok_iff]
    simp only [not_and_or, not_forall, exists_prop, not_not, ne_eq]

/-- A tile without a gridset is refused over any bucket; metadata that cannot be read is no fault of
the caller. -/
theorem caller_errors_over_garbled_metadata :
    let tile : Tile := { layer := "roads", gridset := "", coord := ⟨0, 0, 0⟩, format := "" }
    let title := getMetadata "roads" "title"
    (∀ c' w', w'.store.live = true → (get tile).perform.runIn c' w' =
      ({ completion := .failed (.invalidArgument (.empty .gridset)), tile := tile }, w')) ∧
    (title.perform.runIn {} World.garbled).1.completion =
      .failed (.metadata (.notUtf8 ⟨1, some 1⟩)) ∧
    (StorageError.metadata (.notUtf8 ⟨1, some 1⟩)).isCallerError = false ∧
    ∃ e, ((put tile).perform.runIn {} .oneRoad).1.completion = .failed e ∧
      e.isCallerError = true := by
  intro tile title
  have hrefused : ((get tile).perform.runIn {} World.oneRoad).1.completion =
      .failed (.invalidArgument (.empty .gridset)) := by
    decide +kernel
  have hunreadable : (title.perform.runIn {} World.garbled).1.completion =
      .failed (.metadata (.notUtf8 ⟨1, some 1⟩)) := by
    decide +kernel
  have hrequested : (title.perform.runIn {} World.garbled).2.session.trace ≠
      World.garbled.session.trace := by
    decide +kernel
  obtain ⟨halways, -, -⟩ := caller_errors_exact (get tile)
  obtain ⟨-, hbucket, -⟩ := caller_errors_exact title
  obtain ⟨-, -, hexact⟩ := caller_errors_exact (put tile)
  exact ⟨halways {} .oneRoad _ rfl hrefused rfl, hunreadable,
    hbucket {} .garbled _ hunreadable hrequested, (hexact {} .oneRoad rfl).2 (.inl ⟨tile, rfl, rfl⟩)⟩

end Operation

end TileCache
