import TileCache.Proofs.Verdicts
set_option autoImplicit false

/-!
# Shutting a store down is final

A store that has been shut down has no listeners and is not live, and no operation makes it live
again or gives it a listener. So nothing changes any more: each operation finds the store as it was
left, and fails before it makes a request. Which error it fails with depends on whether it judges
its arguments before or after it asks for the store.

## Main definitions

* `TileCache.World.Closed` — worlds whose store has been shut down.

## Main results

* `TileCache.World.Closed.perform`, `TileCache.World.Closed.after_eq` — no operation and no run
  changes such a world.
* `TileCache.Operation.destroy_absorbing` — what is left to be had of a store after its shutdown.
-/

namespace TileCache

/-- The store has been shut down: it is not live, and its listeners have been dropped. -/
structure World.Closed (w : World) : Prop where
  dead : w.store.live = false
  alone : w.store.listeners = {}

namespace Operation

variable {s : Store} {o : Operation}

/-- An operation that judges its arguments first has the verdict on a store that has been shut down
if that is an error, and otherwise learns of the shutdown. -/
lemma check_of_dead_of_last (h : s.live = false) (hlast : o.check s = (do o.verdict; s.guard)) :
    (∃ e, o.verdict = .error e ∧ o.check s = .error e) ∨
      o.verdict = .ok () ∧ o.check s = .error .destroyed := by
  rw [hlast, Store.guard_of_dead h]
  cases o.verdict with
  | error e => exact .inl ⟨e, rfl, rfl⟩
  | ok u => exact .inr ⟨rfl, rfl⟩

/-- **What a store that has been shut down refuses**: everything but to be shut down again and to
add or remove a listener. -/
lemma check_of_dead (h : s.live = false) (o : Operation) :
    (∃ e, o.check s = .error e) ∨ o = destroy ∨ (∃ l, o = addListener l) ∨
      ∃ l, o = removeListener l := by
  rcases o.check_cases s with hlast | hfirst | ⟨halone, ⟨e, he⟩ | hothers⟩
  · rcases check_of_dead_of_last h hlast with ⟨e, -, he⟩ | ⟨-, he⟩
    · exact .inl ⟨e, he⟩
    · exact .inl ⟨.destroyed, he⟩
  · rw [hfirst, Store.guard_of_dead h]
    exact .inl ⟨.destroyed, rfl⟩
  · exact .inl ⟨e, halone.trans he⟩
  · exact .inr hothers

end Operation

namespace World.Closed

variable {w : World}

/-- A store that has been shut down may be shut down again. -/
lemma destroy (h : w.Closed) (c : Context) :
    Operation.destroy.perform.runIn c w = ({ completion := .returned .done }, w) := by
  have hsame : { w.store with listeners := {}, live := false, destroyed := true, inStep := rfl } =
      w.store :=
    Store.eq_of_live_eq rfl rfl h.alone.symm h.dead.symm
  have hrun : Operation.destroy.perform.runIn c w = ({ completion := .returned .done },
      { w with store :=
        { w.store with listeners := {}, live := false, destroyed := true, inStep := rfl } }) :=
    rfl
  rw [hrun, hsame]

/-- A listener that is to be added after the shutdown is not. -/
lemma addListener (h : w.Closed) (c : Context) (l : Listener) :
    (Operation.addListener l).perform.runIn c w = ({ completion := .returned .done }, w) := by
  have hrun : (Operation.addListener l).perform.runIn c w =
      ({ completion := .returned .done }, ((Store.addListener l).runIn c w).2) :=
    rfl
  rw [hrun, StoreM.runIn_addListener, h.dead]
  rfl

/-- A listener that is to be removed after the shutdown is not there. -/
lemma removeListener (h : w.Closed) (c : Context) (l : Listener) :
    (Operation.removeListener l).perform.runIn c w =
      ({ completion := .returned (.truth false) }, w) := by
  have hrun : (Operation.removeListener l).perform.runIn c w =
      ({ completion := .returned (.truth (w.store.listeners.contains l)) },
        { w with store := { w.store with listeners := w.store.listeners.remove l } }) :=
    rfl
  have hkept : w.store.listeners.remove l = w.store.listeners := by
    rw [h.alone]
    rfl
  have habsent : w.store.listeners.contains l = false := by
    rw [h.alone]
    rfl
  rw [hrun, hkept, habsent]

/-- **No operation changes the world after the shutdown.** -/
lemma perform (h : w.Closed) (c : Context) (o : Operation) : (o.perform.runIn c w).2 = w := by
  rcases o.check_of_dead h.dead with ⟨e, he⟩ | rfl | ⟨l, rfl⟩ | ⟨l, rfl⟩
  · rw [Operation.runIn_of_refused he]
  · rw [h.destroy]
  · rw [h.addListener]
  · rw [h.removeListener]

/-- **No run changes the world after the shutdown**, however long it is. -/
lemma after_eq (h : w.Closed) (c : Context) (rest : List Operation) : w.after c rest = w := by
  induction rest with
  | nil => rfl
  | cons o rest ih =>
    have hfirst : w.after c [o] = w := h.perform c o
    rw [after_cons, hfirst, ih]

end World.Closed

namespace Operation

variable {c c' : Context} {w closed : World} {o : Operation}

/-- **An operation that judges its arguments first** fails after the shutdown as on any live store
if its arguments are at fault, and otherwise because of the shutdown. -/
lemma runIn_closed_of_last (hclosed : closed.Closed)
    (hlast : o.check closed.store = (do o.verdict; closed.store.guard))
    (hfinds : FindsFault o.verdict) (hlive : w.store.live = true) :
    ((∃ fault, (o.perform.runIn c w).1.completion = .failed (.invalidArgument fault)) →
      o.perform.runIn c' closed = ((o.perform.runIn c w).1, closed)) ∧
    ((∀ fault, (o.perform.runIn c w).1.completion ≠ .failed (.invalidArgument fault)) →
      o.perform.runIn c' closed =
        ({ completion := .failed .destroyed, tile := o.given }, closed)) := by
  rcases check_of_dead_of_last hclosed.dead hlast with ⟨e, hverdict, hcheck⟩ | ⟨hverdict, hcheck⟩
  · have halive : o.perform.runIn c w = ({ completion := .failed e, tile := o.given }, w) :=
      runIn_of_refused ((check_of_live hlive o).trans hverdict) c
    obtain ⟨fault, rfl⟩ := hfinds e hverdict
    rw [halive, runIn_of_refused hcheck]
    exact ⟨fun _ => rfl, fun h => absurd rfl (h fault)⟩
  · refine ⟨fun ⟨fault, hfault⟩ => ?_, fun _ => runIn_of_refused hcheck c'⟩
    -- With nothing wrong about the arguments, a live store has no errors but the bucket's.
    cases fromBucket_of_passed ((check_of_live hlive o).trans hverdict) hfault

/-- **Destroy is absorbing.** Let a store be shut down after any run of operations, while requests
fail in any way and listeners do anything. The shutdown makes no request and sends no event, and
then the list of listeners is empty. From then on, whatever run follows, the world stays as it is:
no request reaches the bucket, nobody hears of anything, no counter moves. To shut the store down
again does nothing; a listener that is to be added is not, and one that is to be removed is not
there. All other operations fail, and leave the tile they are given as it was. To read and to write
metadata and to check the access fails because of the shutdown, whatever the arguments. To store, to
read and to remove a tile and to remove a layer or a gridset fails as on any live store if that
finds the arguments at fault, and otherwise because of the shutdown. And what the store does not
offer fails as ever.

**Proof sketch.** After the shutdown the store is not live and has no listeners. Such a store
refuses all operations before their first request but three, which find nothing to change; so the
world stays what it is in one step, and by induction on the run that follows in all. The errors are
those of the checks, in the order in which an operation makes them. -/
theorem destroy_absorbing (c : Context) (w : World) (before : List Operation) :
    let last := w.after c before
    let closed := w.after c (before ++ [destroy])
    (closed.session = last.session ∧ closed.deliveries = last.deliveries ∧
      closed.store.listeners = {}) ∧
    (∀ c' rest, closed.after c' rest = closed) ∧
    (∀ c', destroy.perform.runIn c' closed = ({ completion := .returned .done }, closed)) ∧
    (∀ c' l, (addListener l).perform.runIn c' closed =
      ({ completion := .returned .done }, closed)) ∧
    (∀ c' l, (removeListener l).perform.runIn c' closed =
      ({ completion := .returned (.truth false) }, closed)) ∧
    (∀ c' (o : Operation), (∃ e, o.perform.runIn c' closed =
        ({ completion := .failed e, tile := o.given }, closed)) ∨
      o = destroy ∨ (∃ l, o = addListener l) ∨ ∃ l, o = removeListener l) ∧
    (∀ n name value, ∀ o ∈ [getMetadata n name, putMetadata n name value, checkAccess], ∀ c',
      o.perform.runIn c' closed = ({ completion := .failed .destroyed }, closed)) ∧
    (∀ t n g, ∀ o ∈ [put t, get t, deleteTile t, deleteLayer n, deleteGridset n g],
      ∀ (c' c'' : Context) (alive : World), alive.store.live = true →
        ((∃ fault, (o.perform.runIn c'' alive).1.completion = .failed (.invalidArgument fault)) →
          o.perform.runIn c' closed = ((o.perform.runIn c'' alive).1, closed)) ∧
        ((∀ fault, (o.perform.runIn c'' alive).1.completion ≠ .failed (.invalidArgument fault)) →
          o.perform.runIn c' closed =
            ({ completion := .failed .destroyed, tile := o.given }, closed))) ∧
    ∀ o ∈ [deleteRange, rename, clear], ∀ (c' c'' : Context) (alive : World),
      o.perform.runIn c' closed = ((o.perform.runIn c'' alive).1, closed) := by
  intro last closed
  have hend : closed = { last with store :=
      { last.store with listeners := {}, live := false, destroyed := true, inStep := rfl } } :=
    w.after_append c before [destroy]
  have hclosed : closed.Closed := by
    rw [hend]
    exact ⟨rfl, rfl⟩
  refine ⟨?_, fun c' rest => hclosed.after_eq c' rest, hclosed.destroy, hclosed.addListener,
    hclosed.removeListener, fun c' o => ?_, fun n name value o ho c' => ?_,
    fun t n g o ho c' c'' alive hlive => ?_, fun o ho c' c'' alive => ?_⟩
  · rw [hend]
    exact ⟨rfl, rfl, rfl⟩
  · exact (check_of_dead hclosed.dead o).imp_left fun ⟨e, he⟩ => ⟨e, runIn_of_refused he c'⟩
  · have hcheck : o.check closed.store = .error .destroyed ∧ o.given = none := by
      simp only [List.mem_cons, List.not_mem_nil, or_false] at ho
      rcases ho with rfl | rfl | rfl <;>
        simp only [check, Store.guard_of_dead hclosed.dead, given, and_true] <;> rfl
    rw [runIn_of_refused hcheck.1, hcheck.2]
  · simp only [List.mem_cons, List.not_mem_nil, or_false] at ho
    refine runIn_closed_of_last hclosed ?_ ?_ hlive
    · rcases ho with rfl | rfl | rfl | rfl | rfl <;> rfl
    · rcases o.findsFault_or with hfinds | rfl | rfl | rfl
      · exact hfinds
      all_goals simp at ho
  · simp only [List.mem_cons, List.not_mem_nil, or_false] at ho
    rcases ho with rfl | rfl | rfl <;> rfl

/-- After the shutdown the only tile is not to be had; without a gridset it is refused as it is by
the live store; and metadata of a layer without a name is refused because of the shutdown. -/
theorem oneRoad_shut_down :
    let tile : Tile := { layer := "roads", gridset := "EPSG:4326", coord := ⟨0, 0, 0⟩,
                         format := "image/png" }
    let vague := { tile with gridset := "" }
    let title := getMetadata "" "title"
    ((get tile).perform.runIn .deleteDenied (World.oneRoad.after {} [clear, destroy])).1 =
        { completion := .failed .destroyed, tile := tile } ∧
      ((deleteTile vague).perform.runIn {} (World.oneRoad.after {} [clear, destroy])).1 =
        ((deleteTile vague).perform.runIn .deleteDenied World.oneRoad).1 ∧
      (title.perform.runIn {} (World.oneRoad.after {} [clear, destroy])).1 =
        { completion := .failed .destroyed } := by
  intro tile vague title
  have hvague : ((deleteTile vague).perform.runIn .deleteDenied World.oneRoad).1.completion =
      .failed (.invalidArgument (.empty .gridset)) := by
    decide +kernel
  have hfetched : ((get tile).perform.runIn {} World.oneRoad).1.completion =
      .returned (.truth true) := by
    decide +kernel
  obtain ⟨-, -, -, -, -, -, hfirst, hlast, -⟩ := destroy_absorbing {} World.oneRoad [clear]
  obtain ⟨-, hshut⟩ := hlast tile "" "" (get tile) (by simp) .deleteDenied {} .oneRoad rfl
  obtain ⟨hfault, -⟩ := hlast vague "" "" (deleteTile vague) (by simp) {} .deleteDenied .oneRoad rfl
  have hvalid : ∀ fault, ((get tile).perform.runIn {} World.oneRoad).1.completion ≠
      .failed (.invalidArgument fault) := by
    intro fault
    rw [hfetched]
    simp
  have hgone := congrArg Prod.fst (hshut hvalid)
  have hrefused := congrArg Prod.fst (hfault ⟨_, hvague⟩)
  have hclosed := congrArg Prod.fst (hfirst "" "title" "" title (by simp [title]) {})
  exact ⟨hgone, hrefused, hclosed⟩

end Operation

end TileCache
