import TileCache.Proofs.Journal
import TileCache.Proofs.LayerDeletion
set_option autoImplicit false

/-!
# What the counter of bulk deletions misses

A bulk deletion adds up the keys that it submits and counts them at its end. If its listing breaks
off or one of its batches fails, it ends before that, and the keys of the batches that succeeded are
gone but not counted. So the counter shows what was submitted by the bulk deletions that went to
their end, and misses what was submitted by the others.

## Main definitions

* `TileCache.Plan.submittedKeys` — the keys of the batches that are carried out.
* `TileCache.Plan.completes` — whether a bulk deletion went to its end, by its requests.
* `TileCache.BulkDelete.Counted` — what a bulk deletion, and what follows it, counts.

## Main results

* `TileCache.BulkDelete.Swept.exists_counted` — what one bulk deletion counts.
* `TileCache.BulkDelete.bulkDeleted_exact_iff` — when the counter is exact, and what it misses over
  a run of operations.
* `TileCache.BulkDelete.bulkDeleted_misses_first_batch` — a batch that succeeded is not counted.
-/

namespace TileCache

/-! ## Batches that are carried out -/

namespace Plan

variable (p : Plan) (past : List Request)

/-- The keys of the batches that are carried out. -/
def submittedKeys (requests : List Request) : List Key :=
  ((p.carriedOut past requests).filterMap Request.batch?).flatten

/-- Whether requests begin with a listing that comes to its end, and all batches behind it are
carried out. -/
def completes : List Request → Bool
  | .list base :: rest =>
    (p.list past base).isNone && decide
      ((p.carriedOut (past ++ [.list base]) rest).filterMap Request.batch? =
        rest.filterMap Request.batch?)
  | _ => false

/-- A listing submits no keys. -/
lemma submittedKeys_list (base : Key) (rest : List Request) :
    p.submittedKeys past (.list base :: rest) = p.submittedKeys (past ++ [.list base]) rest := rfl

/-- Where no batch is requested none is carried out. -/
lemma filterMap_carriedOut_of_quiet {requests : List Request}
    (h : requests.filterMap Request.batch? = []) :
    (p.carriedOut past requests).filterMap Request.batch? = [] := by
  induction requests generalizing past with
  | nil => rfl
  | cons r rest ih =>
    rw [List.filterMap_eq_nil_iff, List.forall_mem_cons] at h
    rw [carriedOut, List.filterMap_append, ih _ (List.filterMap_eq_nil_iff.2 h.2)]
    split_ifs <;> simp [h.1]

/-- Batches of which none fails are carried out. -/
lemma carriedOut_of_grants {sent : List (List Key)} (h : p.Grants past sent) :
    p.carriedOut past (sent.map .batch) = sent.map .batch := by
  induction sent generalizing past with
  | nil => rfl
  | cons keys rest ih =>
    rw [List.map_cons, carriedOut, ih _ h.2]
    simp [carriesOut, h.1]

end Plan

/-- Batches are found again among requests. -/
lemma Request.filterMap_batch? (sent : List (List Key)) :
    (sent.map Request.batch).filterMap Request.batch? = sent := by
  rw [List.filterMap_map]
  exact List.filterMap_some

/-- Batches leave the counter of bulk deletions as it is. -/
lemma Session.bulkDeleted_afterBatches (p : Plan) (s : Session) (sent : List (List Key)) :
    (s.afterBatches p sent).counters.bulkDeleted = s.counters.bulkDeleted := by
  induction sent generalizing s with
  | nil => rfl
  | cons keys rest ih => exact ih (s.afterBatch p keys)

namespace BulkDelete

open RequestM

variable {p : Plan} {s s₁ s' : Session} {base : Key} {size : BatchSize}
  {x : Except StorageError ℕ}

/-! ## One bulk deletion -/

/-- **The batches that are carried out** are all that are sent, or all but the last, if that fails.
-/
lemma Sent.exists_carriedOut {batches : List (List Key)} {error : Option StorageError}
    (h : Sent p s batches error s') :
    ∃ sent, s' = s.afterBatches p sent ∧ (error = none → sent = batches) ∧
      ((p.carriedOut s.trace (sent.map .batch)).filterMap Request.batch? = sent ↔ error = none) := by
  cases h with
  | all granted =>
    refine ⟨batches, rfl, fun _ => rfl, iff_of_true ?_ rfl⟩
    rw [p.carriedOut_of_grants _ granted, Request.filterMap_batch?]
  | @refused sent keys rest error split granted failed =>
    refine ⟨sent ++ [keys], rfl, nofun, iff_of_false ?_ nofun⟩
    have hlast : p.carriedOut (s.trace ++ sent.map .batch) [.batch keys] = [] := by
      simp [Plan.carriedOut, Plan.carriesOut, failed]
    rw [List.map_append, p.carriedOut_append, p.carriedOut_of_grants _ granted, List.map_singleton,
      hlast, List.append_nil, Request.filterMap_batch?]
    simp

/-- **What one bulk deletion counts**: the keys of its batches, if it goes to its end. If it fails,
its listing broke off or one of its batches failed, and it counts nothing.

**Proof sketch.** By the ways in which it may go. At the end all of its batches were carried out,
and their keys are those that were submitted. -/
lemma Swept.exists_counted (h : Swept p s base size x s') :
    ∃ sent : List (List Key), s'.trace = s.trace ++ .list base :: sent.map .batch ∧
      p.completes s.trace (.list base :: sent.map .batch) = x.isOk ∧
      s'.counters.bulkDeleted = s.counters.bulkDeleted +
        if x.isOk then (p.submittedKeys s.trace (.list base :: sent.map .batch)).length else 0 := by
  have htrace (sent : List (List Key)) : ((s.sent (.list base)).afterBatches p sent).trace =
      s.trace ++ .list base :: sent.map .batch := by
    simp [Session.trace_afterBatches]
  have hcounter (sent : List (List Key)) :
      ((s.sent (.list base)).afterBatches p sent).counters.bulkDeleted = s.counters.bulkDeleted :=
    Session.bulkDeleted_afterBatches p _ sent
  cases h with
  | @finished s₁ ended hsent =>
    obtain ⟨sent, rfl, hall, hcarried⟩ := hsent.exists_carriedOut
    have hcarried' := hcarried.2 rfl
    rw [Session.trace_sent] at hcarried'
    refine ⟨sent, htrace sent, ?_, ?_⟩
    · rw [Plan.completes, ended, hcarried', Request.filterMap_batch?]
      simp [Except.isOk, Except.toBool]
    · -- what is counted is the number of keys listed, and these are all in the batches
      have hkeys : sent.flatten = s.bucket.tileKeys base := by
        rw [hall rfl, flatten_batches, flatten_pages, pageKeys_entriesBelow]
      rw [Plan.submittedKeys_list, Plan.submittedKeys, hcarried', hkeys]
      exact congrArg (· + (s.bucket.tileKeys base).length) (hcounter sent)
  | @brokenOff s₁ shown error broken hsent =>
    obtain ⟨sent, rfl, -, -⟩ := hsent.exists_carriedOut
    refine ⟨sent, htrace sent, ?_, hcounter sent⟩
    simp [Plan.completes, broken, Except.isOk, Except.toBool]
  | @refused s₁ error hsent =>
    obtain ⟨sent, rfl, -, hcarried⟩ := hsent.exists_carriedOut
    refine ⟨sent, htrace sent, ?_, hcounter sent⟩
    rw [Session.trace_sent] at hcarried
    rw [Plan.completes, Request.filterMap_batch?, decide_eq_false fun h => nomatch hcarried.1 h]
    simp [Except.isOk, Except.toBool]

/-- **A bulk deletion counts what it submitted just if it does not fail**, or submitted nothing. -/
lemma run_counted (p : Plan) (s : Session) (base : Key) (size : BatchSize) :
    let x := ((run base size).runUnder p s).1
    let s' := ((run base size).runUnder p s).2
    ∃ requests, s'.trace = s.trace ++ requests ∧
      (s'.counters.bulkDeleted =
          s.counters.bulkDeleted + (p.submittedKeys s.trace requests).length ↔
        (∃ n, x = .ok n) ∨ p.submittedKeys s.trace requests = []) ∧
      ∀ e, x = .error e → s'.counters.bulkDeleted = s.counters.bulkDeleted := by
  intro x s'
  obtain ⟨y, σ, hswept, hrun⟩ := swept_run p s base size
  obtain rfl : x = y := congrArg Prod.fst hrun
  obtain rfl : s' = σ := congrArg Prod.snd hrun
  obtain ⟨sent, htrace, -, hcounter⟩ := hswept.exists_counted
  refine ⟨_, htrace, ?_, fun e he => ?_⟩
  · rw [hcounter]
    cases x with
    | ok n => exact iff_of_true rfl (.inl ⟨n, rfl⟩)
    | error e =>
      have hnone : ¬∃ n, (Except.error e : Except StorageError ℕ) = .ok n := by simp
      rw [or_iff_right hnone, ← List.length_eq_zero_iff]
      exact Nat.add_left_cancel_iff.trans eq_comm
  · rw [he] at hcounter
    exact hcounter

/-! ## Removals -/

/-- Between two sessions there was a listing and then other requests, and the counter of bulk
deletions grew by the keys of their batches, if all went well, and not at all otherwise. -/
def Counted (p : Plan) (s s' : Session) : Prop :=
  ∃ base rest, s'.trace = s.trace ++ .list base :: rest ∧
    s'.counters.bulkDeleted = s.counters.bulkDeleted +
      if p.completes s.trace (.list base :: rest) then
        (p.submittedKeys s.trace (.list base :: rest)).length
      else 0

/-- After a bulk deletion it is so. -/
lemma Swept.counted (h : Swept p s base size x s') : Counted p s s' := by
  obtain ⟨sent, htrace, hcompletes, hcounter⟩ := h.exists_counted
  refine ⟨base, sent.map .batch, htrace, ?_⟩
  rw [hcompletes, hcounter]

/-- A request that is neither a batch nor counted makes no difference to what is counted. -/
lemma Counted.later (h : Counted p s s₁) {r : Request} (hr : r.batch? = none)
    (htrace : s'.trace = s₁.trace ++ [r]) (hcounters : s'.counters = s₁.counters) :
    Counted p s s' := by
  obtain ⟨base, rest, htrace₁, hcounted⟩ := h
  have hquiet : [r].filterMap Request.batch? = [] := by simp [hr]
  have hcarried :
      (p.carriedOut (s.trace ++ [.list base]) (rest ++ [r])).filterMap Request.batch? =
        (p.carriedOut (s.trace ++ [.list base]) rest).filterMap Request.batch? := by
    rw [p.carriedOut_append, List.filterMap_append, p.filterMap_carriedOut_of_quiet _ hquiet,
      List.append_nil]
  have hcompletes : p.completes s.trace (.list base :: (rest ++ [r])) =
      p.completes s.trace (.list base :: rest) := by
    rw [Plan.completes, Plan.completes, hcarried, List.filterMap_append, hquiet, List.append_nil]
  refine ⟨base, rest ++ [r], by rw [htrace, htrace₁, List.append_assoc, List.cons_append], ?_⟩
  rw [hcounters, hcounted, hcompletes, Plan.submittedKeys_list, Plan.submittedKeys_list,
    Plan.submittedKeys, Plan.submittedKeys, hcarried]

/-- The probe for metadata that may follow makes no difference. -/
lemma Counted.head (h : Counted p s s₁) {key : Key} {y : Except StorageError (Option ObjectInfo)}
    (probe : (Backend.head key).runUnder p s₁ = (y, s')) : Counted p s s' := by
  rw [Backend.eq_sent_of_head probe]
  exact h.later (r := .head key) rfl rfl rfl

/-- The deletion of metadata that may follow makes no difference. -/
lemma Counted.delete (h : Counted p s s₁) {key : Key} {y : Except StorageError Unit}
    (removal : (Backend.delete key).runUnder p s₁ = (y, s')) : Counted p s s' := by
  have hspared : (Backend.delete key).Spares id := Backend.spares_delete
  have hcounters := (hspared p s₁).2
  rw [removal] at hcounters
  exact h.later (r := .delete key) rfl (Backend.trace_of_delete removal) hcounters

/-- **The removal of a layer counts the tiles** that it submitted, if the bulk deletion went to its
end, whatever becomes of the metadata. -/
lemma counted_of_layerErased {metadata : Key} {y : Except StorageError Bool}
    (h : Store.LayerErased p s size base metadata y s') : Counted p s s' := by
  have hfound {n : ℕ} {s₁ s₂ : Session} (hswept : Counted p s s₁)
      (found : Store.LayerFound p metadata n s₁ s₂) : Counted p s s₂ := by
    cases found with
    | byTiles pos => exact hswept
    | byMetadata probe => exact hswept.head probe
  cases h with
  | unswept swept => exact swept.counted
  | unprobed swept probe => exact swept.counted.head probe
  | absent swept probe => exact swept.counted.head probe
  | kept swept found refused => exact (hfound swept.counted found).delete refused
  | removed swept found removal => exact (hfound swept.counted found).delete removal

end BulkDelete

/-! ## Runs -/

namespace JournalLine

/-- Whether an operation deletes below a key. -/
def sweeps (l : JournalLine) : Bool :=
  match l.operation with
  | .deleteLayer _ | .deleteGridset _ _ => true
  | _ => false

/-- Whether an operation deletes below a key and came to the end of that. -/
def completes (l : JournalLine) : Bool :=
  l.sweeps && l.plan.completes l.before.trace l.requests

/-- The keys of the batches of an operation that were carried out. -/
def submitted (l : JournalLine) : List Key :=
  l.plan.submittedKeys l.before.trace l.requests

end JournalLine

namespace Operation

variable (c : Context) (w : World)

/-- An operation that deletes nothing below a key does not count as a bulk deletion. -/
lemma bulkDeleted_of_not_sweeps {o : Operation} (h : (o.line c w).sweeps = false) :
    (o.perform.runIn c w).2.session.counters.bulkDeleted = w.session.counters.bulkDeleted := by
  rcases o.session_cases with ⟨call, rfl⟩ | rfl | hsession
  · rw [Call.session_perform]
    cases call with
    | put t => exact ((w.store.spares_writeTile t).map c.plan w.session).2
    | get t => exact ((w.store.spares_readTile t).map c.plan w.session).2
    | deleteTile t => exact ((w.store.spares_eraseTile t).map c.plan w.session).2
    | deleteLayer n => cases h
    | deleteGridset n g => cases h
    | getMetadata n name =>
      exact ((w.store.spares_readMetadata n name).map.of_id c.plan w.session).2
    | putMetadata n name value =>
      exact ((w.store.spares_writeMetadata n name value).map.of_id c.plan w.session).2
  · rw [session_checkAccess]
    exact (w.store.spares_probeRoot.of_id c.plan w.session).2
  · rw [hsession]

/-- What is counted between two sessions is counted by the line of an operation. -/
lemma bulkDeleted_of_counted {o : Operation} (hsweeps : (o.line c w).sweeps = true)
    (h : (o.perform.runIn c w).2.session = w.session ∨
      BulkDelete.Counted c.plan w.session (o.perform.runIn c w).2.session) :
    (o.perform.runIn c w).2.session.counters.bulkDeleted = w.session.counters.bulkDeleted +
      if (o.line c w).completes then (o.line c w).submitted.length else 0 := by
  rw [JournalLine.completes, hsweeps, Bool.true_and]
  rcases h with hsession | ⟨base, rest, htrace, hcounter⟩
  · have hrequests : (o.line c w).requests = [] :=
      requests_line c w (by rw [hsession, List.append_nil])
    rw [hsession, hrequests]
    rfl
  · have hrequests : (o.line c w).requests = .list base :: rest := requests_line c w htrace
    rw [hcounter, JournalLine.submitted, hrequests]
    rfl

/-- **An operation counts the keys that it submitted** if it deletes below a key and comes to the
end of that, and nothing otherwise. -/
lemma bulkDeleted_perform (o : Operation) :
    (o.perform.runIn c w).2.session.counters.bulkDeleted = w.session.counters.bulkDeleted +
      if (o.line c w).completes then (o.line c w).submitted.length else 0 := by
  cases hsweeps : (o.line c w).sweeps with
  | false =>
    rw [bulkDeleted_of_not_sweeps c w hsweeps, JournalLine.completes, hsweeps]
    rfl
  | true =>
    -- either the arguments are refused and nothing is requested, or a bulk deletion is begun
    refine bulkDeleted_of_counted c w hsweeps ?_
    cases o with
    | deleteLayer n =>
      have hsession : ((deleteLayer n).perform.runIn c w).2.session =
          ((Store.eraseLayer n w.store).runUnder c.plan w.session).2 :=
        Call.session_of_map c w (.deleteLayer n) rfl
      rw [hsession]
      cases hcheck : w.store.checkedLayer n with
      | error e =>
        left
        unfold Store.eraseLayer
        rw [← Store.checkedLayer_bind, hcheck]
        rfl
      | ok keys =>
        obtain ⟨x, s', herased, hrun⟩ := Store.layerErased_eraseLayer hcheck c.plan w.session
        rw [hrun]
        exact .inr (BulkDelete.counted_of_layerErased herased)
    | deleteGridset n g =>
      have hsession : ((deleteGridset n g).perform.runIn c w).2.session =
          ((Store.eraseGridset n g w.store).runUnder c.plan w.session).2 :=
        Call.session_of_map c w (.deleteGridset n g) rfl
      rw [hsession]
      unfold Store.eraseGridset
      rw [← Store.checkedGridset_bind]
      cases w.store.checkedGridset n g with
      | error e => exact .inl rfl
      | ok base =>
        obtain ⟨x, s', hswept, hrun⟩ :=
          BulkDelete.swept_run c.plan w.session base w.store.batchSize
        rw [RequestM.ofExcept_ok, pure_bind, RequestM.runUnder_bind, hrun]
        cases x <;> exact .inr hswept.counted
    | _ => cases hsweeps

end Operation

/-- What a journal counts in all. -/
lemma JournalLine.foldl_completes (n : ℕ) (journal : List JournalLine) :
    journal.foldl (fun n l => n + if l.completes then l.submitted.length else 0) n =
      n + ((journal.filter completes).flatMap submitted).length := by
  induction journal generalizing n with
  | nil => rfl
  | cons line rest ih =>
    rw [List.foldl_cons, ih]
    cases h : line.completes with
    | true => simp [h, Nat.add_assoc]
    | false => simp [h]

/-- What deletions submitted that did not come to their end, and what the others did, is all that
was submitted. -/
lemma JournalLine.length_submitted (journal : List JournalLine) :
    ((journal.filter completes).flatMap submitted).length +
        ((journal.filter fun l => l.sweeps && !l.completes).flatMap submitted).length =
      ((journal.filter sweeps).flatMap submitted).length := by
  induction journal with
  | nil => rfl
  | cons line rest ih =>
    have hcompletes : line.completes = true → line.sweeps = true :=
      fun h => (Bool.and_eq_true_iff.1 h).1
    cases h : line.completes with
    | true =>
      rw [List.filter_cons_of_pos h, List.filter_cons_of_neg (by simp [h]),
        List.filter_cons_of_pos (hcompletes h)]
      simp only [List.flatMap_cons, List.length_append]
      omega
    | false =>
      rw [List.filter_cons_of_neg (by simp [h])]
      cases hsweeps : line.sweeps with
      | true =>
        rw [List.filter_cons_of_pos (by simp [h, hsweeps]), List.filter_cons_of_pos hsweeps]
        simp only [List.flatMap_cons, List.length_append]
        omega
      | false =>
        rw [List.filter_cons_of_neg (by simp [hsweeps]), List.filter_cons_of_neg (by simp [hsweeps])]
        exact ih

namespace BulkDelete

/-- **When the counter of bulk deletions is exact.** Let requests fail in any way.

* A bulk deletion counts the keys of its batches that were carried out just if it returns, or if
  there are no such keys. If it fails it counts nothing.
* Over a run of operations the counter misses the keys that were submitted by deletions below a key
  before they failed, and no others. So it shows all keys that were submitted just if those
  deletions that failed had submitted none.

**Proof sketch.** The keys are added up while batches are sent, and counted behind the end of the
listing. So it is with one bulk deletion, and what may follow it, a probe and the deletion of
metadata, is counted elsewhere. The run follows by induction. -/
theorem bulkDeleted_exact_iff (p : Plan) (s : Session) (base : Key) (size : BatchSize) (w : World)
    (steps : List (Context × Operation)) :
    (let x := ((run base size).runUnder p s).1
      let s' := ((run base size).runUnder p s).2
      ∃ requests, s'.trace = s.trace ++ requests ∧
        (s'.counters.bulkDeleted =
            s.counters.bulkDeleted + (p.submittedKeys s.trace requests).length ↔
          (∃ n, x = .ok n) ∨ p.submittedKeys s.trace requests = []) ∧
        ∀ e, x = .error e → s'.counters.bulkDeleted = s.counters.bulkDeleted) ∧
    let before := w.session.counters.bulkDeleted
    let after := (w.afterSteps steps).session.counters.bulkDeleted
    let submitted :=
      ((w.journal steps).filter JournalLine.sweeps).flatMap JournalLine.submitted
    let missed :=
      ((w.journal steps).filter fun l => l.sweeps && !l.completes).flatMap JournalLine.submitted
    after + missed.length = before + submitted.length ∧
      (after = before + submitted.length ↔ missed = []) := by
  refine ⟨run_counted p s base size, ?_⟩
  intro before after submitted missed
  have hrun : after = before +
      (((w.journal steps).filter JournalLine.completes).flatMap JournalLine.submitted).length := by
    rw [← JournalLine.foldl_completes]
    exact @World.counters_afterSteps ℕ Counters.bulkDeleted _ Operation.bulkDeleted_perform w steps
  have hall : after + missed.length = before + submitted.length := by
    rw [hrun, Nat.add_assoc, JournalLine.length_submitted]
  refine ⟨hall, ?_⟩
  rw [← hall, ← List.length_eq_zero_iff]
  omega

end BulkDelete

/-- A store that deletes one key at a time, over a bucket with two tiles of the layer `roads`. -/
def World.twoRoads : World :=
  let tile (z : UInt32) : Tile := { layer := "roads", gridset := "EPSG:4326", coord := ⟨z, 0, 0⟩,
                                    format := "image/png" }
  let empty : World := { store := { Store.ofRoot "gwc" with batchSize := .clamp 1 } }
  empty.after {} [.put ((tile 0).withBlob [1]), .put ((tile 1).withBlob [2])]

/-- Nothing fails but the deletion of the tile in the second of them. -/
def Context.secondRefused : Context :=
  { plan := ({ batch := some (.keys .generic ["default/1/"] none) } : Faults).plan }

namespace BulkDelete

/-- Of two batches the first succeeds and its tile is gone. The second fails, and nothing is counted.
-/
theorem bulkDeleted_of_twoRoads :
    let p := Context.secondRefused.plan
    let s := World.twoRoads.session
    let roads := Key.ofText "gwc/roads"
    let steps : List (Context × Operation) := [(.secondRefused, .deleteLayer "roads")]
    ((run roads (.clamp 1)).runUnder p s).2.counters.bulkDeleted = 0 ∧
      (((run roads (.clamp 1)).runUnder p s).2.bucket.tileKeys roads).length = 1 ∧
      (World.twoRoads.afterSteps steps).session.counters.bulkDeleted + 1 =
        (((World.twoRoads.journal steps).filter JournalLine.sweeps).flatMap
          JournalLine.submitted).length := by
  intro p s roads steps
  obtain ⟨⟨requests, -, -, hfailed⟩, hmissed, -⟩ :=
    bulkDeleted_exact_iff p s roads (.clamp 1) World.twoRoads steps
  have herror : ((run roads (.clamp 1)).runUnder p s).1 = .error (.backend "delete_batch" "1 keys"
      (.bucket (.generic "batch of gwc/roads/EPSG:4326/png/default/1/0/0.png failed"))) := by
    decide +kernel
  have hone : (((World.twoRoads.journal steps).filter fun l => l.sweeps && !l.completes).flatMap
      JournalLine.submitted).length = 1 := by
    decide +kernel
  have hnone : World.twoRoads.session.counters.bulkDeleted = 0 := by
    decide +kernel
  refine ⟨(hfailed _ herror).trans hnone, by decide +kernel, ?_⟩
  rwa [hone, hnone, Nat.zero_add] at hmissed

/-- **A batch that succeeded may not be counted**: of two batches the second fails, so that a key is
submitted and the counter stays as it was. -/
theorem bulkDeleted_misses_first_batch :
    ¬∀ (p : Plan) (s : Session) (base : Key) (size : BatchSize) (requests : List Request),
      ((run base size).runUnder p s).2.trace = s.trace ++ requests →
      ((run base size).runUnder p s).2.counters.bulkDeleted =
        s.counters.bulkDeleted + (p.submittedKeys s.trace requests).length := by
  intro hexact
  let first := Key.ofText "gwc/roads/EPSG:4326/png/default/0/0/0.png"
  let second := Key.ofText "gwc/roads/EPSG:4326/png/default/1/0/0.png"
  have hcount := hexact Context.secondRefused.plan World.twoRoads.session (Key.ofText "gwc/roads")
    (.clamp 1) [.list (Key.ofText "gwc/roads"), .batch [first], .batch [second]]
    (by decide +kernel)
  revert hcount
  decide +kernel

end BulkDelete

end TileCache
