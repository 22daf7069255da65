import TileCache.Proofs.Timeline
set_option autoImplicit false

/-!
# Keys that resist a bulk deletion

Some keys cannot be deleted: in a batch each of them is refused, while all else succeeds. A batch
that holds another key, too, succeeds nevertheless, and its refusals are only counted; a batch that
holds none but such keys fails with the refusal of the first of them. Which of the two happens is a
matter of how these keys are spread over the pages.

## Main definitions

* `TileCache.StuckKeys` — keys that cannot be deleted in a batch, and their refusals.
* `TileCache.StuckKeys.plan` — the plan by which nothing else fails.

## Main results

* `TileCache.StuckKeys.batchError_plan`, `failures_settle_answers` — what a batch amounts to.
* `TileCache.StuckKeys.grants_iff` — which batches succeed.
* `TileCache.BulkDelete.run_around_stuck_keys` — what a bulk deletion returns, deletes and counts.
-/

namespace TileCache

/-- Keys whose objects cannot be deleted in a batch, and with what each is refused. No refusal says
that there is no object. -/
structure StuckKeys where
  /-- Whether a key is one of them. -/
  holds : Key → Bool
  /-- The refusal of a key in a batch that is sent after some requests. -/
  refusal : List Request → Key → BucketError
  isNotFound_refusal : ∀ past key, (refusal past key).isNotFound = false

namespace StuckKeys

variable (f : StuckKeys) (past : List Request)

/-- The answer for one key of a batch. -/
def answer (key : Key) : Option BucketError :=
  if f.holds key then some (f.refusal past key) else none

/-- The plan by which these keys resist and nothing else fails. A batch is answered in the order of
its keys. -/
def plan : Plan :=
  { Plan.faultless with
    batch := fun past keys =>
      { answers := keys.map (f.answer past)
        removes := fun key => !f.holds key } }

/-! ## One batch -/

/-- The refusals among the answers are those of the keys that resist, in order. -/
lemma refusals_answers (keys : List Key) :
    Backend.refusals (keys.map (f.answer past)) = (keys.filter f.holds).map (f.refusal past) := by
  induction keys with
  | nil => rfl
  | cons key rest ih =>
    rw [Backend.refusals] at ih ⊢
    cases hkey : f.holds key with
    | true =>
      have hanswer : (f.answer past key).filter (fun error => !error.isNotFound) =
          some (f.refusal past key) := by
        simp [answer, hkey, f.isNotFound_refusal]
      rw [List.map_cons, List.filterMap_cons_some hanswer, ih, List.filter_cons_of_pos hkey,
        List.map_cons]
    | false =>
      have hanswer : (f.answer past key).filter (fun error => !error.isNotFound) = none := by
        simp [answer, hkey]
      rw [List.map_cons, List.filterMap_cons_none hanswer, ih,
        List.filter_cons_of_neg (by simp [hkey])]

/-- Every key that resists counts as a failure. -/
lemma failures_settle_answers (keys : List Key) :
    (Backend.settle keys.length (keys.map (f.answer past))).failures =
      (keys.filter f.holds).length := by
  simp only [Backend.settle, f.refusals_answers, List.length_map]

/-- **The error of a batch** is the refusal of its first key, if all of its keys resist. -/
lemma batchError_plan (first : Key) (rest : List Key) :
    f.plan.batchError past (first :: rest) =
      if (first :: rest).all f.holds then
        some (.backend "delete_batch" s!"{(first :: rest).length} keys"
          (.bucket (f.refusal past first)))
      else none := by
  have hanswers : (f.plan.batch past (first :: rest)).answers =
    (first :: rest).map (f.answer past) := rfl
  have hlength : ¬((first :: rest).map (f.answer past)).length < (first :: rest).length := by
    simp
  rw [Plan.batchError, hanswers, Backend.settle, f.refusals_answers, if_neg hlength,
    List.length_map]
  by_cases hall : (first :: rest).all f.holds = true
  · have hfilter : (first :: rest).filter f.holds = first :: rest :=
      List.filter_eq_self.2 (List.all_eq_true.1 hall)
    simp only [hfilter, List.map_cons, hall, if_true]
  · have hshort : ((first :: rest).filter f.holds).length ≠ (first :: rest).length := by
      rwa [Ne, List.length_filter_eq_length_iff, ← List.all_eq_true]
    rw [if_neg hall]
    split
    · rw [if_neg hshort]
    · rfl

/-- A batch succeeds just if it holds a key that does not resist. -/
lemma batchError_plan_eq_none_iff {keys : List Key} (h : keys ≠ []) :
    f.plan.batchError past keys = none ↔ ∃ k ∈ keys, f.holds k = false := by
  obtain ⟨first, rest, rfl⟩ := List.exists_cons_of_ne_nil h
  rw [batchError_plan]
  by_cases hall : (first :: rest).all f.holds = true
  · rw [if_pos hall]
    simpa using hall
  · refine iff_of_true (if_neg hall) ?_
    by_contra hnone
    refine hall (List.all_eq_true.2 fun k hk => ?_)
    by_contra hk'
    exact hnone ⟨k, hk, by simpa using hk'⟩

/-! ## Batches one after the other -/

/-- **Batches do not fail** just if each holds a key that does not resist. -/
lemma grants_iff {batches : List (List Key)} (h : ∀ keys ∈ batches, keys ≠ []) :
    f.plan.Grants past batches ↔ ∀ keys ∈ batches, ∃ k ∈ keys, f.holds k = false := by
  induction batches generalizing past with
  | nil => simp [Plan.Grants]
  | cons keys rest ih =>
    rw [List.forall_mem_cons] at h ⊢
    rw [Plan.Grants, f.batchError_plan_eq_none_iff past h.1, ih _ h.2]

/-- Batches take away those of their keys that do not resist. -/
lemma find?_afterBatches (s : Session) (sent : List (List Key)) (k : Key) :
    (s.afterBatches f.plan sent).bucket.find? k =
      if k ∈ sent.flatten ∧ f.holds k = false then none else s.bucket.find? k := by
  have hgone (past : List Request) (keys : List Key) (k : Key) (_ : k ∈ keys) :
      (f.plan.batch past keys).removes k = !f.holds k := rfl
  rw [s.bucket_afterBatches f.plan hgone, Bucket.find?_eraseAll]
  simp

/-- Batches count those of their keys that resist. -/
lemma batchFailures_afterBatches (s : Session) (sent : List (List Key)) :
    (s.afterBatches f.plan sent).counters.batchFailures =
      s.counters.batchFailures + (sent.flatten.filter f.holds).length := by
  induction sent generalizing s with
  | nil => rfl
  | cons keys rest ih =>
    have hfirst : (s.afterBatch f.plan keys).counters.batchFailures =
        s.counters.batchFailures + (keys.filter f.holds).length :=
      congrArg (s.counters.batchFailures + ·) (f.failures_settle_answers s.trace keys)
    rw [Session.afterBatches, List.foldl_cons, ← Session.afterBatches, ih, hfirst,
      List.flatten_cons, List.filter_append, List.length_append, Nat.add_assoc]

end StuckKeys

namespace BulkDelete

/-- **A bulk deletion around keys that resist.** Take any bucket, any number `n`, which is brought
between 1 and 1000, and any keys that cannot be deleted, while nothing else fails. The batches are
those of a deletion without failures. As long as every batch holds a key that does not resist, all
are sent, and the number that is returned counts all keys below the given one that are not metadata,
also those that resisted; of these keys just those that did not resist are gone. But the first batch
whose keys all resist is the last that is sent, and its error is the refusal of its first key; then
just those keys of the batches before it are gone that did not resist. In either case all keys that
were sent and resisted are counted as failures.

**Proof sketch.** The listing does not break off, so that the deletion goes to its end or up to a
batch that fails. That is the first whose keys all resist, and what the batches take away and count
is known batch by batch. -/
theorem run_around_stuck_keys (f : StuckKeys) (s : Session) (base : Key) (n : ℕ) :
    let c := max 1 (min n 1000)
    let keys := s.bucket.keysBelow base
    let tiles := keys.filter fun k => !Layout.isMetadata k
    let batches := batchesOf (chunks c keys)
    let past := s.trace ++ [.list base]
    ∃ x s' sent, (run base (.clamp n)).runUnder f.plan s = (x, s') ∧
      s'.trace = past ++ sent.map .batch ∧
      ((∃ count, x = .ok count) ↔ ∀ batch ∈ sent, ∃ k ∈ batch, f.holds k = false) ∧
      (x = .ok tiles.length ∧ sent = batches ∧
          (∀ k, s'.bucket.find? k =
            if k ∈ tiles ∧ f.holds k = false then none else s.bucket.find? k) ∨
        ∃ earlier first rest later, batches = earlier ++ (first :: rest) :: later ∧
          sent = earlier ++ [first :: rest] ∧
          (∀ batch ∈ earlier, ∃ k ∈ batch, f.holds k = false) ∧
          (∀ k ∈ first :: rest, f.holds k = true) ∧
          x = .error (.backend "delete_batch" s!"{(first :: rest).length} keys"
            (.bucket (f.refusal (past ++ earlier.map .batch) first))) ∧
          ∀ k, s'.bucket.find? k =
            if k ∈ earlier.flatten ∧ f.holds k = false then none else s.bucket.find? k) ∧
      s'.bucket.clock = s.bucket.clock ∧
      s'.counters.batchFailures =
        s.counters.batchFailures + (sent.flatten.filter f.holds).length := by
  intro c keys tiles batches past
  obtain ⟨x, s', hswept, hrun⟩ := swept_run f.plan s base (.clamp n)
  have hclock : s'.bucket.clock = s.bucket.clock := hswept.thinned.clock_eq
  have htrace (sent : List (List Key)) :
      ((s.sent (.list base)).afterBatches f.plan sent).trace = past ++ sent.map .batch :=
    Session.trace_afterBatches ..
  cases hswept with
  | finished ended sent =>
    rw [batches_pages_entriesBelow] at sent
    cases sent with
    | all granted =>
      have hgood := (f.grants_iff _ fun _ => ne_nil_of_mem_batchesOf).1 granted
      have hflatten : batches.flatten = tiles := flatten_batchesOf_chunks (.clamp n) keys
      refine ⟨_, _, batches, hrun, htrace batches, ⟨fun _ => hgood, fun _ => ⟨_, rfl⟩⟩,
        .inl ⟨rfl, rfl, fun k => ?_⟩, hclock, f.batchFailures_afterBatches _ batches⟩
      rw [Session.bucket_counted, ← hflatten]
      exact f.find?_afterBatches _ batches k
  | brokenOff broken sent => cases broken
  | refused sent =>
    have hbatches : BulkDelete.batches (listedPages (.clamp n) (f.plan.listing s base)) = batches :=
      batches_pages_entriesBelow (.clamp n) s.bucket base
    rw [hbatches] at sent
    cases sent with
    | @refused earlier batch later error split granted failed =>
      have hne : ∀ keys ∈ earlier ++ batch :: later, keys ≠ [] := fun keys hmem =>
        ne_nil_of_mem_batchesOf (split ▸ hmem)
      have hearlier : ∀ keys ∈ earlier, ∃ k ∈ keys, f.holds k = false :=
        (f.grants_iff _ fun keys hmem => hne keys (List.mem_append_left _ hmem)).1 granted
      obtain ⟨first, rest, rfl⟩ := List.exists_cons_of_ne_nil (hne batch (by simp))
      rw [f.batchError_plan] at failed
      split_ifs at failed with hall
      have hstuck : ∀ k ∈ first :: rest, f.holds k = true := List.all_eq_true.1 hall
      obtain rfl := Option.some.inj failed
      refine ⟨_, _, earlier ++ [first :: rest], hrun, htrace _, ⟨nofun, fun hgood => ?_⟩,
        .inr ⟨earlier, first, rest, later, split, rfl, hearlier, hstuck, rfl, fun k => ?_⟩,
        hclock, f.batchFailures_afterBatches _ _⟩
      · obtain ⟨k, hk, hkeep⟩ := hgood (first :: rest) (by simp)
        rw [hstuck k hk] at hkeep
        cases hkeep
      · rw [f.find?_afterBatches, Session.bucket_sent]
        -- Of the last batch nothing is gone.
        have hlast : k ∈ first :: rest → f.holds k ≠ false := fun hk => by simp [hstuck k hk]
        have hmem : k ∈ (earlier ++ [first :: rest]).flatten ↔
            k ∈ earlier.flatten ∨ k ∈ first :: rest := by
          rw [List.flatten_append, List.mem_append, List.flatten_singleton]
        have hiff : k ∈ (earlier ++ [first :: rest]).flatten ∧ f.holds k = false ↔
            k ∈ earlier.flatten ∧ f.holds k = false := by
          rw [hmem]
          tauto
        simp only [hiff]

/-- A key that resists is passed over in a batch of two, and ends the deletion in one of its own. -/
theorem run_around_one_stuck_key :
    let first := Key.ofText "a/1.png"
    let second := Key.ofText "a/2.png"
    let s : Session :=
      { bucket := (({} : Bucket).put first [1] "image/png").put second [2] "image/png" }
    let f : StuckKeys := ⟨fun k => k = first, fun _ k => .denied k.text "403", fun _ _ => rfl⟩
    (∃ s', (run (Key.ofText "a") (.clamp 2)).runUnder f.plan s = (.ok 2, s') ∧
      s'.bucket.find? first = s.bucket.find? first ∧ s'.bucket.find? second = none ∧
      s'.counters.batchFailures = 1) ∧
    ∃ s', (run (Key.ofText "a") (.clamp 1)).runUnder f.plan s =
        (.error (.backend "delete_batch" "1 keys" (.bucket (.denied "a/1.png" "403"))), s') ∧
      s'.bucket.find? second = s.bucket.find? second ∧ s'.counters.batchFailures = 1 := by
  intro first second s f
  have hkeys : s.bucket.keysBelow (Key.ofText "a") = [first, second] := by decide +kernel
  refine ⟨?_, ?_⟩
  · obtain ⟨x, s', sent, hrun, -, -, houtcome, -, hcount⟩ :=
      run_around_stuck_keys f s (Key.ofText "a") 2
    rw [hkeys] at houtcome
    have hbatches : batchesOf (chunks (max 1 (min 2 1000)) [first, second]) =
        [[first, second]] := by
      decide +kernel
    rw [hbatches] at houtcome
    rcases houtcome with ⟨rfl, rfl, hgone⟩ | ⟨earlier, k, rest, later, hsplit, -, -, hstuck, -⟩
    · refine ⟨s', hrun, ?_, ?_, ?_⟩
      · rw [hgone, if_neg (by decide +kernel)]
      · rw [hgone, if_pos (by decide +kernel)]
      · rw [hcount]
        decide +kernel
    · obtain ⟨-, hlast⟩ | ⟨-, hnone⟩ := List.append_eq_singleton_iff.1 hsplit.symm
      · rw [(List.cons.inj hlast).1] at hstuck
        exact absurd (hstuck second (by simp)) (by decide +kernel)
      · cases hnone
  · obtain ⟨x, s', sent, hrun, -, hok, houtcome, -, hcount⟩ :=
      run_around_stuck_keys f s (Key.ofText "a") 1
    rw [hkeys] at houtcome
    have hbatches : batchesOf (chunks (max 1 (min 1 1000)) [first, second]) =
        [[first], [second]] := by
      decide +kernel
    rw [hbatches] at houtcome
    rcases houtcome with
      ⟨rfl, rfl, -⟩ | ⟨earlier, k, rest, later, hsplit, rfl, hpassed, -, hfailed, hgone⟩
    · obtain ⟨k, hk, hfree⟩ := hok.1 ⟨_, rfl⟩ [first] (by simp)
      obtain rfl := List.mem_singleton.1 hk
      exact absurd hfree (by decide +kernel)
    · cases earlier with
      | nil =>
        cases hsplit
        have herror : x = .error
            (.backend "delete_batch" "1 keys" (.bucket (.denied "a/1.png" "403"))) := by
          rw [hfailed]
          exact congrArg Except.error (by decide +kernel)
        refine ⟨s', by rw [hrun, herror], ?_, ?_⟩
        · rw [hgone, if_neg (by simp)]
        · rw [hcount]
          decide +kernel
      | cons batch earlier =>
        obtain ⟨k', hk', hfree⟩ := hpassed batch List.mem_cons_self
        obtain rfl : [first] = batch := (List.cons.inj hsplit).1
        obtain rfl := List.mem_singleton.1 hk'
        exact absurd hfree (by decide +kernel)

end BulkDelete

end TileCache
