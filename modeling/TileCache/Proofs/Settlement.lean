import TileCache.Proofs.Requests
set_option autoImplicit false

/-!
# What the answers to a batch amount to

A batch is answered key by key, and the answers are folded into one outcome. Every key that is
deleted or missing counts as gone; every other answer is a refusal. The batch succeeds just if all
keys are answered and one of them is gone, which does not depend on the order of the answers. What
does depend on it is the cause of a failure, the refusal that came first. Refusals are counted
whatever the outcome.

## Main definitions

* `TileCache.Backend.isGone` — whether an answer says that its key is gone.
* `TileCache.Backend.batchCause` — the cause of a failed batch.

## Main results

* `TileCache.Backend.length_refusals` — how many answers are refusals.
* `TileCache.Backend.exists_of_refusals_eq_cons` — which refusal comes first.
* `TileCache.Backend.error_settle` — the outcome of a batch.
* `TileCache.Backend.settle_exact` — the outcome, its cause and the count of failures.
-/

namespace TileCache.Backend

variable {submitted : ℕ} {answers : List (Option BucketError)}

/-- Whether an answer says that its key is gone: deleted, or not there to be deleted. -/
def isGone : Option BucketError → Bool
  | none => true
  | some error => error.isNotFound

/-! ## Refusals -/

/-- An answer counts as a refusal just if its key is not gone. -/
lemma filter_eq_some_iff {answer : Option BucketError} {error : BucketError} :
    answer.filter (fun error => !error.isNotFound) = some error ↔
      answer = some error ∧ error.isNotFound = false := by
  rw [Option.filter_eq_some_iff, Bool.not_eq_true']

/-- An answer by which its key is gone is none. -/
lemma filter_eq_none_iff {answer : Option BucketError} :
    answer.filter (fun error => !error.isNotFound) = none ↔ isGone answer = true := by
  cases answer <;> simp [isGone]

/-- **The refusals are the answers by which a key is not gone.** -/
lemma length_refusals (answers : List (Option BucketError)) :
    (refusals answers).length = answers.countP fun answer => !isGone answer := by
  rw [refusals, List.length_filterMap_eq_countP]
  refine List.countP_congr fun answer _ => ?_
  rw [Option.isSome_iff_ne_none, Ne, filter_eq_none_iff, Bool.not_eq_true, Bool.not_eq_true']

/-- There is no refusal just if all keys are gone. -/
lemma refusals_eq_nil_iff : refusals answers = [] ↔ ∀ answer ∈ answers, isGone answer = true := by
  simp only [refusals, List.filterMap_eq_nil_iff, filter_eq_none_iff]

/-- The first refusal is the first answer by which a key is not gone. -/
lemma exists_of_refusals_eq_cons {error : BucketError} {later : List BucketError}
    (h : refusals answers = error :: later) :
    ∃ before after, answers = before ++ some error :: after ∧
      (∀ answer ∈ before, isGone answer = true) ∧ error.isNotFound = false := by
  obtain ⟨before, answer, after, hsplit, hbefore, hanswer, -⟩ := List.filterMap_eq_cons_iff.1 h
  obtain ⟨rfl, hrefused⟩ := filter_eq_some_iff.1 hanswer
  exact ⟨before, after, hsplit, fun a ha => filter_eq_none_iff.1 (hbefore a ha), hrefused⟩

/-- All answers are refusals just if no key is gone. -/
lemma length_refusals_eq_iff :
    (refusals answers).length = answers.length ↔ ¬∃ answer ∈ answers, isGone answer = true := by
  rw [length_refusals, List.countP_eq_length]
  simp

/-! ## The outcome -/

/-- The cause of a failed batch: the first refusal, or else that answers are missing. -/
def batchCause (submitted : ℕ) (answers : List (Option BucketError)) : BackendCause :=
  match refusals answers with
  | error :: _ => .bucket error
  | [] => .shortReply answers.length submitted

/-- **The outcome of a batch** that holds a key and is answered for no more keys than it holds: it
succeeds just if all of them are answered and one of them is gone.

**Proof sketch.** If answers are missing, the batch fails, whatever they say. If none is missing,
it fails just if all of them are refusals, and as there is an answer, there is a first refusal. -/
lemma error_settle (hpos : 0 < submitted) (hle : answers.length ≤ submitted) :
    (settle submitted answers).error =
      if answers.length = submitted ∧ ∃ answer ∈ answers, isGone answer = true then none
      else some (.backend "delete_batch" s!"{submitted} keys" (batchCause submitted answers)) := by
  rcases Nat.lt_or_eq_of_le hle with hshort | rfl
  · -- answers are missing, so that no more than the cause depends on the others
    rw [if_neg fun h => Nat.ne_of_lt hshort h.1, batchCause]
    simp only [settle, if_pos hshort]
    cases refusals answers <;> rfl
  · have hiff : (refusals answers).length = answers.length ↔ _ := length_refusals_eq_iff
    simp only [settle, Nat.lt_irrefl, if_false, true_and, batchCause]
    cases hfailed : refusals answers with
    | nil =>
      have hsome : ∃ answer ∈ answers, isGone answer = true := by
        by_contra hnone
        rw [hfailed] at hiff
        exact Nat.ne_of_lt hpos (hiff.2 hnone)
      rw [if_pos hsome]
    | cons first later =>
      rw [hfailed] at hiff
      dsimp only
      by_cases hsome : ∃ answer ∈ answers, isGone answer = true
      · rw [if_pos hsome, if_neg fun h => hiff.1 h hsome]
      · rw [if_neg hsome, if_pos (hiff.2 hsome)]

/-- A batch succeeds just if all of its keys are answered and one of them is gone. -/
lemma error_settle_eq_none_iff (hpos : 0 < submitted) (hle : answers.length ≤ submitted) :
    (settle submitted answers).error = none ↔
      answers.length = submitted ∧ ∃ answer ∈ answers, isGone answer = true := by
  rw [error_settle hpos hle]
  split_ifs with h <;> simp [h]

/-- The cause of a failed batch is the refusal that comes first, or, if there is none, the number of
answers that came. -/
lemma batchCause_cases (submitted : ℕ) (answers : List (Option BucketError)) :
    (∃ before error after, answers = before ++ some error :: after ∧
        (∀ answer ∈ before, isGone answer = true) ∧ error.isNotFound = false ∧
        batchCause submitted answers = .bucket error) ∨
      (∀ answer ∈ answers, isGone answer = true) ∧
        batchCause submitted answers = .shortReply answers.length submitted := by
  unfold batchCause
  cases hfailed : refusals answers with
  | nil => exact .inr ⟨refusals_eq_nil_iff.1 hfailed, rfl⟩
  | cons error later =>
    obtain ⟨before, after, hsplit, hbefore, hrefused⟩ := exists_of_refusals_eq_cons hfailed
    exact .inl ⟨before, error, after, hsplit, hbefore, hrefused, rfl⟩

/-- **What the answers to a batch amount to.** Let a batch hold `submitted` keys, at least one, and
let no more answers come than that.

* It succeeds just if as many answers come as there are keys and one of the keys is gone.
* If it fails, the error names the deletion of so many keys, and its cause is the first refusal in
  the order of the answers, or, if there is none, a text that says how many answers came.
* The failures are the refusals, and these are what the counter of failures grows by, whether the
  batch succeeds or not, and whatever it removes.
* In any other order the same answers have the same outcome.

**Proof sketch.** The outcome is given by the number of answers and by whether one of them says that
its key is gone (`error_settle`), and neither depends on the order. -/
theorem settle_exact (hpos : 0 < submitted) (hle : answers.length ≤ submitted) :
    ((settle submitted answers).error = none ↔
      answers.length = submitted ∧ ∃ answer ∈ answers, isGone answer = true) ∧
    (∀ error, (settle submitted answers).error = some error →
      ∃ cause, error = .backend "delete_batch" s!"{submitted} keys" cause ∧
        ((∃ before refusal after, answers = before ++ some refusal :: after ∧
            (∀ answer ∈ before, isGone answer = true) ∧ refusal.isNotFound = false ∧
            cause = .bucket refusal) ∨
          (∀ answer ∈ answers, isGone answer = true) ∧
            cause = .shortReply answers.length submitted ∧
            cause.message = s!"{answers.length} results for {submitted} keys")) ∧
    (settle submitted answers).failures = answers.countP (fun answer => !isGone answer) ∧
    (∀ answers', answers'.Perm answers →
      ((settle submitted answers').error = none ↔ (settle submitted answers).error = none)) ∧
    ∀ (p : Plan) (s : Session) (keys : List Key), keys.length = submitted →
      (p.batch s.trace keys).answers = answers →
      ∃ s', (deleteBatch keys).runUnder p s =
          (match (settle submitted answers).error with
            | some error => .error error
            | none => .ok (), s') ∧
        s'.counters = { s.counters with
          batchFailures := s.counters.batchFailures +
            answers.countP fun answer => !isGone answer } := by
  refine ⟨error_settle_eq_none_iff hpos hle, fun error herror => ?_, length_refusals answers,
    fun answers' hperm => ?_, ?_⟩
  · rw [error_settle hpos hle] at herror
    split_ifs at herror
    obtain rfl := Option.some_inj.1 herror
    refine ⟨_, rfl, ?_⟩
    rcases batchCause_cases submitted answers with hfirst | ⟨hgone, hcause⟩
    · exact .inl hfirst
    · refine .inr ⟨hgone, hcause, ?_⟩
      rw [hcause]
      rfl
  · have hle' : answers'.length ≤ submitted := hperm.length_eq ▸ hle
    rw [error_settle_eq_none_iff hpos hle', error_settle_eq_none_iff hpos hle, hperm.length_eq]
    simp only [hperm.mem_iff]
  · rintro p s keys rfl rfl
    have hkeys : keys ≠ [] := List.ne_nil_of_length_pos hpos
    refine ⟨s.afterBatch p keys, runUnder_deleteBatch hkeys, ?_⟩
    rw [← length_refusals]
    rfl

/-- One of three keys is not answered for, and one is refused: the batch fails for the refusal,
although it is not the first answer. Had the third key been answered for, it would have succeeded. -/
theorem settle_denied_of_three :
    let missing := some (BucketError.notFound "gwc/a.png" "no such key")
    let denied := BucketError.denied "gwc/b.png" "403"
    (settle 3 [missing, some denied]).failures = 1 ∧
      (settle 3 [missing, some denied]).error =
        some (.backend "delete_batch" "3 keys" (.bucket denied)) ∧
      (settle 3 [some denied, missing]).error ≠ none ∧
      (settle 3 [missing, some denied, none]).error = none := by
  intro missing denied
  obtain ⟨hshort, -, hcount, horder, -⟩ :=
    settle_exact (by decide : 0 < 3) (by decide : [missing, some denied].length ≤ 3)
  obtain ⟨hfull, -⟩ :=
    settle_exact (by decide : 0 < 3) (by decide : [missing, some denied, none].length ≤ 3)
  refine ⟨hcount, rfl, ?_, hfull.2 ⟨rfl, none, by simp, rfl⟩⟩
  rw [Ne, horder _ (List.Perm.swap missing (some denied) []), hshort]
  exact fun h => absurd h.1 (by decide)

end TileCache.Backend
