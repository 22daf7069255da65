import TileCache.Proofs.BulkDelete
set_option autoImplicit false

/-!
# A bulk deletion in the order of time

A listing comes entry by entry, and a batch goes out as soon as a page is full. Here the entries,
the batches and the error with which a listing may break off are put into the order in which they
come if nothing else fails. A bulk deletion goes along that order up to the first thing that fails,
returns its error, and requests nothing more. A page that is not full when the listing breaks off
makes no batch, so what was listed of it stays.

## Main definitions

* `TileCache.BulkDelete.batchesOf` — the batches that chunks of keys make.
* `TileCache.BulkDelete.Moment`, `timeline` — what comes in the course of a deletion, in order.
* `TileCache.BulkDelete.filled` — the pages that a listing fills before it breaks off or ends.
* `TileCache.BulkDelete.Course` — how far one gets along moments of which some fail.

## Main results

* `TileCache.BulkDelete.submitted_timeline` — the batches among the moments.
* `TileCache.BulkDelete.mem_of_mem_submitted` — a key is listed before it is sent in a batch.
* `TileCache.BulkDelete.Swept.course` — a bulk deletion goes along its timeline.
* `TileCache.BulkDelete.run_stops_at_first_failure` — what it submits and returns, whatever fails.
-/

namespace TileCache.BulkDelete

open RequestM

variable {p : Plan} {s s' : Session} {base : Key} {size : BatchSize} {past : List Request}

/-! ## Batches of chunks -/

/-- The batches that chunks of keys make: of each chunk the keys that are not metadata, unless there
are none. -/
def batchesOf (chunks : List (List Key)) : List (List Key) :=
  (chunks.map (List.filter fun k => !Layout.isMetadata k)).filter (· ≠ [])

/-- The batch of one chunk comes before those of the others. -/
lemma batchesOf_cons (chunk : List Key) (rest : List (List Key)) :
    batchesOf (chunk :: rest) = batchesOf [chunk] ++ batchesOf rest := by
  rw [batchesOf, batchesOf, batchesOf, ← List.filter_append]
  rfl

/-- The first chunks make the first batches. -/
lemma prefix_batchesOf {chunks chunks' : List (List Key)} (h : chunks <+: chunks') :
    batchesOf chunks <+: batchesOf chunks' :=
  (h.map _).filter _

/-- The keys of the batches are those of the chunks that are not metadata. -/
lemma flatten_batchesOf (chunks : List (List Key)) :
    (batchesOf chunks).flatten = chunks.flatten.filter fun k => !Layout.isMetadata k := by
  have hempty : (fun keys : List Key => decide (keys ≠ [])) = fun keys => !keys.isEmpty := by
    funext keys
    cases keys <;> rfl
  rw [batchesOf, hempty, List.flatten_filter_not_isEmpty, List.filter_flatten]

/-- The keys of all batches are those that are not metadata. -/
lemma flatten_batchesOf_chunks (size : BatchSize) (keys : List Key) :
    (batchesOf (chunks size.val keys)).flatten = keys.filter fun k => !Layout.isMetadata k := by
  rw [flatten_batchesOf, ← pages_eq_chunks, flatten_pages]

/-- No batch is empty. -/
lemma ne_nil_of_mem_batchesOf {chunks : List (List Key)} {batch : List Key}
    (h : batch ∈ batchesOf chunks) : batch ≠ [] := by
  simpa using (List.mem_filter.1 h).2

/-- The batches that pages make are those of the keys on the pages. -/
lemma batches_eq (pages : List (List Entry)) :
    batches pages = batchesOf (pages.map (List.map (·.key))) := by
  rw [batches, batchesOf, List.map_map]
  congr 1
  funext keys
  cases keys <;> simp

/-- The batches of what is below a key are those of the chunks of its keys. -/
lemma batches_pages_entriesBelow (size : BatchSize) (b : Bucket) (base : Key) :
    batches (pages size (b.entriesBelow base)) = batchesOf (chunks size.val (b.keysBelow base)) := by
  rw [batches_eq, pages_eq_chunks, ← chunks_map, Bucket.map_key_entriesBelow]

/-! ## The order of time -/

/-- What comes in the course of a bulk deletion. -/
inductive Moment
  /-- The listing yields an entry with this key. -/
  | listed (key : Key)
  /-- A batch is sent. -/
  | batch (keys : List Key)
  /-- The listing breaks off. -/
  | breakOff (error : StorageError)
  deriving DecidableEq

namespace Moment

/-- The batch that is sent at a moment. -/
def batch? : Moment → Option (List Key)
  | batch keys => some keys
  | _ => none

/-- The key of the entry that the listing yields at a moment. -/
def listed? : Moment → Option Key
  | listed key => some key
  | _ => none

/-- The error of a moment that comes after the requests in `past`, if something fails then. -/
def error (p : Plan) (past : List Request) : Moment → Option StorageError
  | listed _ => none
  | batch keys => p.batchError past keys
  | breakOff error => some error

end Moment

/-- The batches that are sent in the course of some moments. -/
def submitted (moments : List Moment) : List (List Key) :=
  moments.filterMap Moment.batch?

/-- The keys that are listed in the course of some moments. -/
def listedIn (moments : List Moment) : List Key :=
  moments.filterMap Moment.listed?

/-- The moments of pages that are ready: one batch for each that makes one. -/
def ready (pages : List (List Key)) : List Moment :=
  (batchesOf pages).map .batch

/-- The course of a bulk deletion whose listing goes on with `keys` when its last page holds `page`,
and then breaks off with an error or ends. A page is ready when it holds `n` keys, or when the
listing ends. -/
def timeline (n : ℕ) (failure : Option StorageError) (page : List Key) : List Key → List Moment
  | [] => failure.elim (ready [page]) fun error => [.breakOff error]
  | key :: rest =>
    .listed key ::
      if page.length + 1 < n then timeline n failure (page ++ [key]) rest
      else ready [page ++ [key]] ++ timeline n failure [] rest

/-! ### Batches among the moments -/

/-- The pages that a listing of some keys fills before it breaks off or ends: all chunks of the keys,
or the full ones. -/
def filled (n : ℕ) (failure : Option StorageError) (keys : List Key) : List (List Key) :=
  failure.elim (chunks n keys) fun _ => (chunks n keys).take (keys.length / n)

/-- A listing that fills a page goes on with the next. -/
lemma filled_append {n : ℕ} (hn : 0 < n) {page : List Key} (hfull : page.length = n)
    (failure : Option StorageError) (keys : List Key) :
    filled n failure (page ++ keys) = page :: filled n failure keys := by
  have hpage : page ++ keys ≠ [] := by
    rw [Ne, List.append_eq_nil_iff, ← List.length_eq_zero_iff]
    omega
  have hchunks : chunks n (page ++ keys) = page :: chunks n keys := by
    rw [chunks_of_ne_nil hn hpage, ← hfull, List.take_left, List.drop_left]
  cases failure with
  | none => exact hchunks
  | some error =>
    have hcount : (page ++ keys).length / n = keys.length / n + 1 := by
      rw [List.length_append, hfull, Nat.add_div_left _ hn]
    simp only [filled, Option.elim_some, hchunks, hcount, List.take_succ_cons]

/-- A listing that ends before its first page is full has one page, unless it is empty. -/
lemma batchesOf_filled_of_lt {n : ℕ} {page : List Key} (h : page.length < n) :
    batchesOf (filled n none page) = batchesOf [page] := by
  have hnil : chunks n ([] : List Key) = [] := by
    simp [chunks, Nat.div_eq_of_lt (Nat.sub_lt (Nat.zero_lt_of_lt h) Nat.one_pos)]
  rw [filled, Option.elim_none]
  by_cases hpage : page = []
  · rw [hpage, hnil]
    rfl
  · rw [chunks_of_ne_nil (Nat.zero_lt_of_lt h) hpage, List.take_of_length_le h.le,
      List.drop_of_length_le h.le, hnil]

/-- What is sent in two stretches. -/
lemma submitted_append (moments moments' : List Moment) :
    submitted (moments ++ moments') = submitted moments ++ submitted moments' :=
  List.filterMap_append ..

/-- Of pages that are ready all batches are sent. -/
lemma submitted_ready (pages : List (List Key)) : submitted (ready pages) = batchesOf pages := by
  rw [submitted, ready, List.filterMap_map]
  exact List.filterMap_some

/-- **The batches among the moments** are those of the pages that the listing fills before it breaks
off or ends.

**Proof sketch.** Induction on what is still to be listed. If the page has room for one key more, it
goes on with that key; if not, the page with that key is the first chunk, and the chunks behind it
are those of the other keys. -/
lemma submitted_timeline {n : ℕ} (failure : Option StorageError) (keys : List Key)
    {page : List Key} (h : page.length < n) :
    submitted (timeline n failure page keys) = batchesOf (filled n failure (page ++ keys)) := by
  have hn : 0 < n := Nat.zero_lt_of_lt h
  induction keys generalizing page with
  | nil =>
    rw [timeline, List.append_nil]
    cases failure with
    | none => rw [Option.elim_none, submitted_ready, batchesOf_filled_of_lt h]
    | some error =>
      rw [filled, Option.elim_some, Option.elim_some, Nat.div_eq_of_lt h]
      rfl
  | cons key rest ih =>
    rw [timeline, List.append_cons page key rest]
    split_ifs with hroom
    · exact ih (by simpa using hroom)
    · have hfull : (page ++ [key]).length = n := by
        rw [List.length_append, List.length_singleton]
        omega
      have hfirst : submitted (.listed key :: (ready [page ++ [key]] ++ timeline n failure [] rest)) =
          batchesOf [page ++ [key]] ++ submitted (timeline n failure [] rest) := by
        rw [← submitted_ready, ← submitted_append]
        rfl
      have hempty : ([] : List Key).length < n := hn
      rw [hfirst, ih hempty, filled_append hn hfull, List.nil_append, ← batchesOf_cons]

/-! ### Entries among the moments -/

/-- What is listed in two stretches. -/
lemma listedIn_append (moments moments' : List Moment) :
    listedIn (moments ++ moments') = listedIn moments ++ listedIn moments' :=
  List.filterMap_append ..

/-- Nothing is listed while pages that are ready are sent. -/
lemma listedIn_ready (pages : List (List Key)) : listedIn (ready pages) = [] := by
  simp [listedIn, ready, Moment.listed?]

/-- The listing yields its keys in order. -/
lemma listedIn_timeline (n : ℕ) (failure : Option StorageError) (page keys : List Key) :
    listedIn (timeline n failure page keys) = keys := by
  induction keys generalizing page with
  | nil =>
    cases failure with
    | none => exact listedIn_ready [page]
    | some error => rfl
  | cons key rest ih =>
    have hcons (moments : List Moment) :
        listedIn (.listed key :: moments) = key :: listedIn moments := rfl
    rw [timeline, hcons]
    split_ifs with hroom
    · rw [ih]
    · rw [listedIn_append, listedIn_ready, List.nil_append, ih]

/-- What is sent of a page that is ready was on the page. -/
lemma mem_of_mem_submitted_ready {page : List Key} {k : Key} {before after : List Moment}
    (h : ready [page] = before ++ after) (hk : k ∈ (submitted before).flatten) : k ∈ page := by
  have hmem : k ∈ (batchesOf [page]).flatten := by
    rw [← submitted_ready, h, submitted_append, List.flatten_append]
    exact List.mem_append_left _ hk
  rw [flatten_batchesOf] at hmem
  simpa using (List.mem_filter.1 hmem).1

/-- **At any time only keys that have been listed were sent in a batch.**

**Proof sketch.** Induction on what is still to be listed, for any page. The time comes before the
next entry, or on the page that this entry goes to, or behind that page. -/
lemma mem_of_mem_submitted {n : ℕ} {failure : Option StorageError} {page keys : List Key} {k : Key}
    {before after : List Moment} (hsplit : timeline n failure page keys = before ++ after)
    (hk : k ∈ (submitted before).flatten) : k ∈ page ++ listedIn before := by
  induction keys generalizing page before with
  | nil =>
    cases failure with
    | none => exact List.mem_append_left _ (mem_of_mem_submitted_ready hsplit hk)
    | some error =>
      have hnone : [] = submitted before ++ submitted after := by
        rw [← submitted_append, ← hsplit]
        rfl
      rw [(List.append_eq_nil_iff.1 hnone.symm).1] at hk
      cases hk
  | cons key rest ih =>
    rcases List.cons_eq_append_iff.1 hsplit with ⟨rfl, -⟩ | ⟨later, rfl, hrest⟩
    · cases hk
    · have hcons : listedIn (.listed key :: later) = key :: listedIn later := rfl
      rw [hcons, List.append_cons page key]
      have hk : k ∈ (submitted later).flatten := hk
      split_ifs at hrest with hroom
      · exact ih hrest hk
      · rcases List.append_eq_append_iff.1 hrest with ⟨behind, rfl, hbehind⟩ | ⟨_, hlater, -⟩
        · rw [submitted_append, List.flatten_append, submitted_ready, flatten_batchesOf] at hk
          rw [listedIn_append, listedIn_ready, List.nil_append]
          rcases List.mem_append.1 hk with hk | hk
          · exact List.mem_append_left _ (by simpa using (List.mem_filter.1 hk).1)
          · exact List.mem_append_right _ (ih hbehind hk)
        · exact List.mem_append_left _ (mem_of_mem_submitted_ready hlater hk)

/-! ### Where a listing ends or breaks off -/

/-- The batches of a listing are those among its moments. -/
lemma batches_listedPages (size : BatchSize) (l : Listing) :
    batches (listedPages size l) =
      submitted (timeline size.val l.failure [] (l.entries.map (·.key))) := by
  rw [submitted_timeline _ _ size.pos, List.nil_append, batches_eq]
  congr 1
  unfold listedPages filled
  cases l.failure with
  | none => rw [pages_eq_chunks, Option.elim_none, chunks_map]
  | some error =>
    simp only [Option.elim_some]
    rw [fullPages_eq, chunks_map, List.map_take, List.length_map]

/-- The error of the listing comes last, and only if it breaks off. -/
lemma exists_timeline_eq (n : ℕ) (failure : Option StorageError) (page keys : List Key) :
    ∃ before, timeline n failure page keys = before ++ (failure.map Moment.breakOff).toList ∧
      ∀ error, .breakOff error ∉ before := by
  have hready (page : List Key) (error : StorageError) : .breakOff error ∉ ready [page] := by
    simp [ready]
  induction keys generalizing page with
  | nil =>
    cases failure with
    | none => exact ⟨ready [page], by simp [timeline], hready page⟩
    | some error => exact ⟨[], by simp [timeline], by simp⟩
  | cons key rest ih =>
    rw [timeline]
    split_ifs with hroom
    · obtain ⟨before, heq, hnot⟩ := ih (page ++ [key])
      exact ⟨.listed key :: before, by rw [heq, List.cons_append], by simpa using hnot⟩
    · obtain ⟨before, heq, hnot⟩ := ih []
      refine ⟨.listed key :: (ready [page ++ [key]] ++ before), by simp [heq], ?_⟩
      simpa [not_or] using fun error => ⟨hready _ error, hnot error⟩

/-! ## The first failure -/

/-- Nothing fails in the course of moments that come after the requests in `past`: the listing does
not break off, and no batch fails. -/
def Passes (p : Plan) (past : List Request) (moments : List Moment) : Prop :=
  (∀ error, .breakOff error ∉ moments) ∧ p.Grants past (submitted moments)

/-- How far one gets along moments that come after the requests in `past`: to the end if nothing
fails, and otherwise up to the first moment that fails, whose error it is. -/
inductive Course (p : Plan) (past : List Request) (moments : List Moment) :
    List Moment → Option StorageError → Prop
  | through (passed : Passes p past moments) : Course p past moments moments none
  | stopped {before after : List Moment} {moment : Moment} {error : StorageError}
      (split : moments = before ++ moment :: after) (passed : Passes p past before)
      (failed : moment.error p (past ++ (submitted before).map .batch) = some error) :
      Course p past moments (before ++ [moment]) (some error)

/-- Batches in two stretches do not fail just if those of either do not. -/
lemma grants_append (p : Plan) (past : List Request) (sent rest : List (List Key)) :
    p.Grants past (sent ++ rest) ↔
      p.Grants past sent ∧ p.Grants (past ++ sent.map .batch) rest := by
  induction sent generalizing past with
  | nil => simp [Plan.Grants]
  | cons keys sent ih => simp [Plan.Grants, ih, and_assoc]

/-- If none of some batches fails, nor does any of the first of them. -/
lemma grants_of_initial {sent batches : List (List Key)} (h : p.Grants past batches)
    (hfirst : sent <+: batches) : p.Grants past sent := by
  obtain ⟨rest, rfl⟩ := hfirst
  exact ((grants_append p past sent rest).1 h).1

namespace Course

variable {moments done : List Moment} {error? : Option StorageError}

/-- One gets along the first moments. -/
lemma prefix_moments (h : Course p past moments done error?) : done <+: moments := by
  cases h with
  | through passed => exact List.prefix_rfl
  | @stopped before after moment error split passed failed => exact ⟨after, by simp [split]⟩

/-- The batches that are sent are the first among the moments. -/
lemma prefix_submitted (h : Course p past moments done error?) :
    submitted done <+: submitted moments :=
  h.prefix_moments.filterMap _

/-- A moment that fails sends a batch that fails, or the listing breaks off. -/
lemma not_passes_of_error {before : List Moment} {moment : Moment} {error : StorageError}
    (failed : moment.error p (past ++ (submitted before).map .batch) = some error)
    (hquiet : moment ≠ .breakOff error) : ¬p.Grants past (submitted (before ++ [moment])) := by
  intro hgrants
  cases moment with
  | listed key => cases failed
  | breakOff error' =>
    cases failed
    exact hquiet rfl
  | batch keys =>
    rw [submitted_append, grants_append] at hgrants
    rw [Moment.error, hgrants.2.1] at failed
    cases failed

/-- **One gets to the end just if nothing fails** of what one gets along. -/
lemma eq_none_iff (h : Course p past moments done error?) :
    error? = none ↔ (∀ error, .breakOff error ∉ moments) ∧ p.Grants past (submitted done) := by
  cases h with
  | through passed => exact ⟨fun _ => passed, fun _ => rfl⟩
  | @stopped before after moment error split passed failed =>
    refine ⟨nofun, fun ⟨hnot, hgrants⟩ => absurd hgrants (not_passes_of_error failed ?_)⟩
    rintro rfl
    exact hnot error (by simp [split])

/-- **If no batch fails, one gets to where the listing breaks off.** -/
lemma of_grants {before : List Moment} {error : StorageError} (h : Course p past moments done error?)
    (hmoments : moments = before ++ [.breakOff error]) (hbefore : ∀ error, .breakOff error ∉ before)
    (hgrants : p.Grants past (submitted before)) : done = moments ∧ error? = some error := by
  cases h with
  | through passed => exact absurd (by simp [hmoments]) (passed.1 error)
  | @stopped before' after moment error' split passed failed =>
    rw [hmoments] at split ⊢
    rcases List.eq_nil_or_concat after with rfl | ⟨after, last, rfl⟩
    · obtain ⟨rfl, hlast⟩ := List.append_inj' split rfl
      obtain rfl : Moment.breakOff error = moment := (List.cons.inj hlast).1
      exact ⟨rfl, failed.symm⟩
    · -- A batch before the end would have failed.
      have hconcat : before ++ [.breakOff error] = (before' ++ moment :: after) ++ [last] := by
        rw [split]
        simp
      have hsplit : before = before' ++ moment :: after := (List.append_inj' hconcat rfl).1
      have hfirst : p.Grants past (submitted (before' ++ [moment])) :=
        grants_of_initial hgrants ⟨submitted after, by
          rw [hsplit, ← submitted_append, List.append_assoc, List.singleton_append]⟩
      refine absurd hfirst (not_passes_of_error failed ?_)
      rintro rfl
      exact hbefore error' (by simp [hsplit])

end Course

/-! ## Bulk deletions -/

/-- What comes in the course of a bulk deletion below a key. -/
def moments (p : Plan) (s : Session) (base : Key) (size : BatchSize) : List Moment :=
  timeline size.val (p.listing s base).failure [] ((p.listing s base).entries.map (·.key))

/-- Some batches are among moments only as far as one batch is at one of them. -/
lemma exists_of_submitted_eq {before : List Moment} {sent rest : List (List Key)} {keys : List Key}
    (h : submitted before = sent ++ keys :: rest) :
    ∃ before' after, before = before' ++ .batch keys :: after ∧ submitted before' = sent := by
  obtain ⟨first, last, rfl, hfirst, hlast⟩ := List.filterMap_eq_append_iff.1 h
  obtain ⟨quiet, moment, after, rfl, hquiet, hmoment, -⟩ := List.filterMap_eq_cons_iff.1 hlast
  obtain rfl : moment = .batch keys := by
    cases moment <;> cases hmoment
    rfl
  refine ⟨first ++ quiet, after, by simp, ?_⟩
  rw [submitted_append, submitted, submitted, hfirst, List.filterMap_eq_nil_iff.2 hquiet,
    List.append_nil]

/-- **A bulk deletion goes along its moments up to the first that fails**, returns the error of that
moment, and has then sent the batches among the moments it went along. -/
lemma Swept.course {x : Except StorageError ℕ} (h : Swept p s base size x s') :
    ∃ done error?, Course p (s.trace ++ [.list base]) (moments p s base size) done error? ∧
      x = error?.elim (.ok (s.bucket.tileKeys base).length) .error ∧
      s'.bucket = ((s.sent (.list base)).afterBatches p (submitted done)).bucket ∧
      s'.trace = s.trace ++ .list base :: (submitted done).map .batch := by
  have htrace (sent : List (List Key)) : ((s.sent (.list base)).afterBatches p sent).trace =
      s.trace ++ .list base :: sent.map .batch := by
    rw [Session.trace_afterBatches]
    simp [Session.sent]
  obtain ⟨before, hmoments, hbefore⟩ := exists_timeline_eq size.val (p.listing s base).failure []
    ((p.listing s base).entries.map (·.key))
  have hbatches : batches (listedPages size (p.listing s base)) = submitted before := by
    rw [batches_listedPages, hmoments, submitted_append]
    cases (p.listing s base).failure <;> simp [submitted, Moment.batch?]
  rw [← moments] at hmoments
  cases h with
  | @finished s' ended sent =>
    have hlisting : p.listing s base = ⟨s.bucket.entriesBelow base, none⟩ := by
      simp only [Plan.listing, ended]
    simp only [hlisting, listedPages, Option.map_none, Option.toList_none, List.append_nil]
      at hbatches hmoments
    rw [hbatches] at sent
    cases sent with
    | all granted =>
      refine ⟨before, none, ?_, rfl, rfl, htrace _⟩
      rw [hmoments]
      exact .through ⟨hbefore, granted⟩
  | @brokenOff _ shown error broken sent =>
    have hlisting : p.listing s base = ⟨(s.bucket.entriesBelow base).take shown,
        some (Backend.refusal "list" base.text error)⟩ := by
      simp only [Plan.listing, broken]
    simp only [hlisting, listedPages, Option.map_some, Option.toList_some] at hbatches hmoments
    rw [hbatches] at sent
    cases sent with
    | all granted =>
      have hdone : submitted (before ++ [.breakOff (Backend.refusal "list" base.text error)]) =
          submitted before := by
        rw [submitted_append]
        exact List.append_nil _
      refine ⟨_, _, .stopped hmoments ⟨hbefore, granted⟩ rfl, rfl, ?_, ?_⟩
      · rw [hdone]
      · rw [hdone, htrace]
  | @refused _ error sent =>
    rw [hbatches] at sent
    cases sent with
    | @refused sent keys rest error split granted failed =>
      obtain ⟨before', after, rfl, rfl⟩ := exists_of_submitted_eq split
      have hdone : submitted (before' ++ [.batch keys]) = submitted before' ++ [keys] :=
        submitted_append _ _
      have hpassed : Passes p (s.trace ++ [.list base]) before' :=
        ⟨fun error hmem => hbefore error (List.mem_append_left _ hmem), granted⟩
      have hfailed : (Moment.batch keys).error p
          (s.trace ++ [.list base] ++ (submitted before').map .batch) = some error := failed
      rw [List.append_assoc] at hmoments
      refine ⟨_, _, .stopped hmoments hpassed hfailed, rfl, ?_, ?_⟩
      · rw [hdone]
      · rw [hdone, htrace]

/-- The moments of a listing that ends: no error is among them. -/
lemma moments_of_none (size : BatchSize) (h : p.list s.trace base = none) :
    (∀ error, .breakOff error ∉ moments p s base size) ∧
      submitted (moments p s base size) = batchesOf (chunks size.val (s.bucket.keysBelow base)) := by
  have hmoments : moments p s base size = timeline size.val none [] (s.bucket.keysBelow base) := by
    simp only [moments, Plan.listing, h]
    rw [Bucket.map_key_entriesBelow]
  obtain ⟨before, hbefore, hnot⟩ :=
    exists_timeline_eq size.val none [] (s.bucket.keysBelow base)
  refine ⟨?_, ?_⟩
  · rw [hmoments, hbefore]
    simpa using hnot
  · rw [hmoments, submitted_timeline _ _ size.pos]
    rfl

/-- The pages that are filled before a listing breaks off are the first of the pages that it would
have filled: as many as what it yielded fills. -/
lemma filled_take (size : BatchSize) (error : StorageError) (keys : List Key) (shown : ℕ) :
    filled size.val (some error) (keys.take shown) =
      (chunks size.val keys).take (min shown keys.length / size.val) := by
  have hle : min shown keys.length / size.val * size.val ≤ min shown keys.length :=
    Nat.div_mul_le_self _ _
  rw [filled, Option.elim_some, List.length_take,
    ← chunks_take size.pos (keys.take shown) (by rwa [List.length_take]), List.take_take,
    Nat.min_eq_left (hle.trans (Nat.min_le_left _ _)),
    chunks_take size.pos keys (hle.trans (Nat.min_le_right _ _))]

/-- **The moments of a listing that breaks off**: its error comes last, and the batches before it are
those of the first pages, as many as what was listed fills. -/
lemma moments_of_some (size : BatchSize) {shown : ℕ} {error : BucketError}
    (h : p.list s.trace base = some (shown, error)) :
    (∃ before, moments p s base size =
        before ++ [.breakOff (Backend.refusal "list" base.text error)] ∧
      (∀ error, .breakOff error ∉ before) ∧
      submitted before = submitted (moments p s base size)) ∧
    submitted (moments p s base size) =
      batchesOf ((chunks size.val (s.bucket.keysBelow base)).take
        (min shown (s.bucket.keysBelow base).length / size.val)) := by
  have hmoments : moments p s base size = timeline size.val
      (some (Backend.refusal "list" base.text error)) [] ((s.bucket.keysBelow base).take shown) := by
    simp only [moments, Plan.listing, h]
    rw [List.map_take, Bucket.map_key_entriesBelow]
  obtain ⟨before, hbefore, hnot⟩ := exists_timeline_eq size.val
    (some (Backend.refusal "list" base.text error)) [] ((s.bucket.keysBelow base).take shown)
  rw [← hmoments] at hbefore
  refine ⟨⟨before, hbefore, hnot, ?_⟩, ?_⟩
  · rw [hbefore, submitted_append]
    exact (List.append_nil _).symm
  · rw [hmoments, submitted_timeline _ _ size.pos, List.nil_append, filled_take]

/-- An error of the listing is among the moments just if the listing breaks off. -/
lemma breakOff_not_mem_moments_iff (size : BatchSize) :
    (∀ error, .breakOff error ∉ moments p s base size) ↔ p.list s.trace base = none := by
  refine ⟨fun hnot => ?_, fun h => (moments_of_none size h).1⟩
  cases hplan : p.list s.trace base with
  | none => rfl
  | some broken =>
    obtain ⟨⟨before, hbefore, -, -⟩, -⟩ := moments_of_some size hplan
    exact absurd (by simp [hbefore]) (hnot (Backend.refusal "list" base.text broken.2))

/-- The batches among the moments are the first of those of all chunks. -/
lemma prefix_submitted_moments (p : Plan) (s : Session) (base : Key) (size : BatchSize) :
    submitted (moments p s base size) <+: batchesOf (chunks size.val (s.bucket.keysBelow base)) := by
  cases hplan : p.list s.trace base with
  | none =>
    simp only [(moments_of_none size hplan).2, List.prefix_rfl]
  | some broken =>
    rw [(moments_of_some size hplan).2]
    exact prefix_batchesOf (List.take_prefix _ _)

/-- **An entry that is still to be listed is still there**, whatever became of the batches before. -/
lemma find?_afterBatches_of_listed {before after : List Moment} {key : Key}
    (h : moments p s base size = before ++ .listed key :: after) :
    ((s.sent (.list base)).afterBatches p (submitted before)).bucket.find? key =
      s.bucket.find? key := by
  have hlisted : listedIn before ++ key :: listedIn after <+: s.bucket.keysBelow base := by
    have hkeys := listedIn_timeline size.val (p.listing s base).failure []
      ((p.listing s base).entries.map (·.key))
    rw [← moments, h, listedIn_append] at hkeys
    rw [← Bucket.map_key_entriesBelow]
    exact hkeys ▸ (prefix_entries_listing p s base).map _
  have hnot : key ∉ (submitted before).flatten := fun hmem =>
    (List.nodup_append.1 (hlisted.sublist.nodup (s.bucket.nodup_keysBelow base))).2.2 key
      (mem_of_mem_submitted h hmem) key List.mem_cons_self rfl
  exact ((s.sent (.list base)).thinned_afterBatches p _).find?_of_not hnot

/-- **A bulk deletion stops at the first request that fails**, and nowhere else. Take any bucket,
any number `n`, which is brought between 1 and 1000, and any plan: the listing may break off after
any number of entries, and each batch may be answered in any way. In the order of time, a batch goes
out as soon as the listing has filled a page, or has ended. The deletion goes along that order up to
the first thing that fails, be it a batch or the listing, and returns its error; what it has then
requested is the listing and the batches up to there. These are the first of the batches that are
sent if nothing fails. If the listing breaks off after `k` entries, and no batch of the first `k / c`
pages of `c` keys fails, then just these pages are sent, and the keys behind them, those of the
incomplete page among them, are left alone. A number is returned just if neither the listing nor any
batch that was sent failed, and it is the number of all keys below the given one that are not
metadata. Whenever an entry comes up in the listing, its object is still in the bucket as it was, so
that it makes no difference whether the listing is read at once or as it goes.

**Proof sketch.** The moments of a deletion are one for each entry, one for each batch, and the error
of the listing in the end. A batch that is the first to fail is found among them, for the batches
among the moments are those of the pages that the listing fills. -/
theorem run_stops_at_first_failure (p : Plan) (s : Session) (base : Key) (n : ℕ) :
    let c := max 1 (min n 1000)
    let keys := s.bucket.keysBelow base
    let tiles := keys.filter fun k => !Layout.isMetadata k
    let past := s.trace ++ [.list base]
    ∃ x s' done error?, (run base (.clamp n)).runUnder p s = (x, s') ∧
      Course p past (moments p s base (.clamp n)) done error? ∧
      x = error?.elim (.ok tiles.length) .error ∧
      s'.trace = past ++ (submitted done).map .batch ∧
      (∃ s₀, (run base (.clamp n)).runUnder .faultless s = (.ok tiles.length, s₀) ∧
        s₀.trace = past ++ (batchesOf (chunks c keys)).map .batch) ∧
      submitted done <+: batchesOf (chunks c keys) ∧
      (∀ shown error, p.list s.trace base = some (shown, error) →
        let k := min shown keys.length
        let full := (chunks c keys).take (k / c)
        p.Grants past (batchesOf full) →
          submitted done = batchesOf full ∧ x = .error (Backend.refusal "list" base.text error) ∧
          ∀ key ∈ keys.drop (k / c * c), s'.bucket.find? key = s.bucket.find? key) ∧
      ((∃ count, x = .ok count) ↔
        p.list s.trace base = none ∧ p.Grants past (submitted done)) ∧
      ∀ before key after, moments p s base (.clamp n) = before ++ .listed key :: after →
        ((s.sent (.list base)).afterBatches p (submitted before)).bucket.find? key =
          s.bucket.find? key := by
  intro c keys tiles past
  obtain ⟨x, s', hswept, hrun⟩ := swept_run p s base (.clamp n)
  obtain ⟨done, error?, hcourse, hx, hbucket, htrace⟩ := hswept.course
  have hfirst : submitted done <+: batchesOf (chunks c keys) :=
    hcourse.prefix_submitted.trans (prefix_submitted_moments p s base (.clamp n))
  refine ⟨x, s', done, error?, hrun, hcourse, hx, ?_, ?_, hfirst, ?_, ?_,
    fun _ _ _ => find?_afterBatches_of_listed⟩
  · rw [htrace, List.append_assoc]
    rfl
  · obtain ⟨s₀, hrun₀, -, htrace₀⟩ := exists_run_faultless s base (.clamp n)
    refine ⟨s₀, hrun₀, ?_⟩
    rw [htrace₀, batches_pages_entriesBelow, List.append_assoc]
    rfl
  · intro shown error hplan k full hgrants
    obtain ⟨⟨before, hbefore, hnot, hsent⟩, hfull⟩ := moments_of_some (.clamp n) hplan
    obtain ⟨rfl, rfl⟩ := hcourse.of_grants hbefore hnot (hsent ▸ hfull ▸ hgrants)
    refine ⟨hfull, hx, fun key hkey => ?_⟩
    have hpages : full.flatten = keys.take (k / c * c) := flatten_take_chunks (.clamp n) keys
      ((Nat.div_mul_le_self _ _).trans (Nat.min_le_right _ _))
    have hleft : key ∉ (batchesOf full).flatten := by
      rw [flatten_batchesOf, hpages]
      exact fun hmem => List.disjoint_take_drop (s.bucket.nodup_keysBelow base) le_rfl
        (List.mem_filter.1 hmem).1 hkey
    rw [hbucket, hfull]
    exact ((s.sent (.list base)).thinned_afterBatches p _).find?_of_not hleft
  · rw [← breakOff_not_mem_moments_iff (.clamp n), ← hcourse.eq_none_iff, hx]
    cases error? <;> simp

end TileCache.BulkDelete
