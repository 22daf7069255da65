import TileCache.Proofs.Atomicity
import TileCache.Proofs.Catalogue
set_option autoImplicit false

/-!
# What is checked before the first request

Before an operation makes a request it has judged its arguments and asked whether the store has been
shut down. The verdict on the arguments knows of no store. Which of the two comes first differs from
one operation to the next, and some never ask. If a check does not pass, the operation fails with
its error and has done nothing else; if all pass, the only errors that are left come from the
bucket.

## Main definitions

* `TileCache.Operation.verdict` — what is wrong with the arguments of an operation, if anything is.
* `TileCache.Operation.check` — all that is checked before the first request.
* `TileCache.StorageError.FromBucket` — the errors of failed requests and of unreadable metadata.
* `TileCache.RequestM.FailsBy` — computations whose errors are all of one kind.
* `TileCache.RequestM.Checked` — computations that begin with a check.

## Main results

* `TileCache.Operation.check_cases` — in which order an operation makes its checks.
* `TileCache.Call.checked_requests` — the requests of a call begin with its check.
* `TileCache.Operation.runIn_of_refused`, `TileCache.Operation.fromBucket_of_passed` — what becomes
  of an operation whose check does not pass, and of one whose check does.
* `TileCache.Operation.verdict_eq_ok_iff` — arguments with which nothing is wrong.
-/

namespace TileCache

/-! ## Errors that come from the bucket -/

/-- The errors that come from the bucket: a request failed, or metadata that is kept cannot be read.
-/
inductive StorageError.FromBucket : StorageError → Prop
  | failed (operation subject : String) (cause : BackendCause) :
      FromBucket (.backend operation subject cause)
  | unreadable (fault : MetadataFault) : FromBucket (.metadata fault)

/-- Nobody but the bucket is to blame for its errors. -/
lemma StorageError.FromBucket.isCallerError {e : StorageError} (h : e.FromBucket) :
    e.isCallerError = false := by
  cases h <;> rfl

open StorageError (FromBucket)

/-- A refusal comes from the bucket. -/
lemma Backend.fromBucket_refusal (operation subject : String) (error : BucketError) :
    FromBucket (refusal operation subject error) :=
  .failed _ _ _

/-- What is wrong with a batch as a whole comes from the bucket. -/
lemma Backend.fromBucket_of_settle {n : ℕ} {answers : List (Option BucketError)} {e : StorageError}
    (h : (settle n answers).error = some e) : FromBucket e := by
  have hwhole : ∃ cause, e = .backend "delete_batch" s!"{n} keys" cause := by
    cases hfailed : refusals answers with
    | nil =>
      simp only [settle, hfailed] at h
      split_ifs at h
      cases h
      exact ⟨_, rfl⟩
    | cons first rest =>
      simp only [settle, hfailed] at h
      split_ifs at h <;> cases h <;> exact ⟨_, rfl⟩
  obtain ⟨cause, rfl⟩ := hwhole
  exact .failed _ _ _

/-- Octets that are not metadata are the bucket's. -/
lemma Properties.fromBucket_of_decode {data : Octets} {e : StorageError}
    (h : decode data = .error e) : FromBucket e := by
  unfold decode at h
  cases hutf : Utf8.decode data with
  | error fault =>
    simp only [hutf] at h
    cases h
    exact .unreadable _
  | ok text => simp only [hutf, reduceCtorEq] at h

/-! ## Which errors there may be -/

namespace RequestM

variable {α β : Type} {E : StorageError → Prop} {m : RequestM α} {f : α → RequestM β}

/-- Whatever becomes of its requests, the computation fails with no error but such. -/
def FailsBy (E : StorageError → Prop) (m : RequestM α) : Prop :=
  ∀ p (s : Session) e s', m.runUnder p s = (.error e, s') → E e

/-- What does not fail fails with no error. -/
lemma Succeeds.failsBy (h : Succeeds m) : FailsBy E m := by
  intro p s e s' hrun
  obtain ⟨a, s'', hok⟩ := h p s
  rw [hok] at hrun
  cases hrun

/-- A value alone fails with no error. -/
lemma failsBy_pure (a : α) : FailsBy E (pure a) :=
  (succeeds_pure a).failsBy

/-- A result known beforehand fails with its error, if it is one. -/
lemma failsBy_ofExcept {x : Except StorageError α} (h : ∀ e, x = .error e → E e) :
    FailsBy E (MonadExcept.ofExcept x) := by
  intro p s e s' hrun
  rw [runUnder_ofExcept] at hrun
  exact h e (congrArg Prod.fst hrun)

/-- **Two computations in sequence** fail with the errors of either. -/
lemma FailsBy.bind (hm : FailsBy E m) (hf : ∀ a, FailsBy E (f a)) : FailsBy E (m >>= f) := by
  intro p s e s' hrun
  rw [runUnder_bind] at hrun
  rcases hfirst : m.runUnder p s with ⟨e' | a, s₁⟩
  · rw [hfirst] at hrun
    cases hrun
    exact hm p s e s' hfirst
  · rw [hfirst] at hrun
    exact hf a p s₁ e s' hrun

/-- A value made of another fails with the errors of that one. -/
lemma FailsBy.map {g : α → β} (h : FailsBy E m) : FailsBy E (g <$> m) := by
  rw [map_eq_pure_bind]
  exact h.bind fun a => failsBy_pure (g a)

end RequestM

namespace Backend

open RequestM

variable {key : Key}

/-- A probe fails with the bucket's error. -/
lemma failsBy_head : FailsBy FromBucket (head key) := by
  intro p s e s' hrun
  rw [runUnder_head, Prod.mk.injEq] at hrun
  cases hplan : p.head s.trace key with
  | none => simp [hplan] at hrun
  | some error =>
    simp only [hplan] at hrun
    split_ifs at hrun <;> cases hrun.1
    exact fromBucket_refusal _ _ _

/-- A fetch fails with the bucket's error. -/
lemma failsBy_get : FailsBy FromBucket (get key) := by
  intro p s e s' hrun
  rw [runUnder_get, Prod.mk.injEq] at hrun
  cases hplan : p.get s.trace key with
  | served => simp [hplan] at hrun
  | refused error =>
    simp only [hplan] at hrun
    split_ifs at hrun <;> cases hrun.1
    exact fromBucket_refusal _ _ _
  | bodyLost error =>
    simp only [hplan] at hrun
    cases hfind : s.bucket.find? key <;> simp only [hfind] at hrun <;> cases hrun.1
    exact fromBucket_refusal _ _ _

/-- A write fails with the bucket's error. -/
lemma failsBy_put (data : Octets) (contentType : String) :
    FailsBy FromBucket (put key data contentType) := by
  intro p s e s' hrun
  rw [runUnder_put] at hrun
  cases hplan : p.put s.trace key <;> simp only [hplan] at hrun <;> cases hrun
  exact fromBucket_refusal _ _ _

/-- A deletion fails with the bucket's error. -/
lemma failsBy_delete : FailsBy FromBucket (delete key) := by
  intro p s e s' hrun
  rw [runUnder_delete] at hrun
  cases hplan : p.delete s.trace key with
  | none =>
    simp only [hplan] at hrun
    cases hrun
  | some error =>
    simp only [hplan, Prod.mk.injEq] at hrun
    split_ifs at hrun <;> cases hrun.1
    exact fromBucket_refusal _ _ _

/-- To count fails with no error. -/
lemma failsBy_count (g : Counters → Counters) : FailsBy FromBucket (count g) :=
  (succeeds_count g).failsBy

end Backend

/-- A bulk deletion fails with the bucket's error: that of its listing or that of a batch. -/
lemma BulkDelete.failsBy_run (base : Key) (size : BatchSize) :
    RequestM.FailsBy FromBucket (run base size) := by
  intro p s e s' hrun
  obtain ⟨x, s'', hswept, hrun'⟩ := swept_run p s base size
  rw [hrun', Prod.mk.injEq] at hrun
  obtain ⟨rfl, -⟩ := hrun
  cases hswept with
  | brokenOff broken sent => exact Backend.fromBucket_refusal _ _ _
  | refused sent =>
    cases sent with
    | refused split granted failed => exact Backend.fromBucket_of_settle failed

/-! ## Computations that begin with a check -/

namespace RequestM

variable {α β : Type}

/-- The computation begins with a check, which may have failed already. If it has, there is nothing
else; if it has not, then all errors that are left come from the bucket. -/
structure Checked (x : Except StorageError Unit) (m : RequestM α) : Prop where
  refused : ∀ e, x = .error e → m = throw e
  passed : x = .ok () → FailsBy FromBucket m

/-- What follows a check is asked only for what passes. -/
lemma checked_bind {x : Except StorageError β} {f : β → RequestM α}
    (h : ∀ b, x = .ok b → FailsBy FromBucket (f b)) :
    Checked ((fun _ => ()) <$> x) (MonadExcept.ofExcept x >>= f) := by
  cases x with
  | error e =>
    refine ⟨fun e' he' => ?_, nofun⟩
    cases he'
    exact ofExcept_error_bind e f
  | ok b =>
    refine ⟨nofun, fun _ => ?_⟩
    rw [ofExcept_ok, pure_bind]
    exact h b rfl

/-- A value made of another is checked as that one. -/
lemma Checked.map {x : Except StorageError Unit} {m : RequestM α} (g : α → β) (h : Checked x m) :
    Checked x (g <$> m) := by
  refine ⟨fun e he => ?_, fun hx => (h.passed hx).map⟩
  rw [h.refused e he]
  rfl

end RequestM

namespace Store

open RequestM

variable (s : Store)

/-- Storing a tile begins with its check. -/
lemma checked_writeTile (t : Tile) :
    Checked ((fun _ => ()) <$> s.checkedPut t) (writeTile t s) := by
  have hwrite (blob : Octets) (key : Key) : FailsBy FromBucket (writeTile.writeBlob t key blob) :=
    (Backend.failsBy_put blob t.format).bind fun _ => Backend.failsBy_count _
  rw [writeTile_eq]
  refine checked_bind fun x _ => ?_
  cases s.listeners.isEmpty with
  | true => exact (hwrite x.1 x.2).bind fun _ => failsBy_pure none
  | false =>
    exact Backend.failsBy_head.bind fun info => (hwrite x.1 x.2).bind fun _ => failsBy_pure _

/-- Reading a tile begins with its check. -/
lemma checked_readTile (t : Tile) :
    Checked ((fun _ => ()) <$> s.checkedTile t) (readTile t s) := by
  unfold readTile
  rw [← checkedTile_bind]
  refine checked_bind fun key _ => Backend.failsBy_get.bind fun object => ?_
  cases object <;> exact (Backend.failsBy_count _).bind fun _ => failsBy_pure _

/-- Removing a tile begins with its check. -/
lemma checked_eraseTile (t : Tile) :
    Checked ((fun _ => ()) <$> s.checkedTile t) (eraseTile t s) := by
  unfold eraseTile
  rw [← checkedTile_bind]
  refine checked_bind fun key _ => Backend.failsBy_head.bind fun info => ?_
  cases info with
  | none => exact failsBy_pure none
  | some info =>
    exact Backend.failsBy_delete.bind fun _ =>
      (Backend.failsBy_count _).bind fun _ => failsBy_pure _

/-- Removing a layer begins with its check. -/
lemma checked_eraseLayer (n : String) :
    Checked ((fun _ => ()) <$> s.checkedLayer n) (eraseLayer n s) := by
  unfold eraseLayer
  rw [← checkedLayer_bind]
  refine checked_bind fun x _ => (BulkDelete.failsBy_run _ _).bind fun submitted => ?_
  have hrest (existed : Bool) : FailsBy FromBucket
      (if existed then Backend.delete x.2 >>= fun _ => pure existed else pure existed) := by
    cases existed with
    | true => exact Backend.failsBy_delete.bind fun _ => failsBy_pure true
    | false => exact failsBy_pure false
  dsimp only
  split_ifs
  · exact (failsBy_pure true).bind hrest
  · exact Backend.failsBy_head.bind fun info => (failsBy_pure info.isSome).bind hrest

/-- Removing a gridset begins with its check. -/
lemma checked_eraseGridset (n g : String) :
    Checked ((fun _ => ()) <$> s.checkedGridset n g) (eraseGridset n g s) := by
  unfold eraseGridset
  rw [← checkedGridset_bind]
  exact checked_bind fun base _ => (BulkDelete.failsBy_run _ _).bind fun _ => failsBy_pure _

/-- Fetching metadata and reading it fails with the bucket's error. -/
lemma failsBy_fetchProperties (key : Key) :
    FailsBy FromBucket (do
      match ← Backend.get key with
      | some object => MonadExcept.ofExcept (Properties.decode object.data)
      | none => return (.empty : Properties)) := by
  refine Backend.failsBy_get.bind fun object => ?_
  cases object with
  | none => exact failsBy_pure _
  | some o => exact failsBy_ofExcept fun e he => Properties.fromBucket_of_decode he

/-- Reading metadata begins with its check. -/
lemma checked_readMetadata (n name : String) :
    Checked ((fun _ => ()) <$> s.checkedMetadata n) (readMetadata n name s) := by
  unfold readMetadata loadProperties
  simp only [bind_assoc]
  rw [← checkedMetadata_bind]
  refine checked_bind fun key _ => ?_
  rw [← bind_assoc]
  exact (failsBy_fetchProperties key).bind fun m => failsBy_pure _

/-- Writing metadata begins with its check. -/
lemma checked_writeMetadata (n name value : String) :
    Checked ((fun _ => ()) <$> s.checkedMetadata n) (writeMetadata n name value s) := by
  unfold writeMetadata loadProperties
  simp only [bind_assoc]
  rw [← checkedMetadata_bind]
  refine checked_bind fun key hkey => ?_
  obtain ⟨hkey, -⟩ := checkedMetadata_eq_ok_iff.1 hkey
  -- The key is made a second time, which cannot fail where it did not fail before.
  rw [hkey, ← bind_assoc]
  exact (failsBy_fetchProperties key).bind fun m =>
    (failsBy_pure key).bind fun place => Backend.failsBy_put _ _

/-- What a listing yields first is an error only if the listing breaks off. -/
lemma fromBucket_of_first? {p : Plan} {σ : Session} {base : Key} {e : StorageError}
    (h : (p.listing σ base).first? = .error e) : FromBucket e := by
  unfold Plan.listing at h
  rcases hplan : p.list σ.trace base with _ | ⟨shown, error⟩ <;> simp only [hplan] at h
  · cases hentries : σ.bucket.entriesBelow base <;> simp [Listing.first?, hentries] at h
  · cases hentries : (σ.bucket.entriesBelow base).take shown <;>
      simp only [Listing.first?, hentries] at h <;> cases h
    exact Backend.fromBucket_refusal _ _ _

/-- The check of the access begins with the question whether the store has been shut down. -/
lemma checked_probeRoot : Checked s.guard (probeRoot s) := by
  have hlist : FailsBy FromBucket (do
      let listing ← Backend.list s.layout.root
      let _ ← MonadExcept.ofExcept listing.first?) := by
    intro p σ e σ' hrun
    rw [runUnder_bind_ok Backend.runUnder_list] at hrun
    exact (failsBy_ofExcept fun e he => fromBucket_of_first? he).bind (fun _ => failsBy_pure _)
      p _ e σ' hrun
  have hguard : (fun _ => ()) <$> s.guard = s.guard := by
    cases s.guard <;> rfl
  have hprobe := checked_bind fun u (_ : s.guard = .ok u) => hlist
  rw [hguard] at hprobe
  unfold probeRoot
  rw [requireLive_eq]
  exact hprobe

end Store

/-! ## Verdicts on arguments -/

/-- The identifiers of a tile, in the order in which they are checked. -/
def Tile.identifiers (t : Tile) : List (Identifier × String) :=
  [(.layer, t.layer), (.gridset, t.gridset), (.format, t.format),
    (.parameters, t.parameters.getD Layout.defaultParameters)]

/-- What is wrong with a tile that is to be stored, if anything is. -/
def Tile.checkStorable (t : Tile) : Except StorageError Unit :=
  if t.blob = none then .error (.invalidArgument .blobRequired)
  else if t.format = "" then .error (.invalidArgument .formatRequired)
  else t.slot.check

namespace Operation

/-- The identifiers that an operation uses, in the order in which they are checked. -/
def identifiers : Operation → List (Identifier × String)
  | put t => t.identifiers
  | get t => t.identifiers
  | deleteTile t => t.identifiers
  | deleteLayer n => [(.layer, n)]
  | deleteGridset n g => [(.layer, n), (.gridset, g)]
  | getMetadata n _ => [(.layer, n)]
  | putMetadata n _ _ => [(.layer, n)]
  | _ => []

/-- What is wrong with the arguments of an operation, if anything is. What the store does not offer
is refused with any arguments. -/
def verdict : Operation → Except StorageError Unit
  | put t => t.checkStorable
  | get t => t.slot.check
  | deleteTile t => t.slot.check
  | deleteLayer n => named .layer n
  | deleteGridset n g => do
    named .layer n
    named .gridset g
  | getMetadata n _ => named .layer n
  | putMetadata n _ _ => named .layer n
  | deleteRange => .error (.notImplemented "delete by tile range")
  | rename => .error (.notImplemented "rename layer")
  | clear => .error (.misuse "clear() must not be called on a bucket-backed tile store")
  | _ => .ok ()

/-- All that is checked before an operation makes its first request: of some the arguments and then
the store, of those about metadata the store and then the arguments, and of some only one of the
two. -/
def check (s : Store) (o : Operation) : Except StorageError Unit :=
  match o with
  | put _ | get _ | deleteTile _ | deleteLayer _ | deleteGridset _ _ => do
    o.verdict
    s.guard
  | getMetadata _ _ | putMetadata _ _ _ => do
    s.guard
    o.verdict
  | checkAccess => s.guard
  | _ => o.verdict

/-- The tile that an operation is given and may change. -/
def given : Operation → Option Tile
  | get t => some t
  | deleteTile t => some t
  | _ => none

variable {o : Operation} {e : StorageError}

/-- **The order of the checks**: the arguments and then the store, or the store and then the
arguments, or the arguments alone, which is so of operations that are refused anyway and of those on
the store itself. -/
lemma check_cases (s : Store) (o : Operation) :
    o.check s = (do o.verdict; s.guard) ∨ o.check s = (do s.guard; o.verdict) ∨
      o.check s = o.verdict ∧ ((∃ e, o.verdict = .error e) ∨
        o = destroy ∨ (∃ l, o = addListener l) ∨ ∃ l, o = removeListener l) := by
  cases o with
  | put t | get t | deleteTile t | deleteLayer n | deleteGridset n g => exact .inl rfl
  | getMetadata n name | putMetadata n name value => exact .inr (.inl rfl)
  | checkAccess =>
    have hguard : s.guard = (do s.guard; .ok ()) := by
      cases s.guard <;> rfl
    exact .inr (.inl hguard)
  | deleteRange | rename | clear => exact .inr (.inr ⟨rfl, .inl ⟨_, rfl⟩⟩)
  | destroy => exact .inr (.inr ⟨rfl, .inr (.inl rfl)⟩)
  | addListener l => exact .inr (.inr ⟨rfl, .inr (.inr (.inl ⟨l, rfl⟩))⟩)
  | removeListener l => exact .inr (.inr ⟨rfl, .inr (.inr (.inr ⟨l, rfl⟩))⟩)

/-- **A store that has not been shut down checks the arguments alone.** -/
lemma check_of_live {s : Store} (h : s.live = true) (o : Operation) : o.check s = o.verdict := by
  have hguard := Store.guard_of_live h
  rcases o.check_cases s with hcheck | hcheck | ⟨hcheck, -⟩
  · rw [hcheck, hguard]
    cases o.verdict <;> rfl
  · rw [hcheck, hguard]
    rfl
  · exact hcheck

end Operation

/-! ## Which arguments are at fault -/

/-- An identifier passes just if it is not empty. -/
lemma named_eq_ok_iff {what : Identifier} {identifier : String} {u : Unit} :
    named what identifier = .ok u ↔ identifier ≠ "" := by
  unfold named
  split_ifs <;> simp_all

/-- A check of arguments finds them at fault, and nothing else. -/
def FindsFault (x : Except StorageError Unit) : Prop :=
  ∀ e, x = .error e → ∃ fault, e = .invalidArgument fault

/-- An empty identifier is an argument at fault. -/
lemma findsFault_named (what : Identifier) (identifier : String) :
    FindsFault (named what identifier) := by
  intro e h
  unfold named at h
  split_ifs at h
  cases h
  exact ⟨_, rfl⟩

/-- Two checks in sequence find faults if both do. -/
lemma FindsFault.bind {x y : Except StorageError Unit} (hx : FindsFault x) (hy : FindsFault y) :
    FindsFault (do x; y) := by
  intro e h
  cases x with
  | error e' =>
    cases h
    exact hx e rfl
  | ok u => exact hy e h

/-- The address of a tile can be used just if none of its identifiers is empty. -/
lemma Tile.slot_check_eq_ok_iff {t : Tile} :
    t.slot.check = .ok () ↔ ∀ x ∈ t.identifiers, x.2 ≠ "" := by
  have hformat : Format.canonicalId t.format ≠ "" ↔ t.format ≠ "" :=
    Format.canonicalId_eq_empty_iff.not
  simp only [Slot.check, Tile.slot, Layout.bind_eq_ok_iff, named_eq_ok_iff, exists_const, hformat,
    Tile.identifiers, List.forall_mem_cons, List.not_mem_nil, false_implies, implies_true, and_true]

/-- An address that cannot be used is an argument at fault. -/
lemma Slot.findsFault_check (s : Slot) : FindsFault s.check :=
  (findsFault_named _ _).bind ((findsFault_named _ _).bind
    ((findsFault_named _ _).bind (findsFault_named _ _)))

/-- A tile can be stored just if it has a blob and none of its identifiers is empty. -/
lemma Tile.checkStorable_eq_ok_iff {t : Tile} :
    t.checkStorable = .ok () ↔ t.blob ≠ none ∧ ∀ x ∈ t.identifiers, x.2 ≠ "" := by
  have hformat (h : t.format = "") : ¬ ∀ x ∈ t.identifiers, x.2 ≠ "" :=
    fun hall => hall (.format, t.format) (by simp [Tile.identifiers]) h
  unfold checkStorable
  split_ifs with hblob hempty
  · simp [hblob]
  · simp only [false_iff, not_and]
    exact fun _ => hformat hempty
  · simp only [ne_eq, hblob, not_false_eq_true, true_and]
    exact slot_check_eq_ok_iff

/-- A tile that cannot be stored is an argument at fault. -/
lemma Tile.findsFault_checkStorable (t : Tile) : FindsFault t.checkStorable := by
  intro e h
  unfold checkStorable at h
  split_ifs at h
  · cases h
    exact ⟨_, rfl⟩
  · cases h
    exact ⟨_, rfl⟩
  · exact t.slot.findsFault_check e h

namespace Operation

variable {o : Operation} {e : StorageError}

/-- **What a verdict finds**: that an argument is at fault, or that the operation is not offered. -/
lemma findsFault_or (o : Operation) :
    FindsFault o.verdict ∨ o = deleteRange ∨ o = rename ∨ o = clear := by
  cases o with
  | put t => exact .inl t.findsFault_checkStorable
  | get t => exact .inl t.slot.findsFault_check
  | deleteTile t => exact .inl t.slot.findsFault_check
  | deleteLayer n => exact .inl (findsFault_named _ n)
  | deleteGridset n g => exact .inl ((findsFault_named _ n).bind (findsFault_named _ g))
  | getMetadata n name => exact .inl (findsFault_named _ n)
  | putMetadata n name value => exact .inl (findsFault_named _ n)
  | deleteRange => exact .inr (.inl rfl)
  | rename => exact .inr (.inr (.inl rfl))
  | clear => exact .inr (.inr (.inr rfl))
  | checkAccess | destroy | addListener l | removeListener l => exact .inl nofun

/-- **The caller is to blame for what is wrong with the arguments.** -/
lemma isCallerError_of_verdict (h : o.verdict = .error e) : e.isCallerError = true := by
  rcases o.findsFault_or with hfault | rfl | rfl | rfl
  · obtain ⟨fault, rfl⟩ := hfault e h
    rfl
  all_goals
    cases h
    rfl

/-- **Nothing is wrong with the arguments** just if a tile to be stored has a blob, no identifier
that is used is empty, and the operation is offered at all. -/
lemma verdict_eq_ok_iff :
    o.verdict = .ok () ↔ (∀ t, o = put t → t.blob ≠ none) ∧ (∀ x ∈ o.identifiers, x.2 ≠ "") ∧
      o ≠ deleteRange ∧ o ≠ rename ∧ o ≠ clear := by
  cases o with
  | put t => simp [verdict, identifiers, Tile.checkStorable_eq_ok_iff]
  | get t => simp [verdict, identifiers, Tile.slot_check_eq_ok_iff]
  | deleteTile t => simp [verdict, identifiers, Tile.slot_check_eq_ok_iff]
  | deleteLayer n => simp [verdict, identifiers, named_eq_ok_iff]
  | deleteGridset n g =>
    simp [verdict, identifiers, Layout.bind_eq_ok_iff, named_eq_ok_iff]
  | getMetadata n name => simp [verdict, identifiers, named_eq_ok_iff]
  | putMetadata n name value => simp [verdict, identifiers, named_eq_ok_iff]
  | deleteRange | rename | clear => simp [verdict]
  | checkAccess | destroy | addListener l | removeListener l => simp [verdict, identifiers]

end Operation

/-! ## Checks and requests -/

/-- A check of arguments and then of the store, whatever value is made of the arguments. -/
lemma map_guarded {α β : Type} (x : Except StorageError α) (y : Except StorageError Unit)
    (f : α → β) :
    (fun _ => ()) <$> (do let a ← x; y; return f a) = (do (fun _ => ()) <$> x; y) := by
  cases x <;> cases y <;> rfl

namespace Store

variable (s : Store)

/-- What is checked of a tile that is to be stored. -/
lemma map_checkedPut (t : Tile) :
    (fun _ => ()) <$> s.checkedPut t = (do t.checkStorable; s.guard) := by
  unfold checkedPut Tile.checkStorable
  cases t.blob with
  | none => rfl
  | some blob =>
    by_cases hformat : t.format = ""
    · simp only [hformat, if_true, reduceCtorEq, if_false]
      rfl
    · simp only [hformat, reduceCtorEq, if_false, ← s.layout.tile_check]
      exact map_guarded _ _ _

/-- What is checked of a tile that is to be read or removed. -/
lemma map_checkedTile (t : Tile) :
    (fun _ => ()) <$> s.checkedTile t = (do t.slot.check; s.guard) := by
  rw [← s.layout.tile_check]
  exact map_guarded _ _ id

/-- What is checked of a layer that is to be removed. Its metadata has a key if the layer has. -/
lemma map_checkedLayer (n : String) :
    (fun _ => ()) <$> s.checkedLayer n = (do named .layer n; s.guard) := by
  rw [← s.layout.layer_check]
  unfold checkedLayer Layout.metadata
  cases s.layout.layer n with
  | error e => rfl
  | ok base => cases s.guard <;> rfl

/-- What is checked of a gridset that is to be removed. -/
lemma map_checkedGridset (n g : String) :
    (fun _ => ()) <$> s.checkedGridset n g =
      (do (do named .layer n; named .gridset g); s.guard) := by
  rw [← s.layout.gridset_check]
  exact map_guarded _ _ id

/-- What is checked of a layer whose metadata is to be read or written. -/
lemma map_checkedMetadata (n : String) :
    (fun _ => ()) <$> s.checkedMetadata n = (do s.guard; named .layer n) := by
  rw [← s.layout.metadata_check]
  unfold checkedMetadata
  cases s.guard <;> rfl

end Store

namespace Call

open RequestM Store

/-- **The requests of a call begin with its check.** -/
lemma checked_requests (s : Store) (call : Call) :
    Checked (call.operation.check s) (call.requests s) := by
  cases call with
  | put t =>
    have h := (s.checked_writeTile t).map stored
    rwa [s.map_checkedPut] at h
  | get t =>
    have h := (s.checked_readTile t).map (fetched t)
    rwa [s.map_checkedTile] at h
  | deleteTile t =>
    have h := (s.checked_eraseTile t).map (freed t)
    rwa [s.map_checkedTile] at h
  | deleteLayer n =>
    have h := (s.checked_eraseLayer n).map (swept (.layerDeleted n))
    rwa [s.map_checkedLayer] at h
  | deleteGridset n g =>
    have h := (s.checked_eraseGridset n g).map (swept (.gridsetDeleted n g))
    rwa [s.map_checkedGridset] at h
  | getMetadata n name =>
    have h := (s.checked_readMetadata n name).map fun value => ({ answer := .text value } : Finding)
    rwa [s.map_checkedMetadata] at h
  | putMetadata n name value =>
    have h := (s.checked_writeMetadata n name value).map fun _ => ({ answer := .done } : Finding)
    rwa [s.map_checkedMetadata] at h

/-- A call whose check does not pass fails with its error, and nothing else becomes of it. -/
lemma runIn_of_refused {call : Call} {w : World} {e : StorageError}
    (h : call.operation.check w.store = .error e) (c : Context) :
    call.operation.perform.runIn c w = ({ completion := .failed e, tile := call.given }, w) := by
  have hrun : (call.requests w.store).runUnder c.plan w.session = (.error e, w.session) := by
    rw [(checked_requests w.store call).refused e h]
    exact runUnder_throw e
  rw [runIn_perform hrun]
  rfl

end Call

namespace Operation

variable {o : Operation} {c : Context} {w : World} {e : StorageError}

/-- **An operation whose check does not pass** fails with its error, whatever the context, and
nothing else becomes of it. -/
lemma runIn_of_refused (h : o.check w.store = .error e) (c : Context) :
    o.perform.runIn c w = ({ completion := .failed e, tile := o.given }, w) := by
  cases o with
  | put t => exact (Call.put t).runIn_of_refused h c
  | get t => exact (Call.get t).runIn_of_refused h c
  | deleteTile t => exact (Call.deleteTile t).runIn_of_refused h c
  | deleteLayer n => exact (Call.deleteLayer n).runIn_of_refused h c
  | deleteGridset n g => exact (Call.deleteGridset n g).runIn_of_refused h c
  | getMetadata n name => exact (Call.getMetadata n name).runIn_of_refused h c
  | putMetadata n name value => exact (Call.putMetadata n name value).runIn_of_refused h c
  | deleteRange | rename | clear =>
    cases h
    rfl
  | checkAccess =>
    have hrun : (Store.probeRoot w.store).runUnder c.plan w.session = (.error e, w.session) := by
      rw [w.store.checked_probeRoot.refused e h]
      exact RequestM.runUnder_throw e
    simp only [perform, Store.checkAccess, StoreM.runIn_bind, StoreM.runIn_request hrun]
    rfl
  | destroy | addListener l | removeListener l => cases h

/-- **An operation whose check passes** can only fail with an error that comes from the bucket. -/
lemma fromBucket_of_passed (h : o.check w.store = .ok ())
    (he : (o.perform.runIn c w).1.completion = .failed e) : FromBucket e := by
  have hcall : ∀ call : Call, call.operation.check w.store = .ok () →
      (call.operation.perform.runIn c w).1.completion = .failed e → FromBucket e := by
    intro call hcheck hfailed
    obtain ⟨session, hrun, -⟩ := Call.of_failed hfailed
    exact (call.checked_requests w.store).passed hcheck _ _ _ _ hrun
  cases o with
  | put t => exact hcall (.put t) h he
  | get t => exact hcall (.get t) h he
  | deleteTile t => exact hcall (.deleteTile t) h he
  | deleteLayer n => exact hcall (.deleteLayer n) h he
  | deleteGridset n g => exact hcall (.deleteGridset n g) h he
  | getMetadata n name => exact hcall (.getMetadata n name) h he
  | putMetadata n name value => exact hcall (.putMetadata n name value) h he
  | deleteRange | rename | clear => cases h
  | checkAccess =>
    cases hrun : (Store.probeRoot w.store).runUnder c.plan w.session with
    | mk x session =>
      simp only [perform, Store.checkAccess, StoreM.runIn_bind, StoreM.runIn_request hrun] at he
      cases x with
      | error e' =>
        cases he
        exact w.store.checked_probeRoot.passed h _ _ _ _ hrun
      | ok u => cases he
  | destroy | addListener l | removeListener l => cases he

end Operation

end TileCache
