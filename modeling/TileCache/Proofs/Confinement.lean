import TileCache.Proofs.Batches
import TileCache.Proofs.CallRequests
set_option autoImplicit false

/-!
# Computations confined to some keys

A computation is confined to some keys if it neither changes what is found under others nor is told
of it. That it is not told is a statement about two runs: on sessions that differ in nothing but
objects with other keys, it comes to the same, and leaves sessions of which the same is true. A
single request is confined to the keys it is about. Of two computations in sequence the second need
be confined only for values that the first can come to; thus a bulk deletion is confined to what is
below its key, because a listing shows nothing else.

## Main definitions

* `TileCache.Session.Alike` — sessions that differ at most in objects with other keys.
* `TileCache.RequestM.Yields` — the values that a computation can come to.
* `TileCache.RequestM.Confined` — computations that have to do with some keys alone.

## Main results

* `TileCache.RequestM.Confined.bind` — confined computations in sequence.
* `TileCache.Backend.confined_head`, `confined_get`, `confined_put`, `confined_delete`,
  `confined_list`, `confined_deleteBatch` — single requests.
* `TileCache.BulkDelete.confined_run` — a bulk deletion is confined to what is below its key.
-/

namespace TileCache

/-- What is below a key depends on nothing but what is found there. -/
lemma Bucket.below_congr {b b' : Bucket} {base : Key}
    (h : ∀ k, k.isBelow base = true → b.find? k = b'.find? k) : b.below base = b'.below base := by
  have hfilter : b.objects.filter (·.isBelow base) = b'.objects.filter (·.isBelow base) := by
    refine SortedMap.ext_find? fun k => ?_
    rw [SortedMap.find?_filter, SortedMap.find?_filter]
    split_ifs with hk
    · exact h k hk
    · rfl
  exact congrArg SortedMap.entries hfilter

/-- Two sessions with the same past and the same time, in which the same is found under the keys
that satisfy `P`. -/
structure Session.Alike (P : Key → Prop) (s s' : Session) : Prop where
  trace_eq : s.trace = s'.trace
  clock_eq : s.bucket.clock = s'.bucket.clock
  find?_eq : ∀ k, P k → s.bucket.find? k = s'.bucket.find? k

namespace Session

variable {P : Key → Prop} {s s' : Session}

/-- A request on its way leaves sessions alike. -/
lemma Alike.sent (h : s.Alike P s') (r : Request) : (s.sent r).Alike P (s'.sent r) :=
  ⟨congrArg (· ++ [r]) h.trace_eq, h.clock_eq, h.find?_eq⟩

/-- A batch leaves sessions alike. -/
lemma Alike.afterBatch (h : s.Alike P s') (p : Plan) (keys : List Key) :
    (s.afterBatch p keys).Alike P (s'.afterBatch p keys) := by
  refine ⟨(h.sent (.batch keys)).trace_eq, h.clock_eq, fun k hk => ?_⟩
  simp only [Session.afterBatch, Bucket.find?_eraseAll, h.trace_eq, h.find?_eq k hk]

/-- Alike sessions list the same below a key if everything below it satisfies `P`. -/
lemma Alike.listing_eq (h : s.Alike P s') {base : Key} (hbase : ∀ k, k.isBelow base = true → P k)
    (p : Plan) : p.listing s base = p.listing s' base := by
  have hentries : s.bucket.entriesBelow base = s'.bucket.entriesBelow base :=
    congrArg _ (Bucket.below_congr fun k hk => h.find?_eq k (hbase k hk))
  rw [Plan.listing, Plan.listing, h.trace_eq, hentries]

end Session

namespace RequestM

variable {α β : Type} {P : Key → Prop} {m : RequestM α} {f : α → RequestM β}

/-- The value `a` is what the computation comes to in some run. -/
def Yields (m : RequestM α) (a : α) : Prop :=
  ∃ p s s', m.runUnder p s = (.ok a, s')

/-- A computation that has to do with keys alone that satisfy `P`: what is found under others stays,
and of two runs on sessions that are alike, both come to the same and leave sessions alike. -/
structure Confined (P : Key → Prop) (m : RequestM α) : Prop where
  keeps : ∀ (p : Plan) (s : Session) (k : Key), ¬P k →
    (m.runUnder p s).2.bucket.find? k = s.bucket.find? k
  alike : ∀ (p : Plan) {s s' : Session}, s.Alike P s' →
    (m.runUnder p s).1 = (m.runUnder p s').1 ∧ (m.runUnder p s).2.Alike P (m.runUnder p s').2

/-! ## Putting computations together -/

/-- A value alone is confined. -/
lemma confined_pure (a : α) : Confined P (pure a) :=
  ⟨fun _ _ _ _ => rfl, fun _ _ _ h => ⟨rfl, h⟩⟩

/-- An error alone is confined. -/
lemma confined_throw (e : StorageError) : Confined P (throw e : RequestM α) :=
  ⟨fun _ _ _ _ => rfl, fun _ _ _ h => ⟨rfl, h⟩⟩

/-- A result known beforehand is confined. -/
lemma confined_ofExcept (x : Except StorageError α) : Confined P (MonadExcept.ofExcept x) := by
  cases x with
  | error e => exact confined_throw e
  | ok a => exact confined_pure a

/-- **Confined computations in sequence are confined.** The second need be so for values only that
the first can come to. -/
lemma Confined.bind (hm : Confined P m) (hf : ∀ a, m.Yields a → Confined P (f a)) :
    Confined P (m >>= f) where
  keeps := by
    intro p s k hk
    have hfirst := hm.keeps p s k hk
    rw [runUnder_bind]
    rcases hrun : m.runUnder p s with ⟨e | a, s₁⟩ <;> rw [hrun] at hfirst
    · exact hfirst
    · exact ((hf a ⟨p, s, s₁, hrun⟩).keeps p s₁ k hk).trans hfirst
  alike := by
    intro p s s' h
    obtain ⟨hresult, hsession⟩ := hm.alike p h
    rw [runUnder_bind, runUnder_bind]
    -- Both runs of the first computation come to the same, an error or a value.
    rcases hrun : m.runUnder p s with ⟨e | a, s₁⟩ <;>
      rcases hrun' : m.runUnder p s' with ⟨e' | a', s₁'⟩ <;>
      rw [hrun, hrun'] at hresult hsession <;> cases hresult
    · exact ⟨rfl, hsession⟩
    · exact (hf a ⟨p, s, s₁, hrun⟩).alike p hsession

/-- What follows a check is confined if it is so for what passes. -/
lemma confined_ofExcept_bind {x : Except StorageError α} (h : ∀ a, x = .ok a → Confined P (f a)) :
    Confined P (MonadExcept.ofExcept x >>= f) := by
  cases x with
  | error e =>
    rw [ofExcept_error_bind]
    exact confined_throw e
  | ok a =>
    rw [ofExcept_ok, pure_bind]
    exact h a rfl

/-- A value made of another is confined just as that one. -/
lemma Confined.map {g : α → β} (h : Confined P m) : Confined P (g <$> m) := by
  rw [map_eq_pure_bind]
  exact h.bind fun a _ => confined_pure (g a)

end RequestM

namespace Backend

open RequestM

variable {P : Key → Prop} {key base : Key}

/-- Counting has nothing to do with keys. -/
lemma confined_count (g : Counters → Counters) : Confined P (count g) :=
  ⟨fun _ _ _ _ => rfl, fun _ _ _ h => ⟨rfl, h.trace_eq, h.clock_eq, h.find?_eq⟩⟩

/-- A probe is confined to its key. -/
lemma confined_head (h : P key) : Confined P (head key) where
  keeps := by
    intro p s k _
    rw [runUnder_head, Session.bucket_sent]
  alike := by
    intro p s s' halike
    rw [runUnder_head, runUnder_head, halike.trace_eq, halike.find?_eq key h]
    exact ⟨rfl, halike.sent _⟩

/-- A fetch is confined to its key. -/
lemma confined_get (h : P key) : Confined P (get key) where
  keeps := by
    intro p s k _
    rw [runUnder_get, Session.bucket_sent]
  alike := by
    intro p s s' halike
    rw [runUnder_get, runUnder_get, halike.trace_eq, halike.find?_eq key h]
    exact ⟨rfl, halike.sent _⟩

/-- A write is confined to its key. -/
lemma confined_put (h : P key) (data : Octets) (contentType : String) :
    Confined P (put key data contentType) where
  keeps := by
    intro p s k hk
    have hne : k ≠ key := fun heq => hk (heq ▸ h)
    rw [runUnder_put]
    cases p.put s.trace key with
    | some error => rfl
    | none => exact (s.bucket.find?_put key k data contentType).trans (if_neg hne)
  alike := by
    intro p s s' halike
    rw [runUnder_put, runUnder_put, halike.trace_eq]
    cases p.put s'.trace key with
    | some error => exact ⟨rfl, halike.sent _⟩
    | none =>
      refine ⟨rfl, (halike.sent _).trace_eq, congrArg (· + 1) halike.clock_eq, fun k hk => ?_⟩
      simp only [Bucket.find?_put, halike.clock_eq, halike.find?_eq k hk]

/-- A deletion is confined to its key. -/
lemma confined_delete (h : P key) : Confined P (delete key) where
  keeps := by
    intro p s k hk
    have hne : k ≠ key := fun heq => hk (heq ▸ h)
    rw [runUnder_delete]
    cases p.delete s.trace key with
    | some error => rfl
    | none => exact (s.bucket.find?_erase key k).trans (if_neg hne)
  alike := by
    intro p s s' halike
    rw [runUnder_delete, runUnder_delete, halike.trace_eq]
    cases p.delete s'.trace key with
    | some error => exact ⟨rfl, halike.sent _⟩
    | none =>
      refine ⟨rfl, (halike.sent _).trace_eq, halike.clock_eq, fun k hk => ?_⟩
      simp only [Bucket.find?_erase, halike.find?_eq k hk]

/-- A listing is confined to what is below its key. -/
lemma confined_list (h : ∀ k, k.isBelow base = true → P k) : Confined P (list base) where
  keeps := by
    intro p s k _
    rw [runUnder_list, Session.bucket_sent]
  alike := by
    intro p s s' halike
    rw [runUnder_list, runUnder_list, halike.listing_eq h p]
    exact ⟨rfl, halike.sent _⟩

/-- A listing shows nothing but what is below its key. -/
lemma isBelow_of_yields_list {listing : Listing} (h : (list base).Yields listing) {entry : Entry}
    (hentry : entry ∈ listing.entries) : entry.key.isBelow base = true := by
  obtain ⟨p, s, s', hrun⟩ := h
  rw [runUnder_list] at hrun
  obtain rfl : p.listing s base = listing := Except.ok.inj (congrArg Prod.fst hrun)
  obtain ⟨⟨k, o⟩, hmem, rfl⟩ :=
    List.mem_map.1 ((BulkDelete.prefix_entries_listing p s base).subset hentry)
  exact ((s.bucket.mem_below_iff base).1 hmem).2

/-- A batch is confined to its keys. -/
lemma confined_deleteBatch {keys : List Key} (h : ∀ k ∈ keys, P k) :
    Confined P (deleteBatch keys) := by
  by_cases hkeys : keys = []
  · rw [hkeys]
    exact confined_pure ()
  · refine ⟨fun p s k hk => ?_, fun p s s' halike => ?_⟩
    · have hother : keys.contains k = false := by simpa using fun hmem => hk (h k hmem)
      rw [runUnder_deleteBatch hkeys]
      simp only [Session.afterBatch, Bucket.find?_eraseAll, hother, Bool.false_and,
        Bool.false_eq_true, if_false]
    · rw [runUnder_deleteBatch hkeys, runUnder_deleteBatch hkeys, halike.trace_eq]
      exact ⟨rfl, halike.afterBatch p keys⟩

end Backend

namespace BulkDelete

open RequestM

variable {P : Key → Prop}

/-- To submit pages is confined to the keys of their entries. -/
lemma confined_submit (submitted : ℕ) (pages : List (List Entry))
    (h : ∀ entry ∈ pages.flatten, P entry.key) : Confined P (submit submitted pages) := by
  induction pages generalizing submitted with
  | nil => exact confined_pure submitted
  | cons page rest ih =>
    simp only [List.flatten_cons, List.mem_append] at h
    have hkeys : ∀ k ∈ pageKeys page, P k := by
      intro k hk
      obtain ⟨entry, hentry, rfl⟩ := List.mem_map.1 (List.mem_filter.1 hk).1
      exact h entry (.inl hentry)
    have hrest (n : ℕ) : Confined P (submit n rest) := ih n fun entry hentry =>
      h entry (.inr hentry)
    rw [submit]
    split_ifs
    · exact hrest submitted
    · exact (Backend.confined_deleteBatch hkeys).bind fun _ _ => hrest _

/-- **A bulk deletion is confined to what is below its key.** -/
lemma confined_run {base : Key} (h : ∀ k, k.isBelow base = true → P k) (size : BatchSize) :
    Confined P (run base size) := by
  unfold run
  refine (Backend.confined_list h).bind fun listing hlisting => ?_
  have hpages : ∀ entry ∈ (listedPages size listing).flatten, P entry.key := fun entry hentry =>
    h _ (Backend.isBelow_of_yields_list hlisting
      ((prefix_flatten_listedPages size listing).subset hentry))
  refine (confined_submit 0 _ hpages).bind fun submitted _ => ?_
  cases listing.failure with
  | some error => exact confined_throw error
  | none => exact (Backend.confined_count _).bind fun _ _ => confined_pure submitted

end BulkDelete

end TileCache
