import TileCache.Proofs.Settlement
import TileCache.Proofs.Truthfulness
set_option autoImplicit false

/-!
# What a removal takes away

The removal of a layer or of a gridset returns whether there was anything. If it returns that there
was nothing, it has taken nothing away, whatever the plan. If it returns that there was something,
it has taken something away, provided that the answers of the bucket are true: that an object which
is said to be gone is gone. For a bulk deletion submits only keys of objects that there are, and a
batch succeeds only if one of its keys is said to be gone.

## Main definitions

* `TileCache.Plan.Truthful` — what is said to be gone is gone.
* `TileCache.Bucket.Loses` — something was taken out of a bucket.

## Main results

* `TileCache.BulkDelete.Swept.exists_removed` — a bulk deletion that does not fail takes a tile away
  if there is one.
* `TileCache.Store.loses_eraseLayer`, `TileCache.Store.loses_eraseGridset` — a removal returns that
  there was something just if it has taken something away.
-/

namespace TileCache

/-- The answers of the bucket are true: a request that is refused is not answered as if there were
no object, no more answers come than there are keys in a batch, and if one of them says that its key
is gone, a key of the batch is removed. -/
structure Plan.Truthful (p : Plan) : Prop extends Plan.Honest p where
  length_answers_le : ∀ past keys, (p.batch past keys).answers.length ≤ keys.length
  removes_of_isGone : ∀ past keys, ∀ answer ∈ (p.batch past keys).answers,
    Backend.isGone answer = true → ∃ k ∈ keys, (p.batch past keys).removes k = true

/-- If every request succeeds, all answers are true. -/
lemma Plan.truthful_faultless : Plan.Truthful .faultless where
  probes := nofun
  deletes := nofun
  length_answers_le past keys := (List.length_map _).le
  removes_of_isGone past keys answer hanswer _ := by
    obtain ⟨k, hk, -⟩ := List.mem_map.1 hanswer
    exact ⟨k, hk, List.contains_iff_mem.2 hk⟩

namespace Bucket

variable {P : Key → Prop} {base : Key} {b b' b'' : Bucket}

/-- Something was taken out of a bucket. -/
def Loses (b b' : Bucket) : Prop :=
  ∃ k o, b.find? k = some o ∧ b'.find? k = none

/-- What is not there is not in less of the bucket. -/
lemma Thinned.find?_eq_none (h : Thinned P b b') {k : Key} (hk : b.find? k = none) :
    b'.find? k = none := by
  rcases h.find?_eq k with heq | hgone
  · rw [heq, hk]
  · exact hgone.2

/-- What was taken out of a bucket is not in less of it. -/
lemma Loses.trans_thinned (h : b.Loses b') (h' : Thinned P b' b'') : b.Loses b'' := by
  obtain ⟨k, o, hfind, hgone⟩ := h
  exact ⟨k, o, hfind, h'.find?_eq_none hgone⟩

/-- Without tiles below a key, no tile below it can be taken away. -/
lemma Thinned.not_loses (h : Thinned (IsTileKey base) b b') (hnone : b.tileKeys base = []) :
    ¬b.Loses b' := by
  rintro ⟨k, o, hfind, hgone⟩
  rcases h.find?_eq k with heq | ⟨htile, -⟩
  · rw [heq, hfind] at hgone
    cases hgone
  · exact tileKeys_ne_nil_iff.2 ⟨k, o, hfind, htile⟩ hnone

end Bucket

namespace BulkDelete

variable {p : Plan} {s s' : Session} {base : Key} {size : BatchSize}

/-- **A batch that succeeds takes away one of its keys**, if all answers are true. -/
lemma exists_removed_of_batch (htruthful : p.Truthful) {keys : List Key} (hkeys : keys ≠ [])
    (hgranted : p.batchError s.trace keys = none) :
    ∃ k ∈ keys, (s.afterBatch p keys).bucket.find? k = none := by
  obtain ⟨-, answer, hanswer, hgone⟩ := (Backend.error_settle_eq_none_iff
    (List.length_pos_iff.2 hkeys) (htruthful.length_answers_le s.trace keys)).1 hgranted
  obtain ⟨k, hk, hremoved⟩ := htruthful.removes_of_isGone s.trace keys answer hanswer hgone
  refine ⟨k, hk, ?_⟩
  rw [Session.afterBatch, Bucket.find?_eraseAll, hremoved, List.contains_iff_mem.2 hk]
  rfl

/-- **A bulk deletion that does not fail takes a tile away if there is one**, if all answers are
true.

**Proof sketch.** The keys of the tiles are those of the batches. So there is a first batch; it
succeeds, and what it takes away the other batches do not put back. -/
lemma Swept.exists_removed {n : ℕ} (h : Swept p s base size (.ok n) s') (htruthful : p.Truthful)
    (hpos : 0 < n) : s.bucket.Loses s'.bucket := by
  cases h with
  | finished ended sent =>
    cases sent with
    | all granted =>
      have hflatten : (batches (pages size (s.bucket.entriesBelow base))).flatten =
          s.bucket.tileKeys base := by
        rw [flatten_batches, flatten_pages, pageKeys_entriesBelow]
      cases hbatches : batches (pages size (s.bucket.entriesBelow base)) with
      | nil =>
        rw [hbatches] at hflatten
        rw [← hflatten] at hpos
        exact absurd hpos (lt_irrefl 0)
      | cons keys rest =>
        rw [hbatches] at granted hflatten
        have hkeys : keys ≠ [] := ne_nil_of_mem_batches (hbatches ▸ List.mem_cons_self)
        obtain ⟨k, hk, hgone⟩ := exists_removed_of_batch htruthful hkeys granted.1
        have hmem : k ∈ s.bucket.tileKeys base := hflatten ▸ List.mem_append_left _ hk
        obtain ⟨⟨o, hfind⟩, -⟩ := (s.bucket.mem_tileKeys_iff base).1 hmem
        have hrest := ((s.sent (.list base)).afterBatch p keys).thinned_afterBatches p rest
        exact ⟨k, o, hfind, hrest.find?_eq_none hgone⟩

end BulkDelete

namespace Store

open RequestM BulkDelete

variable {s : Store} {p : Plan} {σ σ' : Session} {n g : String} {existed : Bool}

/-- **A removal of a layer**, and whether it took something away. -/
lemma loses_eraseLayer (h : (eraseLayer n s).runUnder p σ = (.ok existed, σ')) :
    (σ.bucket.Loses σ'.bucket → existed = true) ∧
      (p.Truthful → existed = true → σ.bucket.Loses σ'.bucket) := by
  cases hcheck : s.checkedLayer n with
  | error e =>
    unfold eraseLayer at h
    rw [← checkedLayer_bind, hcheck, ofExcept_error_bind] at h
    cases h
  | ok x =>
    obtain ⟨base, metadata⟩ := x
    obtain ⟨x, σ₁, herased, hrun⟩ := layerErased_eraseLayer hcheck p σ
    obtain ⟨rfl, rfl⟩ := Prod.mk.inj (h.symm.trans hrun)
    cases herased with
    | absent swept probe =>
      have hnone : σ.bucket.tileKeys base = [] := List.eq_nil_of_length_eq_zero swept.of_ok.1.symm
      rw [Backend.eq_sent_of_head probe, Session.bucket_sent]
      exact ⟨fun hloses => absurd hloses (swept.thinned.not_loses hnone), nofun⟩
    | removed swept found removal =>
      refine ⟨fun _ => rfl, fun htruthful _ => ?_⟩
      have hgone := Backend.bucket_of_delete_ok htruthful.toHonest removal
      rw [found.bucket_eq] at hgone
      cases found with
      | byTiles pos =>
        rw [hgone]
        exact (swept.exists_removed htruthful pos).trans_thinned
          (@Bucket.Thinned.of_erase (fun _ => True) _ _ trivial)
      | byMetadata probe =>
        -- without tiles it is the metadata that is taken away, as the probe has found it
        have hprobed := Backend.eq_map_info_of_head htruthful.probes probe
        obtain ⟨o, hfind, -⟩ := Option.map_eq_some_iff.1 hprobed.symm
        have hmetadata := Layout.isMetadata_metadata (checkedLayer_eq_ok_iff.1 hcheck).2.1
        rw [swept.thinned.find?_of_not (Bucket.not_isTileKey_of_isMetadata hmetadata)] at hfind
        refine ⟨metadata, o, hfind, ?_⟩
        rw [hgone, Bucket.find?_erase, if_pos rfl]

/-- **A removal of a gridset**, and whether it took something away. -/
lemma loses_eraseGridset (h : (eraseGridset n g s).runUnder p σ = (.ok existed, σ')) :
    (σ.bucket.Loses σ'.bucket → existed = true) ∧
      (p.Truthful → existed = true → σ.bucket.Loses σ'.bucket) := by
  unfold eraseGridset at h
  rw [← checkedGridset_bind, runUnder_ofExcept_bind_eq_ok_iff] at h
  obtain ⟨base, -, h⟩ := h
  obtain ⟨submitted, σ₁, hrun, h⟩ := runUnder_bind_eq_ok_iff.1 h
  obtain ⟨x, σ₂, hswept, hrun'⟩ := swept_run p σ base s.batchSize
  obtain ⟨rfl, rfl⟩ := Prod.mk.inj (hrun.symm.trans hrun')
  cases h
  simp only [decide_eq_true_eq]
  refine ⟨fun hloses => ?_, fun htruthful hpos => hswept.exists_removed htruthful hpos⟩
  by_contra hzero
  have hlength := hswept.of_ok.1
  have hnone : σ.bucket.tileKeys base = [] := List.eq_nil_of_length_eq_zero (by omega)
  exact hswept.thinned.not_loses hnone hloses

end Store

end TileCache
