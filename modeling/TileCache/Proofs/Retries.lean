import TileCache.Proofs.LayerDeletion
set_option autoImplicit false

/-!
# Removing a layer again after a failure

A removal that failed may have taken away some of the tiles, and even one that succeeded may have
left some behind, if a batch was only deleted in part. Whoever tries again, as often as it takes,
ends with the bucket that one removal without failures would have left.

## Main definitions

* `TileCache.World.afterAttempts` — the world after some attempts.
* `TileCache.Bucket.withoutLayer` — the bucket without a layer.

## Main results

* `TileCache.Store.thinned_deleteLayer`, `thinned_afterAttempts` — what attempts take away at most.
* `TileCache.Store.bucket_deleteLayer_faultless`, `bucket_afterAttempts_faultless` — what one
  without failures takes away, and attempts of which the last is such a one.
* `TileCache.Store.retries_converge` — what attempts leave in the end.
-/

namespace TileCache

/-- The world after attempts to remove a layer, one for each context, whatever becomes of them. -/
def World.afterAttempts (w : World) (n : String) (attempts : List Context) : World :=
  attempts.foldl (fun w ctx => ((Store.deleteLayer n).runIn ctx w).2) w

/-- Of several attempts the later ones are made in the world that the earlier ones leave. -/
lemma World.afterAttempts_append (w : World) (n : String) (attempts attempts' : List Context) :
    w.afterAttempts n (attempts ++ attempts') =
      (w.afterAttempts n attempts).afterAttempts n attempts' :=
  List.foldl_append

/-! ## What attempts leave -/

/-- The bucket without the tiles below the key of a layer and without its metadata. -/
def Bucket.withoutLayer (b : Bucket) (base metadata : Key) : Bucket :=
  (b.clearBelow base).erase metadata

namespace Bucket

variable {b b' : Bucket} {base metadata : Key}

/-- What is found without the layer. -/
lemma find?_withoutLayer (k : Key) :
    (b.withoutLayer base metadata).find? k =
      if IsTileKey base k ∨ k = metadata then none else b.find? k := by
  rw [withoutLayer, find?_erase, find?_clearBelow]
  by_cases hk : k = metadata <;> simp [hk, IsTileKey]

/-- A bucket without some objects of a layer is, without the layer, as if it had them. -/
lemma Thinned.withoutLayer_eq
    (h : Thinned (fun k => IsTileKey base k ∨ k = metadata) b b') :
    b'.withoutLayer base metadata = b.withoutLayer base metadata := by
  refine ext_find? h.clock_eq fun k => ?_
  rw [find?_withoutLayer, find?_withoutLayer]
  split_ifs with hk
  · rfl
  · exact h.find?_of_not hk

/-- Without tiles and metadata there is no layer. -/
lemma withoutLayer_of_absent (htiles : b.tileKeys base = []) (hmetadata : b.find? metadata = none) :
    b.withoutLayer base metadata = b := by
  rw [withoutLayer, clearBelow_of_tileKeys_eq_nil b base htiles, erase_of_find?_eq_none b hmetadata]

end Bucket

namespace Store

variable {ctx : Context} {w : World} {n : String} {base metadata : Key}

/-- **An attempt takes away objects of the layer at most**, whatever fails. -/
lemma thinned_deleteLayer (h : w.store.checkedLayer n = .ok (base, metadata)) (ctx : Context) :
    Bucket.Thinned (fun k => Bucket.IsTileKey base k ∨ k = metadata) w.session.bucket
      ((deleteLayer n).runIn ctx w).2.session.bucket := by
  obtain ⟨x, session, herased, hrun⟩ := layerErased_eraseLayer h ctx.plan w.session
  rw [session_deleteLayer hrun]
  exact herased.thinned

/-- An attempt of which no request fails leaves the bucket that its requests are known to leave. -/
lemma bucket_deleteLayer_of_serves (hplan : ctx.plan = .faultless) {x : Except StorageError Bool}
    {b : Bucket} (h : (eraseLayer n w.store).Serves w.session.bucket x b) :
    ((deleteLayer n).runIn ctx w).2.session.bucket = b := by
  obtain ⟨session, hrun, hbucket⟩ := h w.session rfl
  rw [← hplan] at hrun
  rw [session_deleteLayer hrun, hbucket]

/-- **An attempt without failures takes away the layer.** -/
lemma bucket_deleteLayer_faultless (h : w.store.checkedLayer n = .ok (base, metadata))
    (hplan : ctx.plan = .faultless) :
    ((deleteLayer n).runIn ctx w).2.session.bucket =
      w.session.bucket.withoutLayer base metadata := by
  by_cases habsent :
      w.session.bucket.tileKeys base = [] ∧ w.session.bucket.find? metadata = none
  · rw [Bucket.withoutLayer_of_absent habsent.1 habsent.2]
    exact bucket_deleteLayer_of_serves hplan
      (serves_eraseLayer_none w.session.bucket h habsent.1 habsent.2)
  · exact bucket_deleteLayer_of_serves hplan
      (serves_eraseLayer_some w.session.bucket h (by tauto))

/-- Attempts take away objects of the layer at most, and leave its check as it is. -/
lemma thinned_afterAttempts (h : w.store.checkedLayer n = .ok (base, metadata))
    (attempts : List Context) :
    (w.afterAttempts n attempts).store.checkedLayer n = .ok (base, metadata) ∧
      Bucket.Thinned (fun k => Bucket.IsTileKey base k ∨ k = metadata) w.session.bucket
        (w.afterAttempts n attempts).session.bucket := by
  induction attempts generalizing w with
  | nil => exact ⟨h, .refl _ _⟩
  | cons ctx rest ih =>
    obtain ⟨hcheck, hthinned⟩ := ih ((checkedLayer_deleteLayer ctx w n).trans h)
    exact ⟨hcheck, (thinned_deleteLayer h ctx).trans hthinned⟩

/-- Attempts to remove what is no layer, or with a store that was shut down, change nothing. -/
lemma afterAttempts_of_error {e : StorageError} (h : w.store.checkedLayer n = .error e)
    (attempts : List Context) : w.afterAttempts n attempts = w := by
  induction attempts with
  | nil => rfl
  | cons ctx rest ih =>
    rw [World.afterAttempts, List.foldl_cons, runIn_deleteLayer_error h]
    exact ih

/-- **Attempts of which the last is without failures take away the layer**, whatever the others took
away: objects of the layer at most, so that the last one makes up for it. -/
lemma bucket_afterAttempts_faultless (h : w.store.checkedLayer n = .ok (base, metadata))
    (attempts : List Context) (callbacks : Callbacks) :
    (w.afterAttempts n (attempts ++ [⟨.faultless, callbacks⟩])).session.bucket =
      w.session.bucket.withoutLayer base metadata := by
  obtain ⟨hcheck, hthinned⟩ := thinned_afterAttempts h attempts
  rw [World.afterAttempts_append, ← hthinned.withoutLayer_eq]
  exact bucket_deleteLayer_faultless hcheck rfl

/-- **Attempts to remove a layer converge.** Let a layer be asked to be removed any number of times,
while requests fail in any way: requests that are refused, listings that break off, batches of which
only a part is deleted. If it is then asked once more and no request fails, the bucket is the one
that a single removal without failures makes of the bucket at the beginning: all objects strictly
below the key of the layer are gone but those called like metadata, the metadata of the layer is
gone, and all else is as it was.

**Proof sketch.** Both are attempts of which the last is without failures: one that follows others,
and one that follows none. What is no layer, and a store that was shut down, stay as they are. -/
theorem retries_converge (w : World) (n : String) (attempts : List Context)
    (callbacks callbacks' : Callbacks) :
    let retried := (w.afterAttempts n (attempts ++ [⟨.faultless, callbacks⟩])).session.bucket
    let direct := (w.afterAttempts n [⟨.faultless, callbacks'⟩]).session.bucket
    retried = direct ∧ direct.clock = w.session.bucket.clock ∧
      ∀ base metadata, w.store.layout.layer n = .ok base →
        w.store.layout.metadata n = .ok metadata → w.store.live = true →
        ∀ k, direct.find? k =
          if k.isBelow base = true ∧ Layout.isMetadata k = false ∨ k = metadata then none
          else w.session.bucket.find? k := by
  intro retried direct
  cases hcheck : w.store.checkedLayer n with
  | error e =>
    have hretried : retried = w.session.bucket :=
      congrArg (·.session.bucket) (afterAttempts_of_error hcheck _)
    have hdirect : direct = w.session.bucket :=
      congrArg (·.session.bucket) (afterAttempts_of_error hcheck _)
    refine ⟨hretried.trans hdirect.symm, by rw [hdirect], fun base metadata hb hm hlive => ?_⟩
    rw [checkedLayer_eq_ok_iff.2 ⟨hb, hm, hlive⟩] at hcheck
    cases hcheck
  | ok keys =>
    obtain ⟨base, metadata⟩ := keys
    have hretried : retried = w.session.bucket.withoutLayer base metadata :=
      bucket_afterAttempts_faultless hcheck attempts callbacks
    have hdirect : direct = w.session.bucket.withoutLayer base metadata :=
      bucket_afterAttempts_faultless hcheck [] callbacks'
    refine ⟨hretried.trans hdirect.symm, by rw [hdirect]; rfl, ?_⟩
    intro base' metadata' hb hm hlive k
    have hkeys := hcheck.symm.trans (checkedLayer_eq_ok_iff.2 ⟨hb, hm, hlive⟩)
    cases hkeys
    rw [hdirect]
    exact Bucket.find?_withoutLayer k

end Store

end TileCache
