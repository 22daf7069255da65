import TileCache.Proofs.Effect
set_option autoImplicit false

/-!
# Removing a layer under any plan

A layer is removed by a bulk deletion of its tiles, a probe of its metadata if there were no tiles,
and the deletion of the metadata, in this order. Whatever request fails, the removal ends there, so
that metadata is deleted last or not at all, and nobody hears of a removal that failed.

## Main definitions

* `TileCache.Store.LayerErased` — how the removal of a layer may go.
* `TileCache.Store.MetadataLast` — metadata is deleted at the end or not at all.
* `TileCache.World.oneRoad`, `TileCache.Context.deleteDenied` — a bucket with one tile, and requests
  of which some fail.

## Main results

* `TileCache.Store.layerErased_eraseLayer` — these are all the ways in which it may go.
* `TileCache.Store.LayerErased.thinned`, `thinned_of_error` — what is taken away at most.
* `TileCache.Store.LayerErased.requests` — when the metadata is deleted.
* `TileCache.Store.LayerErased.ok_true_iff` — when a layer was there.
* `TileCache.Store.runIn_deleteLayer` — what the listeners hear.
* `TileCache.Store.failed_deleteLayer_keeps_metadata` — a removal that fails loses no metadata.
-/

namespace TileCache

namespace Store

open RequestM BulkDelete

variable {p : Plan} {s s' : Session} {size : BatchSize} {base metadata : Key}
  {x : Except StorageError Bool} {e : StorageError}

/-! ## How a removal may go -/

/-- How a layer is found to be there after a bulk deletion that submitted `n` keys: by these, or by
a probe of its metadata if there were none. -/
inductive LayerFound (p : Plan) (metadata : Key) : ℕ → Session → Session → Prop
  | byTiles {n : ℕ} {s : Session} (pos : 0 < n) : LayerFound p metadata n s s
  | byMetadata {info : ObjectInfo} {s s' : Session}
      (probe : (Backend.head metadata).runUnder p s = (.ok (some info), s')) :
      LayerFound p metadata 0 s s'

/-- How the removal of a layer may go, by the request at which it ends. -/
inductive LayerErased (p : Plan) (s : Session) (size : BatchSize) (base metadata : Key) :
    Except StorageError Bool → Session → Prop
  /-- The bulk deletion fails. -/
  | unswept {e : StorageError} {s' : Session} (swept : Swept p s base size (.error e) s') :
      LayerErased p s size base metadata (.error e) s'
  /-- There are no tiles, and the probe fails. -/
  | unprobed {e : StorageError} {s₁ s' : Session} (swept : Swept p s base size (.ok 0) s₁)
      (probe : (Backend.head metadata).runUnder p s₁ = (.error e, s')) :
      LayerErased p s size base metadata (.error e) s'
  /-- There are no tiles, and the probe finds nothing. -/
  | absent {s₁ s' : Session} (swept : Swept p s base size (.ok 0) s₁)
      (probe : (Backend.head metadata).runUnder p s₁ = (.ok none, s')) :
      LayerErased p s size base metadata (.ok false) s'
  /-- The layer is there, and the deletion of its metadata fails. -/
  | kept {e : StorageError} {n : ℕ} {s₁ s₂ s' : Session} (swept : Swept p s base size (.ok n) s₁)
      (found : LayerFound p metadata n s₁ s₂)
      (refused : (Backend.delete metadata).runUnder p s₂ = (.error e, s')) :
      LayerErased p s size base metadata (.error e) s'
  /-- The layer is there and is removed. -/
  | removed {n : ℕ} {s₁ s₂ s' : Session} (swept : Swept p s base size (.ok n) s₁)
      (found : LayerFound p metadata n s₁ s₂)
      (removal : (Backend.delete metadata).runUnder p s₂ = (.ok (), s')) :
      LayerErased p s size base metadata (.ok true) s'

/-- What follows once a layer is found to be there: its metadata is deleted. -/
lemma LayerFound.exists_erased {n : ℕ} {s₁ s₂ : Session} (swept : Swept p s base size (.ok n) s₁)
    (found : LayerFound p metadata n s₁ s₂) :
    ∃ x s', LayerErased p s size base metadata x s' ∧
      (Backend.delete metadata >>= fun _ => pure true).runUnder p s₂ = (x, s') := by
  cases hdelete : (Backend.delete metadata).runUnder p s₂ with
  | mk y s' =>
    cases y with
    | error e => exact ⟨_, _, .kept swept found hdelete, runUnder_bind_error hdelete⟩
    | ok u => exact ⟨_, _, .removed swept found hdelete, runUnder_bind_ok hdelete⟩

/-- **The removal of a layer goes in one of these ways.** -/
lemma layerErased_eraseLayer {store : Store} {n : String}
    (h : store.checkedLayer n = .ok (base, metadata)) (p : Plan) (s : Session) :
    ∃ x s', LayerErased p s store.batchSize base metadata x s' ∧
      (eraseLayer n store).runUnder p s = (x, s') := by
  unfold eraseLayer
  rw [← checkedLayer_bind, h, ofExcept_ok, pure_bind]
  obtain ⟨y, s₁, hswept, hrun⟩ := swept_run p s base store.batchSize
  cases y with
  | error e => exact ⟨_, _, .unswept hswept, runUnder_bind_error hrun⟩
  | ok submitted =>
    rw [runUnder_bind_ok hrun]
    rcases Nat.eq_zero_or_pos submitted with rfl | hpos
    · cases hhead : (Backend.head metadata).runUnder p s₁ with
      | mk z s₂ =>
        simp only [lt_irrefl, if_false]
        cases z with
        | error e => exact ⟨_, _, .unprobed hswept hhead, runUnder_bind_error hhead⟩
        | ok info =>
          rw [runUnder_bind_ok hhead, pure_bind]
          cases info with
          | none => exact ⟨_, _, .absent hswept hhead, rfl⟩
          | some info => exact (LayerFound.byMetadata hhead).exists_erased hswept
    · simp only [if_pos hpos, pure_bind]
      exact (LayerFound.byTiles hpos).exists_erased hswept

/-! ## What is taken away -/

/-- The search for a layer leaves the bucket as it is. -/
lemma LayerFound.bucket_eq {n : ℕ} (h : LayerFound p metadata n s s') : s'.bucket = s.bucket := by
  cases h with
  | byTiles pos => rfl
  | byMetadata probe => rw [Backend.eq_sent_of_head probe, Session.bucket_sent]

/-- The search for a layer requests a probe at most. -/
lemma LayerFound.requests {n : ℕ} (h : LayerFound p metadata n s s') :
    ∃ probe, (probe = [] ∨ probe = [.head metadata]) ∧ s'.trace = s.trace ++ probe := by
  cases h with
  | byTiles pos => exact ⟨[], .inl rfl, (List.append_nil _).symm⟩
  | byMetadata probe => exact ⟨_, .inr rfl, by rw [Backend.eq_sent_of_head probe]; rfl⟩

/-- Among these requests no key is deleted by itself, or only that of the metadata, at the end,
after a listing that came to its end, all batches that it makes, none of which failed, and a probe
at most. -/
def MetadataLast (p : Plan) (s : Session) (size : BatchSize) (base metadata : Key)
    (requests : List Request) : Prop :=
  ∀ k, .delete k ∈ requests → k = metadata ∧ ∃ probe,
    requests = .list base :: (batches (pages size (s.bucket.entriesBelow base))).map .batch ++
      probe ++ [.delete metadata] ∧
    (probe = [] ∨ probe = [.head metadata]) ∧ p.list s.trace base = none ∧
    p.Grants (s.trace ++ [.list base]) (batches (pages size (s.bucket.entriesBelow base)))

/-- No key may be deleted by itself. -/
lemma MetadataLast.of_not_mem {requests : List Request} (h : ∀ k, .delete k ∉ requests) :
    MetadataLast p s size base metadata requests :=
  fun k hk => absurd hk (h k)

namespace LayerErased

/-- **A removal that fails takes away tiles of the layer at most.** -/
lemma thinned_of_error (h : LayerErased p s size base metadata (.error e) s') :
    Bucket.Thinned (Bucket.IsTileKey base) s.bucket s'.bucket := by
  cases h with
  | unswept swept => exact swept.thinned
  | unprobed swept probe =>
    rw [Backend.eq_sent_of_head probe, Session.bucket_sent]
    exact swept.thinned
  | kept swept found refused =>
    rcases Backend.bucket_of_delete refused with hbucket | ⟨-, hok⟩
    · rw [hbucket, found.bucket_eq]
      exact swept.thinned
    · cases hok

/-- A removal that finds no layer takes away tiles of the layer at most. -/
lemma thinned_of_absent (h : LayerErased p s size base metadata (.ok false) s') :
    Bucket.Thinned (Bucket.IsTileKey base) s.bucket s'.bucket := by
  cases h with
  | absent swept probe =>
    rw [Backend.eq_sent_of_head probe, Session.bucket_sent]
    exact swept.thinned

/-- **A removal takes away tiles of the layer and its metadata at most.** -/
lemma thinned (h : LayerErased p s size base metadata x s') :
    Bucket.Thinned (fun k => Bucket.IsTileKey base k ∨ k = metadata) s.bucket s'.bucket := by
  rcases x with e | _ | _
  · exact h.thinned_of_error.mono fun k => Or.inl
  · exact h.thinned_of_absent.mono fun k => Or.inl
  · cases h with
    | removed swept found removal =>
      refine (swept.thinned.mono fun k => Or.inl).trans ?_
      rw [← found.bucket_eq]
      rcases Backend.bucket_of_delete removal with hbucket | ⟨hbucket, -⟩
      · rw [hbucket]
        exact .refl _ _
      · rw [hbucket]
        exact .of_erase (.inr rfl)

/-- **The metadata is deleted last**, after the end of the listing and of all its batches, none of
which failed. No other key is deleted by itself. -/
lemma requests (h : LayerErased p s size base metadata x s') :
    ∃ requests, s'.trace = s.trace ++ requests ∧
      MetadataLast p s size base metadata requests := by
  have hremoval {n : ℕ} {s₁ s₂ : Session} {y : Except StorageError Unit}
      (swept : Swept p s base size (.ok n) s₁) (found : LayerFound p metadata n s₁ s₂)
      (removal : (Backend.delete metadata).runUnder p s₂ = (y, s')) :
      ∃ requests, s'.trace = s.trace ++ requests ∧
        MetadataLast p s size base metadata requests := by
    obtain ⟨-, hended, hgranted, htrace⟩ := swept.of_ok
    obtain ⟨probe, hprobe, htrace'⟩ := found.requests
    refine ⟨_, ?_, fun k hk => ⟨?_, probe, rfl, hprobe, hended, hgranted⟩⟩
    · rw [Backend.trace_of_delete removal, htrace', htrace]
      simp
    · rcases hprobe with rfl | rfl <;> simpa using hk
  have hprobed {n : ℕ} {s₁ : Session} {y : Except StorageError (Option ObjectInfo)}
      (swept : Swept p s base size (.ok n) s₁)
      (probe : (Backend.head metadata).runUnder p s₁ = (y, s')) :
      ∃ requests, s'.trace = s.trace ++ requests ∧
        MetadataLast p s size base metadata requests := by
    obtain ⟨sent, htrace⟩ := swept.requests
    refine ⟨.list base :: sent.map .batch ++ [.head metadata], ?_, .of_not_mem (by simp)⟩
    rw [Backend.eq_sent_of_head probe, Session.sent, htrace, List.append_assoc]
  cases h with
  | unswept swept =>
    obtain ⟨sent, htrace⟩ := swept.requests
    exact ⟨_, htrace, .of_not_mem (by simp)⟩
  | unprobed swept probe => exact hprobed swept probe
  | absent swept probe => exact hprobed swept probe
  | kept swept found refused => exact hremoval swept found refused
  | removed swept found removal => exact hremoval swept found removal

end LayerErased

/-- **A removal that does not fail tells whether there was a layer**: a tile of it, or its metadata.
-/
lemma LayerErased.ok_true_iff {existed : Bool}
    (h : LayerErased p s size base metadata (.ok existed) s') (hhonest : p.ProbesHonestly)
    (hmetadata : Layout.isMetadata metadata = true) :
    existed = true ↔ s.bucket.tileKeys base ≠ [] ∨ s.bucket.find? metadata ≠ none := by
  have hprobed {s₁ s₂ : Session} {info : Option ObjectInfo} (swept : Swept p s base size (.ok 0) s₁)
      (probe : (Backend.head metadata).runUnder p s₁ = (.ok info, s₂)) :
      info = (s.bucket.find? metadata).map StoredObject.info := by
    rw [Backend.eq_map_info_of_head hhonest probe,
      swept.thinned.find?_of_not (Bucket.not_isTileKey_of_isMetadata hmetadata)]
  cases h with
  | absent swept probe =>
    have htiles : s.bucket.tileKeys base = [] :=
      List.eq_nil_of_length_eq_zero swept.of_ok.1.symm
    have hfind : s.bucket.find? metadata = none := by simpa using (hprobed swept probe).symm
    simp [htiles, hfind]
  | @removed n s₁ s₂ s' swept found removal =>
    refine iff_of_true rfl ?_
    cases found with
    | byTiles pos =>
      refine .inl fun htiles => ?_
      rw [swept.of_ok.1, htiles] at pos
      exact absurd pos (lt_irrefl 0)
    | byMetadata probe =>
      refine .inr fun hfind => ?_
      have hinfo := hprobed swept probe
      rw [hfind] at hinfo
      cases hinfo

/-! ## Calls -/

variable {ctx : Context} {w : World} {n : String}

/-- A call tells the listeners of a layer that was removed, and of nothing else. -/
lemma runIn_deleteLayer {session : Session}
    (h : (eraseLayer n w.store).runUnder ctx.plan w.session = (x, session)) :
    (deleteLayer n).runIn ctx w =
      match x with
      | .error e => (.failed e, { w with session })
      | .ok false => (.returned false, { w with session })
      | .ok true =>
        let d := w.store.notify ctx.callbacks w.deliveries (some (.layerDeleted n))
        (d.panic.elim (.returned true) .panicked, { w.told d with session }) := by
  rw [deleteLayer, StoreM.runIn_bind, StoreM.runIn_request h]
  rcases x with e | _ | _
  · rfl
  · rfl
  · exact StoreM.runIn_announce _ _

/-- After a call the bucket is the one that its requests leave. -/
lemma session_deleteLayer {session : Session}
    (h : (eraseLayer n w.store).runUnder ctx.plan w.session = (x, session)) :
    ((deleteLayer n).runIn ctx w).2.session = session := by
  rw [runIn_deleteLayer h]
  rcases x with e | _ | _ <;> rfl

/-- A call changes nothing of the store but its listeners. -/
lemma exists_listeners_deleteLayer (ctx : Context) (w : World) (n : String) :
    ∃ listeners, ((deleteLayer n).runIn ctx w).2.store = { w.store with listeners } := by
  cases hrun : (eraseLayer n w.store).runUnder ctx.plan w.session with
  | mk x session =>
    rw [runIn_deleteLayer hrun]
    rcases x with e | _ | _
    · exact ⟨_, rfl⟩
    · exact ⟨_, rfl⟩
    · exact ⟨_, rfl⟩

/-- A call leaves the check of the layer as it is. -/
lemma checkedLayer_deleteLayer (ctx : Context) (w : World) (n : String) :
    ((deleteLayer n).runIn ctx w).2.store.checkedLayer n = w.store.checkedLayer n := by
  obtain ⟨listeners, hstore⟩ := exists_listeners_deleteLayer ctx w n
  rw [hstore]
  rfl

/-- A call fails just if its requests fail, and then nobody hears of it. -/
lemma runIn_deleteLayer_failed {session : Session}
    (h : (eraseLayer n w.store).runUnder ctx.plan w.session = (x, session))
    (hfailed : ((deleteLayer n).runIn ctx w).1 = .failed e) :
    x = .error e ∧ ((deleteLayer n).runIn ctx w).2 = { w with session } := by
  rw [runIn_deleteLayer h] at hfailed ⊢
  rcases x with e' | _ | _
  · cases hfailed
    exact ⟨rfl, rfl⟩
  · cases hfailed
  · simp only at hfailed
    generalize (w.store.notify ctx.callbacks w.deliveries (some (.layerDeleted n))).panic = panic
      at hfailed
    cases panic <;> cases hfailed

/-- A call that returns has returned what its requests came to. -/
lemma runIn_deleteLayer_returned {session : Session} {existed : Bool}
    (h : (eraseLayer n w.store).runUnder ctx.plan w.session = (x, session))
    (hreturned : ((deleteLayer n).runIn ctx w).1 = .returned existed) : x = .ok existed := by
  rw [runIn_deleteLayer h] at hreturned
  rcases x with e' | _ | _
  · cases hreturned
  · cases hreturned
    rfl
  · simp only at hreturned
    generalize (w.store.notify ctx.callbacks w.deliveries (some (.layerDeleted n))).panic = panic
      at hreturned
    cases panic <;> cases hreturned
    rfl

/-- A layer that does not pass its check is not removed, and the world stays as it is. -/
lemma runIn_deleteLayer_error (h : w.store.checkedLayer n = .error e) :
    (deleteLayer n).runIn ctx w = (.failed e, w) := by
  have hrun : (eraseLayer n w.store).runUnder ctx.plan w.session = (.error e, w.session) := by
    unfold eraseLayer
    rw [← checkedLayer_bind, h]
    rfl
  rw [runIn_deleteLayer hrun]

/-- **A removal that fails loses no metadata.** Whatever requests fail while a layer is removed, its
metadata is asked to be deleted last, after the end of the listing and of all its batches, none of
which failed; and no other key is deleted by itself. If the call fails, then the metadata of the
layer is found as it was, and so are all other objects that are called like metadata, and all
objects that are not strictly below the key of the layer; nobody hears of anything, and the store is
as it was.

**Proof sketch.** By the ways in which a removal may go: one that fails has taken away tiles of the
layer at most, which are below its key and not called like metadata. -/
theorem failed_deleteLayer_keeps_metadata (ctx : Context) (w : World) (n : String) :
    let after := ((deleteLayer n).runIn ctx w).2
    (∃ requests, after.session.trace = w.session.trace ++ requests ∧
      ∀ k, .delete k ∈ requests → ∃ base, w.store.layout.layer n = .ok base ∧
        w.store.layout.metadata n = .ok k ∧
        MetadataLast ctx.plan w.session w.store.batchSize base k requests) ∧
    ∀ e, ((deleteLayer n).runIn ctx w).1 = .failed e →
      (∀ metadata, w.store.layout.metadata n = .ok metadata →
        after.session.bucket.find? metadata = w.session.bucket.find? metadata) ∧
      (∀ k, Layout.isMetadata k = true →
        after.session.bucket.find? k = w.session.bucket.find? k) ∧
      (∀ k, (∀ base, w.store.layout.layer n = .ok base → k.isBelow base = false) →
        after.session.bucket.find? k = w.session.bucket.find? k) ∧
      after.deliveries = w.deliveries ∧ after.store = w.store := by
  intro after
  cases hcheck : w.store.checkedLayer n with
  | error e =>
    have hafter : after = w := congrArg Prod.snd (runIn_deleteLayer_error hcheck)
    rw [hafter]
    exact ⟨⟨[], by simp, by simp⟩, by simp⟩
  | ok keys =>
    obtain ⟨base, metadata⟩ := keys
    obtain ⟨hbase, hmetadata, -⟩ := checkedLayer_eq_ok_iff.1 hcheck
    obtain ⟨x, session, herased, hrun⟩ := layerErased_eraseLayer hcheck ctx.plan w.session
    have hsession : after.session = session := session_deleteLayer hrun
    refine ⟨?_, fun e he => ?_⟩
    · obtain ⟨requests, htrace, hlast⟩ := herased.requests
      refine ⟨requests, by rw [hsession, htrace], fun k hk => ?_⟩
      obtain ⟨rfl, -⟩ := hlast k hk
      exact ⟨base, hbase, hmetadata, hlast⟩
    · obtain ⟨rfl, hworld⟩ := runIn_deleteLayer_failed hrun he
      have hthinned := herased.thinned_of_error
      have hkept (k : Key) (hk : Layout.isMetadata k = true) :
          after.session.bucket.find? k = w.session.bucket.find? k := by
        rw [hsession]
        exact hthinned.find?_of_not (Bucket.not_isTileKey_of_isMetadata hk)
      refine ⟨fun m hm => hkept m (Layout.isMetadata_metadata hm), hkept, fun k hk => ?_,
        (congrArg World.deliveries hworld :), (congrArg World.store hworld :)⟩
      rw [hsession]
      exact hthinned.find?_of_not fun htile =>
        Bool.false_ne_true ((hk base hbase).symm.trans htile.1)

end Store

/-- A store with a listener, over a bucket that holds one tile of the layer `roads` and nothing
else. -/
def World.oneRoad : World :=
  let tile : Tile := { layer := "roads", gridset := "EPSG:4326", coord := ⟨0, 0, 0⟩,
                       format := "image/png" }
  let empty : World := { store := { Store.ofRoot "gwc" with listeners := ⟨[.named "log"]⟩ } }
  empty.after {} [.put (tile.withBlob [1, 2, 3])]

/-- Nothing fails but deletions of single keys. -/
def Context.deleteDenied : Context :=
  { plan := ({ delete := some .denied } : Faults).plan }

/-- The tile of a layer is taken away, and its metadata is refused to be: the call fails, nobody
hears of it, and the metadata is there. -/
theorem Store.oneRoad_keeps_metadata :
    let w := World.oneRoad.after {} [.putMetadata "roads" "title" "Roads"]
    let call := (Store.deleteLayer "roads").runIn .deleteDenied w
    let metadata := Key.ofText "gwc/roads/metadata.properties"
    call.1 = .failed (Backend.refusal "delete" metadata.text (.denied metadata.text "403")) ∧
      call.2.session.bucket.tileKeys (Key.ofText "gwc/roads") = [] ∧
      (call.2.session.bucket.find? metadata).map (·.data) = some (Utf8.encode "title=Roads\n") ∧
      call.2.deliveries = w.deliveries := by
  intro w call metadata
  have hfailed : call.1 =
      .failed (Backend.refusal "delete" metadata.text (.denied metadata.text "403")) := by
    decide +kernel
  obtain ⟨-, hkept⟩ := Store.failed_deleteLayer_keeps_metadata .deleteDenied w "roads"
  obtain ⟨hmetadata, -, -, hdeliveries, -⟩ := hkept _ hfailed
  refine ⟨hfailed, by decide +kernel, ?_, hdeliveries⟩
  rw [hmetadata metadata (by decide +kernel)]
  decide +kernel

end TileCache
