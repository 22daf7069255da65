import TileCache.Proofs.LayerDeletion
import TileCache.Proofs.TileRequests
set_option autoImplicit false

/-!
# Events tell the truth about the bucket

Whatever requests fail, the listeners are told of what happened to the bucket and of nothing else.
What an event says of an object before the call comes from a probe that the call made. So the events
are true of every bucket, also of one that others wrote to, provided that a request which is refused
is not answered as if there were no object.

## Main definitions

* `TileCache.Plan.Honest` — refused requests are not answered as if there were no object.

## Main results

* `TileCache.Store.TileWritten.event_eq`, `TileErased.size_eq` — what the probes of tiles tell.
* `TileCache.Store.layer_of_eraseLayer`, `gridset_of_eraseGridset` — when there was anything.
* `TileCache.Store.trace_writeTile_unheard` — without listeners nothing is probed.
* `TileCache.Operation.events_tell_truth` — who is told of what.
-/

namespace TileCache

/-- Neither a probe nor a deletion that is refused is answered as if there were no object. -/
structure Plan.Honest (p : Plan) : Prop where
  probes : p.ProbesHonestly
  deletes : ∀ past key error, p.delete past key = some error → error.isNotFound = false

/-- There are keys of tiles below a key just if there are objects with such keys. -/
lemma Bucket.tileKeys_ne_nil_iff {b : Bucket} {base : Key} :
    b.tileKeys base ≠ [] ↔ ∃ k o, b.find? k = some o ∧ Bucket.IsTileKey base k := by
  rw [Ne, List.eq_nil_iff_forall_not_mem]
  simp only [mem_tileKeys_iff, IsTileKey, not_forall, not_not, exists_and_right]

namespace Backend

open RequestM

variable {p : Plan} {s s' : Session} {key : Key}

/-- A deletion that succeeds takes the object away. -/
lemma bucket_of_delete_ok (hhonest : p.Honest) (h : (delete key).runUnder p s = (.ok (), s')) :
    s'.bucket = s.bucket.erase key := by
  rw [runUnder_delete] at h
  cases hplan : p.delete s.trace key with
  | none =>
    simp only [hplan, Prod.mk.injEq] at h
    rw [← h.2]
  | some error => simp [hplan, hhonest.deletes _ _ _ hplan] at h

/-- A write is recorded, and nothing else. -/
lemma trace_put (p : Plan) (s : Session) (key : Key) (data : Octets) (contentType : String) :
    ((put key data contentType).runUnder p s).2.trace =
      s.trace ++ [.put key data.length contentType] := by
  rw [runUnder_put]
  cases p.put s.trace key <;> rfl

end Backend

namespace Store

open RequestM BulkDelete

variable {s : Store} {t : Tile} {p : Plan} {σ σ' : Session} {key : Key}

/-- **The event of a tile that was stored** says what object there was, if somebody listens. -/
lemma TileWritten.event_eq {blob : Octets} {event : Option Event}
    (h : TileWritten s t p σ key blob event σ') (hhonest : p.Honest)
    (hsomebody : s.listeners.isEmpty = false) :
    event = some (writeEvent t ((σ.bucket.find? key).map StoredObject.info)) := by
  cases h with
  | unheard nobody write =>
    rw [hsomebody] at nobody
    cases nobody
  | heard somebody probe write => rw [Backend.eq_map_info_of_head hhonest.probes probe]

/-- **A tile that was removed** had an object of the size that is told, and has none afterwards. -/
lemma TileErased.size_eq {size : ℕ} (h : TileErased p σ key (some size) σ') (hhonest : p.Honest) :
    ∃ o, σ.bucket.find? key = some o ∧ size = o.size ∧ σ'.bucket = σ.bucket.erase key := by
  cases h with
  | @removed info σ₁ σ₂ probe removal =>
    have hprobed := Backend.eq_map_info_of_head hhonest.probes probe
    obtain ⟨o, hfind, hinfo⟩ := Option.map_eq_some_iff.1 hprobed.symm
    refine ⟨o, hfind, congrArg ObjectInfo.size hinfo.symm, ?_⟩
    have herased := Backend.bucket_of_delete_ok hhonest removal
    rwa [Backend.eq_sent_of_head probe, Session.bucket_sent] at herased

/-- **A removal of a layer that does not fail** tells whether there was anything of it. -/
lemma layer_of_eraseLayer {n : String} {existed : Bool}
    (h : (eraseLayer n s).runUnder p σ = (.ok existed, σ')) (hhonest : p.ProbesHonestly) :
    ∃ base metadata, s.layout.layer n = .ok base ∧ s.layout.metadata n = .ok metadata ∧
      (existed = true ↔
        σ.bucket.tileKeys base ≠ [] ∨ σ.bucket.find? metadata ≠ none) := by
  cases hcheck : s.checkedLayer n with
  | error e =>
    unfold eraseLayer at h
    rw [← checkedLayer_bind, hcheck, ofExcept_error_bind] at h
    cases h
  | ok x =>
    obtain ⟨base, metadata⟩ := x
    obtain ⟨hbase, hmetadata, -⟩ := checkedLayer_eq_ok_iff.1 hcheck
    obtain ⟨x, σ₁, herased, hrun⟩ := layerErased_eraseLayer hcheck p σ
    obtain ⟨rfl, rfl⟩ := Prod.mk.inj (h.symm.trans hrun)
    exact ⟨base, metadata, hbase, hmetadata,
      herased.ok_true_iff hhonest (Layout.isMetadata_metadata hmetadata)⟩

/-- **A removal of a gridset that does not fail** tells whether there were any tiles in it. -/
lemma gridset_of_eraseGridset {n g : String} {existed : Bool}
    (h : (eraseGridset n g s).runUnder p σ = (.ok existed, σ')) :
    ∃ base, s.layout.gridset n g = .ok base ∧ (existed = true ↔ σ.bucket.tileKeys base ≠ []) := by
  unfold eraseGridset at h
  rw [← checkedGridset_bind, runUnder_ofExcept_bind_eq_ok_iff] at h
  obtain ⟨base, hcheck, h⟩ := h
  obtain ⟨submitted, σ₁, hrun, h⟩ := runUnder_bind_eq_ok_iff.1 h
  obtain rfl : decide (0 < submitted) = existed := Except.ok.inj (congrArg Prod.fst h)
  obtain ⟨x, σ₂, hswept, hrun'⟩ := swept_run p σ base s.batchSize
  obtain ⟨rfl, rfl⟩ := Prod.mk.inj (hrun.symm.trans hrun')
  refine ⟨base, (checkedGridset_eq_ok_iff.1 hcheck).1, ?_⟩
  rw [hswept.of_ok.1, decide_eq_true_eq, List.length_pos_iff]

/-- **Without listeners nothing is probed** when a tile is stored, whether that fails or not. -/
lemma trace_writeTile_unheard (hnobody : s.listeners.isEmpty = true) (t : Tile) (p : Plan)
    (σ : Session) :
    ∃ requests, ((writeTile t s).runUnder p σ).2.trace = σ.trace ++ requests ∧
      ∀ k, .head k ∉ requests := by
  rw [writeTile_eq]
  cases s.checkedPut t with
  | error e => exact ⟨[], (List.append_nil _).symm, fun k => List.not_mem_nil⟩
  | ok x =>
    refine ⟨[.put x.2 x.1.length t.format], ?_, by simp⟩
    have hput := Backend.trace_put p σ x.2 x.1 t.format
    rw [ofExcept_ok, pure_bind, if_pos hnobody, runUnder_bind, writeTile.writeBlob, runUnder_bind]
    rcases hrun : (Backend.put x.2 x.1 t.format).runUnder p σ with ⟨e | u, σ₁⟩ <;>
      rw [hrun] at hput <;> exact hput

end Store

/-! ## Calls -/

namespace Completion

variable {α : Type}

/-- To return is not to panic. -/
lemma returned_ne_panicked (a : α) (message : String) : returned a ≠ panicked message := by
  simp

/-- To fail is not to panic. -/
lemma failed_ne_panicked (error : StorageError) (message : String) :
    (failed error : Completion α) ≠ panicked message := by
  simp

end Completion

namespace Call

open Store

variable {c : Context} {w : World}

/-- A call that fails, or returns that there is nothing, announces nothing. -/
lemma deliveries_of_failed_or_false {call : Call}
    (h : (∃ e, (call.operation.perform.runIn c w).1.completion = .failed e) ∨
      (call.operation.perform.runIn c w).1.completion = .returned (.truth false)) :
    (call.operation.perform.runIn c w).2.deliveries = w.deliveries := by
  rcases h with ⟨e, he⟩ | hno
  · obtain ⟨session, -, hperform⟩ := of_failed he
    rw [hperform]
  · obtain ⟨f, session, hrun, hanswer, -, hannounced, -⟩ := of_returned hno
    rw [(finding_of_requests_false hrun hanswer).2] at hannounced
    exact World.announced_none_iff.1 hannounced

/-- A tile that was stored is announced as new or as updated, as the case was. -/
lemma announced_put (hhonest : c.plan.Honest) (hsomebody : w.store.listeners.isEmpty = false)
    {t : Tile} (h : ((put t).operation.perform.runIn c w).1.completion = .returned .done) :
    ∃ key, w.store.layout.tile t = .ok key ∧
      w.Announced ((put t).operation.perform.runIn c w).2
        (some (writeEvent t ((w.session.bucket.find? key).map StoredObject.info))) := by
  obtain ⟨f, session, hrun, -, -, hannounced, -⟩ := of_returned h
  obtain ⟨_ | event, hwrite, hf⟩ := RequestM.exists_of_runUnder_map hrun <;> cases hf
  obtain ⟨blob, key, hcheck, hwritten⟩ := tileWritten_of_ok hwrite
  obtain rfl := hwritten.event_eq hhonest hsomebody
  exact ⟨key, (checkedPut_eq_ok_iff.1 hcheck).2.2.1, hannounced⟩

/-- Without listeners a tile is stored without a probe, and nobody hears of it. -/
lemma put_unheard (hnobody : w.store.listeners.isEmpty = true) (t : Tile) :
    ((put t).operation.perform.runIn c w).2.deliveries = w.deliveries ∧
      ∃ requests, ((put t).operation.perform.runIn c w).2.session.trace =
          w.session.trace ++ requests ∧ ∀ k, .head k ∉ requests := by
  cases hrun : ((put t).requests w.store).runUnder c.plan w.session with
  | mk x session =>
    obtain ⟨requests, htrace, hnone⟩ := trace_writeTile_unheard hnobody t c.plan w.session
    obtain ⟨y, hwrite, -⟩ := RequestM.exists_of_runUnder_map hrun
    rw [hwrite] at htrace
    rw [runIn_perform hrun, notify_of_isEmpty hnobody]
    exact ⟨rfl, requests, htrace, hnone⟩

/-- A tile that was removed is announced with the size of its object. -/
lemma announced_deleteTile (hhonest : c.plan.Honest) {t : Tile}
    (h : ((deleteTile t).operation.perform.runIn c w).1.completion = .returned (.truth true)) :
    ∃ key o, w.store.layout.tile t = .ok key ∧ w.session.bucket.find? key = some o ∧
      ((deleteTile t).operation.perform.runIn c w).2.session.bucket =
        w.session.bucket.erase key ∧
      w.Announced ((deleteTile t).operation.perform.runIn c w).2
        (some (.tileDeleted { t with blobSize := o.size })) := by
  obtain ⟨f, session, hrun, hanswer, -, hannounced, hsession⟩ := of_returned h
  obtain ⟨_ | _ | size, herase, hf⟩ := RequestM.exists_of_runUnder_map hrun <;> cases hf
  · cases hanswer
  · obtain ⟨key, hcheck, herased⟩ := tileErased_of_ok herase
    obtain ⟨o, hfind, rfl, hbucket⟩ := herased.size_eq hhonest
    exact ⟨key, o, (checkedTile_eq_ok_iff.1 hcheck).1, hfind,
      (congrArg Session.bucket hsession).trans hbucket, hannounced⟩

/-- The removal of a layer is announced if there was one. -/
lemma announced_deleteLayer (hhonest : c.plan.Honest) {n : String} {existed : Bool}
    (h : ((deleteLayer n).operation.perform.runIn c w).1.completion =
      .returned (.truth existed)) :
    w.Announced ((deleteLayer n).operation.perform.runIn c w).2
        (if existed then some (.layerDeleted n) else none) ∧
      ∃ base metadata, w.store.layout.layer n = .ok base ∧
        w.store.layout.metadata n = .ok metadata ∧
        (existed = true ↔
          (∃ k o, w.session.bucket.find? k = some o ∧ Bucket.IsTileKey base k) ∨
            ∃ o, w.session.bucket.find? metadata = some o) := by
  obtain ⟨f, session, hrun, hanswer, -, hannounced, -⟩ := of_returned h
  obtain ⟨_ | existed', herase, hf⟩ := RequestM.exists_of_runUnder_map hrun <;> cases hf
  cases hanswer
  obtain ⟨base, metadata, hbase, hmetadata, hiff⟩ := layer_of_eraseLayer herase hhonest.probes
  rw [Bucket.tileKeys_ne_nil_iff, Option.ne_none_iff_exists'] at hiff
  exact ⟨hannounced, base, metadata, hbase, hmetadata, hiff⟩

/-- The removal of a gridset is announced if there were tiles in it. -/
lemma announced_deleteGridset {n g : String} {existed : Bool}
    (h : ((deleteGridset n g).operation.perform.runIn c w).1.completion =
      .returned (.truth existed)) :
    w.Announced ((deleteGridset n g).operation.perform.runIn c w).2
        (if existed then some (.gridsetDeleted n g) else none) ∧
      ∃ base, w.store.layout.gridset n g = .ok base ∧
        (existed = true ↔
          ∃ k o, w.session.bucket.find? k = some o ∧ Bucket.IsTileKey base k) := by
  obtain ⟨f, session, hrun, hanswer, -, hannounced, -⟩ := of_returned h
  obtain ⟨_ | existed', herase, hf⟩ := RequestM.exists_of_runUnder_map hrun <;> cases hf
  cases hanswer
  obtain ⟨base, hbase, hiff⟩ := gridset_of_eraseGridset herase
  rw [Bucket.tileKeys_ne_nil_iff] at hiff
  exact ⟨hannounced, base, hbase, hiff⟩

/-- A call does not end in a panic if no listener panics. -/
lemma completion_ne_panicked (hcalm : c.callbacks.NeverPanic) (call : Call) (message : String) :
    (call.operation.perform.runIn c w).1.completion ≠ .panicked message := by
  cases hrun : (call.requests w.store).runUnder c.plan w.session with
  | mk x session =>
    rw [(runIn_perform_of_neverPanic hcalm hrun).1]
    cases x with
    | error e => exact Completion.failed_ne_panicked e message
    | ok f => exact Completion.returned_ne_panicked f.answer message

end Call

namespace Operation

/-- An operation that is not a call neither tells the listeners of anything nor ends in a panic. -/
lemma exists_call_or (o : Operation) :
    (∃ call : Call, call.operation = o) ∨
      ∀ c w, (o.perform.runIn c w).2.deliveries = w.deliveries ∧
        ∀ message, (o.perform.runIn c w).1.completion ≠ .panicked message := by
  cases o with
  | put t => exact .inl ⟨.put t, rfl⟩
  | get t => exact .inl ⟨.get t, rfl⟩
  | deleteTile t => exact .inl ⟨.deleteTile t, rfl⟩
  | deleteLayer n => exact .inl ⟨.deleteLayer n, rfl⟩
  | deleteGridset n g => exact .inl ⟨.deleteGridset n g, rfl⟩
  | getMetadata n name => exact .inl ⟨.getMetadata n name, rfl⟩
  | putMetadata n name value => exact .inl ⟨.putMetadata n name value, rfl⟩
  | deleteRange => exact .inr fun c w => ⟨rfl, Completion.failed_ne_panicked _⟩
  | rename => exact .inr fun c w => ⟨rfl, Completion.failed_ne_panicked _⟩
  | clear => exact .inr fun c w => ⟨rfl, Completion.failed_ne_panicked _⟩
  | destroy => exact .inr fun c w => ⟨rfl, Completion.returned_ne_panicked _⟩
  | removeListener l => exact .inr fun c w => ⟨rfl, Completion.returned_ne_panicked _⟩
  | addListener l =>
    refine .inr fun c w => ⟨?_, Completion.returned_ne_panicked _⟩
    simp only [perform, StoreM.runIn_bind, StoreM.runIn_addListener, StoreM.runIn_pure]
    split_ifs <;> rfl
  | checkAccess =>
    refine .inr fun c w => ?_
    cases hrun : w.store.probeRoot.runUnder c.plan w.session with
    | mk x session =>
      have hrequest : (Store.request Store.probeRoot).runIn c w = (x, { w with session }) :=
        StoreM.runIn_request hrun
      simp only [perform, Store.checkAccess, StoreM.runIn_bind, hrequest]
      refine ⟨rfl, ?_⟩
      cases x with
      | error e => exact Completion.failed_ne_panicked e
      | ok u => exact Completion.returned_ne_panicked _

/-- **Events tell the truth about the bucket.** Let requests fail in any way, but none that is
refused be answered as if there were no object. Then on every bucket, also one that others wrote to,
the following is so. An operation that fails, or returns that there was nothing, sends no event. A
tile that was stored while somebody listens is sent to each registration once: as updated, with the
size of the object that was there before, or as stored if there was none. Without listeners it is
stored without a probe, and nothing is sent. A tile that was removed is sent once with the size of
the object that was taken away. The removal of a layer is sent once if it returns that there was
one, and not otherwise; and it returns so if there was an object strictly below the key of the layer
that is not metadata, or its own metadata. It is the same with the removal of a gridset and the
objects below its key. And nothing else can become of an operation unless a listener panics.

**Proof sketch.** A call is its requests and then an announcement. What it announces its requests
have found out: whether there is an object they are told by a probe or a listing, and they come to a
value only if what is to be announced has been done. -/
theorem events_tell_truth (c : Context) (w : World) (hhonest : c.plan.Honest) :
    let bucket := w.session.bucket
    (∀ o : Operation, ((∃ e, (o.perform.runIn c w).1.completion = .failed e) ∨
        (o.perform.runIn c w).1.completion = .returned (.truth false)) →
      (o.perform.runIn c w).2.deliveries = w.deliveries) ∧
    (∀ t, w.store.listeners.isEmpty = false →
      ((put t).perform.runIn c w).1.completion = .returned .done →
      ∃ key, w.store.layout.tile t = .ok key ∧
        w.Announced ((put t).perform.runIn c w).2 (some (match bucket.find? key with
          | some o => .tileUpdated t o.size
          | none => .tileStored t))) ∧
    (∀ t, w.store.listeners.isEmpty = true →
      ((put t).perform.runIn c w).2.deliveries = w.deliveries ∧
      ∃ requests, ((put t).perform.runIn c w).2.session.trace = w.session.trace ++ requests ∧
        ∀ k, .head k ∉ requests) ∧
    (∀ t, ((deleteTile t).perform.runIn c w).1.completion = .returned (.truth true) →
      ∃ key o, w.store.layout.tile t = .ok key ∧ bucket.find? key = some o ∧
        ((deleteTile t).perform.runIn c w).2.session.bucket = bucket.erase key ∧
        w.Announced ((deleteTile t).perform.runIn c w).2
          (some (.tileDeleted { t with blobSize := o.size }))) ∧
    (∀ n existed, ((deleteLayer n).perform.runIn c w).1.completion = .returned (.truth existed) →
      w.Announced ((deleteLayer n).perform.runIn c w).2
        (if existed then some (.layerDeleted n) else none) ∧
      ∃ base metadata, w.store.layout.layer n = .ok base ∧
        w.store.layout.metadata n = .ok metadata ∧
        (existed = true ↔ (∃ k o, bucket.find? k = some o ∧ Bucket.IsTileKey base k) ∨
          ∃ o, bucket.find? metadata = some o)) ∧
    (∀ n g existed,
      ((deleteGridset n g).perform.runIn c w).1.completion = .returned (.truth existed) →
      w.Announced ((deleteGridset n g).perform.runIn c w).2
        (if existed then some (.gridsetDeleted n g) else none) ∧
      ∃ base, w.store.layout.gridset n g = .ok base ∧
        (existed = true ↔ ∃ k o, bucket.find? k = some o ∧ Bucket.IsTileKey base k)) ∧
    (c.callbacks.NeverPanic → ∀ (o : Operation) message,
      (o.perform.runIn c w).1.completion ≠ .panicked message) := by
  refine ⟨fun o h => ?_, fun t hsomebody h => ?_, fun t hnobody => Call.put_unheard hnobody t,
    fun t h => Call.announced_deleteTile hhonest h,
    fun n existed h => Call.announced_deleteLayer hhonest h,
    fun n g existed h => Call.announced_deleteGridset h, fun hcalm o message => ?_⟩
  · rcases o.exists_call_or with ⟨call, rfl⟩ | hquiet
    · exact Call.deliveries_of_failed_or_false h
    · exact (hquiet c w).1
  · obtain ⟨key, hkey, hannounced⟩ := Call.announced_put hhonest hsomebody h
    refine ⟨key, hkey, ?_⟩
    cases hfind : w.session.bucket.find? key <;> rwa [hfind] at hannounced
  · rcases o.exists_call_or with ⟨call, rfl⟩ | hquiet
    · exact Call.completion_ne_panicked hcalm call message
    · exact (hquiet c w).2 message

/-- The only tile is removed, or replaced, or its layer is to be removed while deletions are
refused. The listener hears of the three octets that there were, or of nothing. -/
theorem oneRoad_events :
    let w := World.oneRoad
    let tile : Tile := { layer := "roads", gridset := "EPSG:4326", coord := ⟨0, 0, 0⟩,
                         format := "image/png" }
    w.Announced ((deleteTile tile).perform.runIn {} w).2
        (some (.tileDeleted { tile with blobSize := 3 })) ∧
      w.Announced ((put (tile.withBlob [7])).perform.runIn {} w).2
        (some (.tileUpdated (tile.withBlob [7]) 3)) ∧
      ((deleteLayer "roads").perform.runIn .deleteDenied w).2.deliveries = w.deliveries := by
  intro w tile
  have hkey : w.store.layout.tile tile =
      .ok (Key.ofText "gwc/roads/EPSG:4326/png/default/0/0/0.png") := by
    decide +kernel
  have hfind : w.session.bucket.find? (Key.ofText "gwc/roads/EPSG:4326/png/default/0/0/0.png") =
      some ⟨[1, 2, 3], "image/png", 1⟩ := by
    decide +kernel
  have hdenied : ((deleteLayer "roads").perform.runIn .deleteDenied w).1.completion =
      .failed (Backend.refusal "delete" "gwc/roads/metadata.properties"
        (.denied "gwc/roads/metadata.properties" "403")) := by
    decide +kernel
  have hhonest : Context.deleteDenied.plan.Honest := by
    refine ⟨nofun, fun past key error h => ?_⟩
    cases h
    rfl
  obtain ⟨-, hput, -, hdelete, -⟩ := events_tell_truth {} w ⟨nofun, nofun⟩
  obtain ⟨hquiet, -⟩ := events_tell_truth .deleteDenied w hhonest
  refine ⟨?_, ?_, hquiet _ (.inl ⟨_, hdenied⟩)⟩
  · obtain ⟨key, o, hkey', hfind', -, hannounced⟩ := hdelete tile (by decide +kernel)
    obtain rfl := Except.ok.inj (hkey.symm.trans hkey')
    obtain rfl := Option.some.inj (hfind.symm.trans hfind')
    exact hannounced
  · obtain ⟨key, hkey', hannounced⟩ :=
      hput (tile.withBlob [7]) (by decide +kernel) (by decide +kernel)
    obtain rfl := Except.ok.inj (hkey.symm.trans hkey')
    rw [hfind] at hannounced
    exact hannounced

end Operation

end TileCache
