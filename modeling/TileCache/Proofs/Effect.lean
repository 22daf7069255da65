import TileCache.Proofs.Dispatch
import TileCache.Proofs.OperationRequests
import TileCache.Store.Operation
set_option autoImplicit false

/-!
# What a call does if no request fails

An operation that stores, reads or removes something is, if no request fails, a function of the
store's layout, the bucket and its arguments: what it returns, what becomes of the tile it was given
and of the bucket, and what it announces. The listeners hear of it after that, so that all they can
change is their own registry, and how the call ends if one of them panics.

## Main definitions

* `TileCache.Call` — a call of such an operation, and `TileCache.Call.operation` the operation.
* `TileCache.Effect`, `TileCache.Call.effect` — what a call does.
* `TileCache.Store.notify` — what listeners make of what is announced.

## Main results

* `TileCache.Call.hasEffect_effect` — an operation does just this.
-/

namespace TileCache

/-! ## Computations of a store -/

namespace StoreM

variable {α β : Type} {c : Context} {w : World}

/-- A value alone changes nothing. -/
@[simp]
lemma runIn_pure (a : α) : (pure a : StoreM α).runIn c w = (a, w) := rfl

/-- The world is read as it is. -/
@[simp]
lemma runIn_get : (get : StoreM World).runIn c w = (w, w) := rfl

/-- The context is read as it is. -/
@[simp]
lemma runIn_read : (read : StoreM Context).runIn c w = (c, w) := rfl

/-- The world is replaced by another. -/
@[simp]
lemma runIn_set (w' : World) : (set w' : StoreM PUnit).runIn c w = (⟨⟩, w') := rfl

/-- The second of two computations runs in the world that the first leaves. -/
lemma runIn_bind (m : StoreM α) (f : α → StoreM β) :
    (m >>= f).runIn c w = (f (m.runIn c w).1).runIn c (m.runIn c w).2 := rfl

/-- Requests change the session alone. -/
lemma runIn_request {m : Store → RequestM α} {x : Except StorageError α} {session : Session}
    (h : (m w.store).runUnder c.plan w.session = (x, session)) :
    (Store.request m).runIn c w = (x, { w with session }) := by
  rw [show (Store.request m).runIn c w =
    (((m w.store).runUnder c.plan w.session).1,
      { w with session := ((m w.store).runUnder c.plan w.session).2 }) from rfl, h]

/-- Requests that do not fail make of the bucket what they make of every such bucket. -/
lemma exists_runIn_request {m : Store → RequestM α} {x : Except StorageError α} {b : Bucket}
    (h : c.plan = .faultless) (hm : (m w.store).Serves w.session.bucket x b) :
    ∃ session : Session, session.bucket = b ∧
      (Store.request m).runIn c w = (x, { w with session }) := by
  obtain ⟨session, hrun, hbucket⟩ := hm w.session rfl
  rw [← h] at hrun
  exact ⟨session, hbucket, runIn_request hrun⟩

end StoreM

namespace Store

/-- What the listeners of a store make of what is announced, if anything is. -/
def notify (s : Store) (callbacks : Callbacks) (deliveries : List Delivery) :
    Option Event → Registry.Dispatched
  | none => ⟨s.listeners, deliveries, none⟩
  | some event => s.listeners.dispatch callbacks deliveries event

/-- Without listeners nobody hears of anything. -/
lemma notify_of_isEmpty {s : Store} (h : s.listeners.isEmpty = true) (callbacks : Callbacks)
    (deliveries : List Delivery) (event : Option Event) :
    s.notify callbacks deliveries event = ⟨s.listeners, deliveries, none⟩ := by
  cases event with
  | none => rfl
  | some event =>
    rw [notify, Registry.dispatch, List.isEmpty_iff.1 h]
    rfl

/-- No announcement ends in a panic if no listener panics. -/
lemma panic_notify {callbacks : Callbacks} (h : callbacks.NeverPanic) (s : Store)
    (deliveries : List Delivery) (event : Option Event) :
    (s.notify callbacks deliveries event).panic = none := by
  cases event with
  | none => rfl
  | some event => exact (Registry.dispatch_of_neverPanic h).1

end Store

/-- The world after its listeners were told. -/
def World.told (w : World) (d : Registry.Dispatched) : World :=
  { w with store := { w.store with listeners := d.registry }, deliveries := d.deliveries }

/-- What a call returns unless a listener panics can be turned into another value. -/
lemma Completion.map_elim {α β : Type} (f : α → β) (a : α) (panic : Option String) :
    (panic.elim (.returned a) .panicked : Completion α).map f =
      panic.elim (.returned (f a)) .panicked := by
  cases panic <;> rfl

/-- An announcement tells the listeners, and ends the call if one panics. -/
lemma StoreM.runIn_announce {α : Type} {c : Context} {w : World} (event : Event) (a : α) :
    (Store.announce event a).runIn c w =
      ((w.store.notify c.callbacks w.deliveries event).panic.elim (.returned a) .panicked,
        w.told (w.store.notify c.callbacks w.deliveries event)) := by
  unfold Store.announce Store.notify World.told
  simp only [runIn_bind, runIn_get, runIn_read, runIn_set]
  cases (w.store.listeners.dispatch c.callbacks w.deliveries event).panic <;> rfl

/-- A listener is registered as the newest, unless the store has been shut down. The second look at
the flag changes nothing, for it agrees with the first. -/
lemma StoreM.runIn_addListener (l : Listener) (c : Context) (w : World) :
    (Store.addListener l).runIn c w =
      (⟨⟩, if w.store.live then
          { w with store := { w.store with listeners := w.store.listeners.add l } }
        else w) := by
  obtain ⟨⟨layout, batchSize, listeners, live, destroyed, hstep⟩, session, deliveries⟩ := w
  obtain rfl : destroyed = !live := hstep
  cases live <;> rfl

/-- A run goes on in the world that its first operation leaves. -/
lemma Operation.runIn_performAll_cons {c : Context} {w : World} (o : Operation)
    (rest : List Operation) :
    (performAll (o :: rest)).runIn c w =
      ((o.perform.runIn c w).1 :: ((performAll rest).runIn c (o.perform.runIn c w).2).1,
        ((performAll rest).runIn c (o.perform.runIn c w).2).2) := by
  unfold performAll
  rw [List.mapM_cons]
  rfl

/-- The world after a run of operations. -/
def World.after (w : World) (c : Context) (operations : List Operation) : World :=
  ((Operation.performAll operations).runIn c w).2

/-- A run goes on in the world that its first operation leaves. -/
lemma World.after_cons (w : World) (c : Context) (o : Operation) (rest : List Operation) :
    w.after c (o :: rest) = (w.after c [o]).after c rest := by
  simp only [after, Operation.runIn_performAll_cons]
  rfl

/-- A run of two parts goes through them one after the other. -/
lemma World.after_append (w : World) (c : Context) (before rest : List Operation) :
    w.after c (before ++ rest) = (w.after c before).after c rest := by
  induction before generalizing w with
  | nil => rfl
  | cons o before ih =>
    rw [List.cons_append, after_cons, ih, ← after_cons]

/-! ## Calls -/

/-- A call of an operation that stores, reads or removes something. -/
inductive Call
  | put (tile : Tile)
  | get (tile : Tile)
  | deleteTile (tile : Tile)
  | deleteLayer (layer : String)
  | deleteGridset (layer gridset : String)
  | getMetadata (layer name : String)
  | putMetadata (layer name value : String)
  deriving DecidableEq, Repr

/-- The operation that is called. -/
def Call.operation : Call → Operation
  | put tile => .put tile
  | get tile => .get tile
  | deleteTile tile => .deleteTile tile
  | deleteLayer layer => .deleteLayer layer
  | deleteGridset layer gridset => .deleteGridset layer gridset
  | getMetadata layer name => .getMetadata layer name
  | putMetadata layer name value => .putMetadata layer name value

/-- What a call does: what it returns, the tile it was given as it is afterwards, the bucket
afterwards, and what it announces. -/
structure Effect where
  result : Except StorageError Answer
  tile : Option Tile := none
  bucket : Bucket
  event : Option Event := none

namespace Effect

/-- A call that fails before it has changed anything. -/
def refused (error : StorageError) (tile : Option Tile) (b : Bucket) : Effect where
  result := .error error
  tile := tile
  bucket := b

/-- How the call ends, given the panic of a listener. -/
def reply (e : Effect) (panic : Option String) : Reply where
  completion :=
    match e.result with
    | .error error => .failed error
    | .ok answer => panic.elim (.returned answer) .panicked
  tile := e.tile

end Effect

namespace Store

variable (s : Store) (b : Bucket)

/-- What storing a tile does. -/
def putEffect (t : Tile) : Effect :=
  match s.checkedPut t with
  | .error error => .refused error none b
  | .ok (blob, key) =>
    { result := .ok .done
      bucket := b.put key blob t.format
      event := some (match b.find? key with
        | some o => .tileUpdated t o.size
        | none => .tileStored t) }

/-- What reading a tile does. -/
def getEffect (t : Tile) : Effect :=
  match s.checkedTile t with
  | .error error => .refused error t b
  | .ok key =>
    match b.find? key with
    | none => { result := .ok (.truth false), tile := t, bucket := b }
    | some o => { result := .ok (.truth true), tile := Store.fill t o, bucket := b }

/-- What removing a tile does. -/
def deleteTileEffect (t : Tile) : Effect :=
  match s.checkedTile t with
  | .error error => .refused error t b
  | .ok key =>
    match b.find? key with
    | none => { result := .ok (.truth false), tile := t, bucket := b }
    | some o =>
      { result := .ok (.truth true)
        tile := some { t with blobSize := o.size }
        bucket := b.erase key
        event := some (.tileDeleted { t with blobSize := o.size }) }

/-- What removing a layer does. -/
def deleteLayerEffect (n : String) : Effect :=
  match s.checkedLayer n with
  | .error error => .refused error none b
  | .ok (base, metadata) =>
    if b.tileKeys base = [] ∧ b.find? metadata = none then
      { result := .ok (.truth false), bucket := b }
    else
      { result := .ok (.truth true)
        bucket := (b.clearBelow base).erase metadata
        event := some (.layerDeleted n) }

/-- What removing a gridset does. -/
def deleteGridsetEffect (n g : String) : Effect :=
  match s.checkedGridset n g with
  | .error error => .refused error none b
  | .ok base =>
    if b.tileKeys base = [] then { result := .ok (.truth false), bucket := b }
    else
      { result := .ok (.truth true)
        bucket := b.clearBelow base
        event := some (.gridsetDeleted n g) }

/-- What reading metadata does. -/
def getMetadataEffect (n name : String) : Effect :=
  match s.checkedMetadata n with
  | .error error => .refused error none b
  | .ok key =>
    match b.properties key with
    | .error error => .refused error none b
    | .ok m => { result := .ok (.text (m.find? name)), bucket := b }

/-- What writing metadata does. -/
def putMetadataEffect (n name value : String) : Effect :=
  match s.checkedMetadata n with
  | .error error => .refused error none b
  | .ok key =>
    match b.properties key with
    | .error error => .refused error none b
    | .ok m =>
      { result := .ok .done
        bucket := b.put key (Properties.encode (m.insert name value)) Properties.contentType }

end Store

/-- What a call does if no request fails, given the store and the bucket. -/
def Call.effect (s : Store) (b : Bucket) : Call → Effect
  | put t => s.putEffect b t
  | get t => s.getEffect b t
  | deleteTile t => s.deleteTileEffect b t
  | deleteLayer n => s.deleteLayerEffect b n
  | deleteGridset n g => s.deleteGridsetEffect b n g
  | getMetadata n name => s.getMetadataEffect b n name
  | putMetadata n name value => s.putMetadataEffect b n name value

section Live

variable {s : Store} {b : Bucket}

/-- What follows a check that only live stores pass is announced by live stores only. -/
lemma live_of_checked {α : Type} (x : Except StorageError α) {event : Option Event}
    (hpassed : ∀ a, x = .ok a → s.live = true) (hrefused : ∀ e, x = .error e → event = none)
    (h : event ≠ none) : s.live = true := by
  cases hx : x with
  | error e => exact absurd (hrefused e hx) h
  | ok a => exact hpassed a hx

/-- **Only a store that has not been shut down announces something.** -/
lemma Call.live_of_event (call : Call) (h : (call.effect s b).event ≠ none) : s.live = true := by
  cases call with
  | put t =>
    refine live_of_checked (s.checkedPut t)
      (fun x hx => (Store.checkedPut_eq_ok_iff.1 hx).2.2.2) (fun e he => ?_) h
    rw [effect, Store.putEffect, he]
    rfl
  | get t =>
    refine live_of_checked (s.checkedTile t)
      (fun k hk => (Store.checkedTile_eq_ok_iff.1 hk).2) (fun e he => ?_) h
    rw [effect, Store.getEffect, he]
    rfl
  | deleteTile t =>
    refine live_of_checked (s.checkedTile t)
      (fun k hk => (Store.checkedTile_eq_ok_iff.1 hk).2) (fun e he => ?_) h
    rw [effect, Store.deleteTileEffect, he]
    rfl
  | deleteLayer n =>
    refine live_of_checked (s.checkedLayer n)
      (fun x hx => (Store.checkedLayer_eq_ok_iff.1 hx).2.2) (fun e he => ?_) h
    rw [effect, Store.deleteLayerEffect, he]
    rfl
  | deleteGridset n g =>
    refine live_of_checked (s.checkedGridset n g)
      (fun k hk => (Store.checkedGridset_eq_ok_iff.1 hk).2) (fun e he => ?_) h
    rw [effect, Store.deleteGridsetEffect, he]
    rfl
  | getMetadata n name =>
    refine live_of_checked (s.checkedMetadata n)
      (fun k hk => (Store.checkedMetadata_eq_ok_iff.1 hk).2) (fun e he => ?_) h
    rw [effect, Store.getMetadataEffect, he]
    rfl
  | putMetadata n name value =>
    refine live_of_checked (s.checkedMetadata n)
      (fun k hk => (Store.checkedMetadata_eq_ok_iff.1 hk).2) (fun e he => ?_) h
    rw [effect, Store.putMetadataEffect, he]
    rfl

end Live

/-! ## Operations do what their effects say -/

namespace Call

open StoreM Store

variable {c : Context} {w : World}

/-- An operation has an effect: it replies as the effect says, the bucket is the effect's, and the
listeners are told of the effect's event. -/
def HasEffect (call : Call) (c : Context) (w : World) (e : Effect) : Prop :=
  let d := w.store.notify c.callbacks w.deliveries e.event
  ∃ session : Session, session.bucket = e.bucket ∧
    call.operation.perform.runIn c w = (e.reply d.panic, { w.told d with session })

/-- Storing a tile has its effect. -/
lemma hasEffect_put (h : c.plan = .faultless) (t : Tile) :
    (put t).HasEffect c w (w.store.putEffect w.session.bucket t) := by
  unfold putEffect HasEffect
  simp only [operation, Operation.perform, Store.put, runIn_bind]
  cases hcheck : w.store.checkedPut t with
  | error e =>
    obtain ⟨session, hbucket, hrun⟩ :=
      exists_runIn_request h (serves_writeTile_error w.session.bucket hcheck)
    rw [hrun]
    exact ⟨session, hbucket, rfl⟩
  | ok x =>
    obtain ⟨blob, key⟩ := x
    obtain ⟨session, hbucket, hrun⟩ :=
      exists_runIn_request h (serves_writeTile w.session.bucket hcheck)
    rw [hrun]
    refine ⟨session, hbucket, ?_⟩
    cases hlisteners : w.store.listeners.isEmpty with
    | true =>
      -- Nobody is told, so that it makes no difference that no event was prepared.
      rw [notify_of_isEmpty hlisteners]
      rfl
    | false =>
      simp only [Bool.false_eq_true, if_false]
      rw [runIn_announce]
      simp only [runIn_pure, Completion.map_elim]
      rfl

/-- Reading a tile has its effect. -/
lemma hasEffect_get (h : c.plan = .faultless) (t : Tile) :
    (get t).HasEffect c w (w.store.getEffect w.session.bucket t) := by
  unfold getEffect HasEffect
  simp only [operation, Operation.perform, Store.get, runIn_bind]
  cases hcheck : w.store.checkedTile t with
  | error e =>
    obtain ⟨session, hbucket, hrun⟩ :=
      exists_runIn_request h (serves_readTile_error w.session.bucket hcheck)
    rw [hrun]
    exact ⟨session, hbucket, rfl⟩
  | ok key =>
    obtain ⟨session, hbucket, hrun⟩ :=
      exists_runIn_request h (serves_readTile w.session.bucket hcheck)
    rw [hrun]
    dsimp only
    cases w.session.bucket.find? key <;> exact ⟨session, hbucket, rfl⟩

/-- Removing a tile has its effect. -/
lemma hasEffect_deleteTile (h : c.plan = .faultless) (t : Tile) :
    (deleteTile t).HasEffect c w (w.store.deleteTileEffect w.session.bucket t) := by
  unfold deleteTileEffect HasEffect
  simp only [operation, Operation.perform, Store.deleteTile, runIn_bind]
  cases hcheck : w.store.checkedTile t with
  | error e =>
    obtain ⟨session, hbucket, hrun⟩ :=
      exists_runIn_request h (serves_eraseTile_error w.session.bucket hcheck)
    rw [hrun]
    exact ⟨session, hbucket, rfl⟩
  | ok key =>
    dsimp only
    cases hfind : w.session.bucket.find? key with
    | none =>
      obtain ⟨session, hbucket, hrun⟩ :=
        exists_runIn_request h (serves_eraseTile_none w.session.bucket hcheck hfind)
      rw [hrun]
      exact ⟨session, hbucket, rfl⟩
    | some o =>
      obtain ⟨session, hbucket, hrun⟩ :=
        exists_runIn_request h (serves_eraseTile_some w.session.bucket hcheck hfind)
      rw [hrun]
      refine ⟨session, hbucket, ?_⟩
      simp only [runIn_bind, runIn_announce, runIn_pure, Completion.map_elim]
      rfl

/-- Removing a layer has its effect. -/
lemma hasEffect_deleteLayer (h : c.plan = .faultless) (n : String) :
    (deleteLayer n).HasEffect c w (w.store.deleteLayerEffect w.session.bucket n) := by
  unfold deleteLayerEffect HasEffect
  simp only [operation, Operation.perform, Store.deleteLayer, runIn_bind]
  cases hcheck : w.store.checkedLayer n with
  | error e =>
    obtain ⟨session, hbucket, hrun⟩ :=
      exists_runIn_request h (serves_eraseLayer_error w.session.bucket hcheck)
    rw [hrun]
    exact ⟨session, hbucket, rfl⟩
  | ok x =>
    obtain ⟨base, metadata⟩ := x
    by_cases hnone : w.session.bucket.tileKeys base = [] ∧ w.session.bucket.find? metadata = none
    · obtain ⟨session, hbucket, hrun⟩ :=
        exists_runIn_request h (serves_eraseLayer_none w.session.bucket hcheck hnone.1 hnone.2)
      rw [hrun]
      simp only [if_pos hnone]
      exact ⟨session, hbucket, rfl⟩
    · obtain ⟨session, hbucket, hrun⟩ :=
        exists_runIn_request h (serves_eraseLayer_some w.session.bucket hcheck (by tauto))
      rw [hrun]
      simp only [if_neg hnone]
      refine ⟨session, hbucket, ?_⟩
      rw [runIn_announce]
      simp only [runIn_pure, Completion.map_elim]
      rfl

/-- Removing a gridset has its effect. -/
lemma hasEffect_deleteGridset (h : c.plan = .faultless) (n g : String) :
    (deleteGridset n g).HasEffect c w (w.store.deleteGridsetEffect w.session.bucket n g) := by
  unfold deleteGridsetEffect HasEffect
  simp only [operation, Operation.perform, Store.deleteGridset, runIn_bind]
  cases hcheck : w.store.checkedGridset n g with
  | error e =>
    obtain ⟨session, hbucket, hrun⟩ :=
      exists_runIn_request h (serves_eraseGridset_error w.session.bucket hcheck)
    rw [hrun]
    exact ⟨session, hbucket, rfl⟩
  | ok base =>
    obtain ⟨session, hbucket, hrun⟩ :=
      exists_runIn_request h (serves_eraseGridset w.session.bucket hcheck)
    by_cases hnone : w.session.bucket.tileKeys base = []
    · rw [Bucket.clearBelow_of_tileKeys_eq_nil _ _ hnone] at hbucket
      rw [decide_eq_false (not_not_intro hnone)] at hrun
      rw [hrun]
      simp only [if_pos hnone]
      exact ⟨session, hbucket, rfl⟩
    · rw [decide_eq_true hnone] at hrun
      rw [hrun]
      simp only [if_neg hnone]
      refine ⟨session, hbucket, ?_⟩
      rw [runIn_announce]
      simp only [runIn_pure, Completion.map_elim]
      rfl

/-- Reading metadata has its effect. -/
lemma hasEffect_getMetadata (h : c.plan = .faultless) (n name : String) :
    (getMetadata n name).HasEffect c w (w.store.getMetadataEffect w.session.bucket n name) := by
  unfold getMetadataEffect HasEffect
  simp only [operation, Operation.perform, Store.getMetadata, runIn_bind]
  cases hcheck : w.store.checkedMetadata n with
  | error e =>
    obtain ⟨session, hbucket, hrun⟩ :=
      exists_runIn_request h (serves_readMetadata_error w.session.bucket hcheck)
    rw [hrun]
    exact ⟨session, hbucket, rfl⟩
  | ok key =>
    obtain ⟨session, hbucket, hrun⟩ :=
      exists_runIn_request h (serves_readMetadata w.session.bucket hcheck)
    rw [hrun]
    dsimp only
    cases w.session.bucket.properties key <;> exact ⟨session, hbucket, rfl⟩

/-- Writing metadata has its effect. -/
lemma hasEffect_putMetadata (h : c.plan = .faultless) (n name value : String) :
    (putMetadata n name value).HasEffect c w
      (w.store.putMetadataEffect w.session.bucket n name value) := by
  unfold putMetadataEffect HasEffect
  simp only [operation, Operation.perform, Store.putMetadata, runIn_bind]
  cases hcheck : w.store.checkedMetadata n with
  | error e =>
    obtain ⟨session, hbucket, hrun⟩ :=
      exists_runIn_request h (serves_writeMetadata_error w.session.bucket hcheck)
    rw [hrun]
    exact ⟨session, hbucket, rfl⟩
  | ok key =>
    dsimp only
    cases hproperties : w.session.bucket.properties key with
    | error e =>
      obtain ⟨session, hbucket, hrun⟩ :=
        exists_runIn_request h (serves_writeMetadata_unreadable w.session.bucket hcheck hproperties)
      rw [hrun]
      exact ⟨session, hbucket, rfl⟩
    | ok m =>
      obtain ⟨session, hbucket, hrun⟩ :=
        exists_runIn_request h (serves_writeMetadata w.session.bucket hcheck hproperties)
      rw [hrun]
      exact ⟨session, hbucket, rfl⟩

/-- **If no request fails, an operation has its effect.** -/
theorem hasEffect_effect (h : c.plan = .faultless) (call : Call) (w : World) :
    call.HasEffect c w (call.effect w.store w.session.bucket) := by
  cases call with
  | put t => exact hasEffect_put h t
  | get t => exact hasEffect_get h t
  | deleteTile t => exact hasEffect_deleteTile h t
  | deleteLayer n => exact hasEffect_deleteLayer h n
  | deleteGridset n g => exact hasEffect_deleteGridset h n g
  | getMetadata n name => exact hasEffect_getMetadata h n name
  | putMetadata n name value => exact hasEffect_putMetadata h n name value

end Call

end TileCache
