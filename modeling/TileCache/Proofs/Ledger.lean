import TileCache.Proofs.Bytes
import TileCache.Proofs.Effect
set_option autoImplicit false

/-!
# The ledger of a listener

A listener can keep books of how many bytes the tiles of every gridset occupy, from what it hears
alone: what is stored is added, what is replaced or removed is taken away, and what is removed
altogether is set to zero. If no request fails and the listener hears of every change once, its
ledger is at all times that of the bucket, so that no entry is ever negative.

## Main definitions

* `TileCache.Ledger`, `TileCache.Ledger.post` — the books, and what an event changes in them.
* `TileCache.Ledger.heard`, `TileCache.Ledger.keptBy` — what a listener heard, and its ledger.
* `TileCache.Ledger.ofBucket` — the bytes that a bucket holds.
* `TileCache.Tile.SizeTrue` — the size of a tile is that of its blob.

## Main results

* `TileCache.Call.post_effect` — the event of a call changes the ledger as the bucket changes.
* `TileCache.Ledger.Balanced.perform` — every operation keeps the books balanced.
* `TileCache.Store.ledger_exact` — so does every run.
-/

namespace TileCache

/-- A number of bytes for every gridset of every layer, by the names of both. -/
abbrev Ledger := String → String → ℤ

namespace Ledger

/-- The ledger with nothing in it. -/
def zero : Ledger := fun _ _ => 0

/-- The ledger with an amount added for one gridset. -/
def add (a : Ledger) (n g : String) (amount : ℤ) : Ledger :=
  fun n' g' => if n = n' ∧ g = g' then a n' g' + amount else a n' g'

/-- The ledger after an event. -/
def post (a : Ledger) : Event → Ledger
  | .tileStored t => a.add t.layer t.gridset t.blobSize
  | .tileUpdated t oldSize => a.add t.layer t.gridset (t.blobSize - oldSize)
  | .tileDeleted t => a.add t.layer t.gridset (-t.blobSize)
  | .layerDeleted n => fun n' g' => if n' = n then 0 else a n' g'
  | .gridsetDeleted n g => fun n' g' => if n' = n ∧ g' = g then 0 else a n' g'

/-- The events that a listener heard. -/
def heard (l : Listener) (deliveries : List Delivery) : List Event :=
  deliveries.filterMap fun d => if d.listener = l then some d.event else none

/-- The ledger that a listener keeps which started with nothing. -/
def keptBy (l : Listener) (deliveries : List Delivery) : Ledger :=
  (heard l deliveries).foldl post zero

/-- The bytes that a bucket holds. -/
def ofBucket (l : Layout) (b : Bucket) : Ledger :=
  fun n g => l.tileBytes b n g

/-- A bucket without objects below the root holds no bytes. -/
lemma ofBucket_of_forall {l : Layout} {b : Bucket}
    (h : ∀ k o, b.find? k = some o → k.isBelow l.root = false) : ofBucket l b = zero := by
  funext n g
  rw [ofBucket, zero, Int.natCast_eq_zero]
  cases hb : l.gridset n g with
  | error e => exact Layout.tileBytes_of_error hb
  | ok base =>
    have hclear : b.clearBelow base = b := by
      refine b.eraseAll_of_forall fun k o hfind => ?_
      cases hk : k.isBelow base with
      | false => rfl
      | true =>
        have hroot := h k o hfind
        rw [Layout.isBelow_root_of_gridset hb hk] at hroot
        cases hroot
    rw [Layout.tileBytes_of_ok hb, ← hclear]
    exact b.tileBytes_clearBelow_of_subset fun k hk => hk

end Ledger

/-- The size of a tile is that of its blob. -/
def Tile.SizeTrue (t : Tile) : Prop :=
  ∀ blob, t.blob = some blob → t.blobSize = blob.length

/-! ## One call -/

namespace Call

open Ledger

variable {s : Store} {b : Bucket}

/-- What a tile that is stored changes is what its event says. -/
lemma post_putEffect {t : Tile} (hsize : t.SizeTrue) :
    (s.putEffect b t).event.elim (ofBucket s.layout b) (ofBucket s.layout b).post =
      ofBucket s.layout (s.putEffect b t).bucket := by
  unfold Store.putEffect
  cases hcheck : s.checkedPut t with
  | error e => rfl
  | ok x =>
    obtain ⟨blob, k⟩ := x
    obtain ⟨hblob, -, ht, -⟩ := Store.checkedPut_eq_ok_iff.1 hcheck
    have hlength := hsize blob hblob
    funext n g
    have hbytes := Layout.tileBytes_put_tile (b := b) ht blob t.format n g
    dsimp only
    cases hfind : b.find? k with
    | none =>
      simp only [Bucket.sizeAt, hfind, Option.elim_none] at hbytes
      simp only [Option.elim_some, post, add, ofBucket, hlength]
      split_ifs at hbytes ⊢ <;> omega
    | some o =>
      simp only [Bucket.sizeAt, hfind, Option.elim_some] at hbytes
      simp only [Option.elim_some, post, add, ofBucket, hlength]
      split_ifs at hbytes ⊢ <;> omega

/-- Reading a tile changes nothing. -/
lemma post_getEffect {t : Tile} :
    (s.getEffect b t).event.elim (ofBucket s.layout b) (ofBucket s.layout b).post =
      ofBucket s.layout (s.getEffect b t).bucket := by
  unfold Store.getEffect
  cases s.checkedTile t with
  | error e => rfl
  | ok k =>
    dsimp only
    cases b.find? k <;> rfl

/-- What a tile that is removed changes is what its event says. -/
lemma post_deleteTileEffect {t : Tile} :
    (s.deleteTileEffect b t).event.elim (ofBucket s.layout b) (ofBucket s.layout b).post =
      ofBucket s.layout (s.deleteTileEffect b t).bucket := by
  unfold Store.deleteTileEffect
  cases hcheck : s.checkedTile t with
  | error e => rfl
  | ok k =>
    obtain ⟨ht, -⟩ := Store.checkedTile_eq_ok_iff.1 hcheck
    dsimp only
    cases hfind : b.find? k with
    | none => rfl
    | some o =>
      funext n g
      have hbytes := Layout.tileBytes_erase_tile (b := b) ht n g
      simp only [Bucket.sizeAt, hfind, Option.elim_some] at hbytes
      simp only [Option.elim_some, post, add, ofBucket]
      split_ifs at hbytes ⊢ <;> omega

/-- What a layer that is removed changes is what its event says. -/
lemma post_deleteLayerEffect {n : String} :
    (s.deleteLayerEffect b n).event.elim (ofBucket s.layout b) (ofBucket s.layout b).post =
      ofBucket s.layout (s.deleteLayerEffect b n).bucket := by
  unfold Store.deleteLayerEffect
  cases hcheck : s.checkedLayer n with
  | error e => rfl
  | ok x =>
    obtain ⟨base, metadata⟩ := x
    obtain ⟨hb, hm, -⟩ := Store.checkedLayer_eq_ok_iff.1 hcheck
    dsimp only
    split_ifs with hnone
    · rfl
    · funext n' g'
      simp only [Option.elim_some, post, ofBucket]
      rw [Layout.tileBytes_erase_metadata hm, Layout.tileBytes_clearBelow_layer hb]
      split_ifs <;> rfl

/-- What a gridset that is removed changes is what its event says. -/
lemma post_deleteGridsetEffect {n g : String} :
    (s.deleteGridsetEffect b n g).event.elim (ofBucket s.layout b) (ofBucket s.layout b).post =
      ofBucket s.layout (s.deleteGridsetEffect b n g).bucket := by
  unfold Store.deleteGridsetEffect
  cases hcheck : s.checkedGridset n g with
  | error e => rfl
  | ok base =>
    obtain ⟨hb, -⟩ := Store.checkedGridset_eq_ok_iff.1 hcheck
    dsimp only
    split_ifs with hnone
    · rfl
    · funext n' g'
      simp only [Option.elim_some, post, ofBucket]
      rw [Layout.tileBytes_clearBelow_gridset hb]
      split_ifs <;> rfl

/-- Reading metadata changes nothing. -/
lemma post_getMetadataEffect {n name : String} :
    (s.getMetadataEffect b n name).event.elim (ofBucket s.layout b) (ofBucket s.layout b).post =
      ofBucket s.layout (s.getMetadataEffect b n name).bucket := by
  unfold Store.getMetadataEffect
  cases s.checkedMetadata n with
  | error e => rfl
  | ok k =>
    dsimp only
    cases b.properties k <;> rfl

/-- Writing metadata changes no bytes of tiles. -/
lemma post_putMetadataEffect {n name value : String} :
    (s.putMetadataEffect b n name value).event.elim (ofBucket s.layout b)
        (ofBucket s.layout b).post =
      ofBucket s.layout (s.putMetadataEffect b n name value).bucket := by
  unfold Store.putMetadataEffect
  cases hcheck : s.checkedMetadata n with
  | error e => rfl
  | ok k =>
    obtain ⟨hm, -⟩ := Store.checkedMetadata_eq_ok_iff.1 hcheck
    dsimp only
    cases b.properties k with
    | error e => rfl
    | ok m =>
      funext n' g'
      simp only [Option.elim_none, ofBucket]
      rw [Layout.tileBytes_put_metadata hm]

/-- **The event of a call changes the ledger as the call changes the bucket**, if tiles that are
stored have the size of their blob. -/
lemma post_effect (call : Call) (hsize : ∀ t, call = .put t → t.SizeTrue) :
    (call.effect s b).event.elim (ofBucket s.layout b) (ofBucket s.layout b).post =
      ofBucket s.layout (call.effect s b).bucket := by
  cases call with
  | put t => exact post_putEffect (hsize t rfl)
  | get t => exact post_getEffect
  | deleteTile t => exact post_deleteTileEffect
  | deleteLayer n => exact post_deleteLayerEffect
  | deleteGridset n g => exact post_deleteGridsetEffect
  | getMetadata n name => exact post_getMetadataEffect
  | putMetadata n name value => exact post_putMetadataEffect

end Call

/-! ## Deliveries -/

namespace Ledger

variable {callbacks : Callbacks} {l : Listener} {s : Store} {deliveries : List Delivery}

/-- Of several deliveries those of both parts are heard. -/
lemma heard_append (ds ds' : List Delivery) : heard l (ds ++ ds') = heard l ds ++ heard l ds' :=
  List.filterMap_append

/-- An event that is delivered to a list of listeners is heard by each as often as it is listed. -/
lemma heard_map (event : Event) (listeners : List Listener) :
    heard l (listeners.map fun l' => ⟨l', event⟩) = List.replicate (listeners.count l) event := by
  unfold heard
  induction listeners with
  | nil => rfl
  | cons first rest ih =>
    by_cases h : first = l
    · simp [h, ih, List.replicate_succ]
    · simp [h, ih]

/-- **A listener that is registered once hears of what is announced once.** -/
lemma heard_notify (hcalm : callbacks.NeverPanic) {event : Option Event}
    (hcount : event ≠ none → s.listeners.listeners.count l = 1) :
    heard l (s.notify callbacks deliveries event).deliveries =
      heard l deliveries ++ event.toList := by
  cases event with
  | none => simp [Store.notify]
  | some event =>
    rw [Store.notify, (Registry.dispatch_of_neverPanic hcalm).2, heard_append, heard_map,
      hcount (by simp)]
    rfl

/-- An announcement leaves a listener that is spared registered as often as it was. -/
lemma count_notify (hspare : callbacks.Spare l) (event : Option Event) :
    (s.notify callbacks deliveries event).registry.listeners.count l =
      s.listeners.listeners.count l := by
  cases event with
  | none => rfl
  | some event => exact Registry.count_dispatch hspare

/-! ## Balanced books -/

/-- The books of a listener are balanced: its ledger is that of the bucket, and never was negative.
-/
structure Balanced (l : Listener) (layout : Layout) (w : World) : Prop where
  /-- The layout of the store stays what it is. -/
  layout_eq : w.store.layout = layout
  /-- Until the store is shut down, the listener is registered once. -/
  registered : w.store.live = true → w.store.listeners.listeners.count l = 1
  /-- What the listener heard makes the ledger of the bucket. -/
  exact : (heard l w.deliveries).foldl post zero = ofBucket layout w.session.bucket
  /-- What it had heard at any time made no entry negative. -/
  nonneg : ∀ events, events <+: heard l w.deliveries → ∀ n g, 0 ≤ events.foldl post zero n g

namespace Balanced

variable {layout : Layout} {ctx : Context} {w w' : World}

/-- Books stay balanced while nothing is delivered and the bucket keeps its objects. -/
lemma of_eq (h : Balanced l layout w) (hlayout : w'.store.layout = w.store.layout)
    (hdeliveries : w'.deliveries = w.deliveries) (hbucket : w'.session.bucket = w.session.bucket)
    (hregistered : w'.store.live = true → w'.store.listeners.listeners.count l = 1) :
    Balanced l layout w' := by
  refine ⟨hlayout.trans h.layout_eq, hregistered, ?_, ?_⟩
  · rw [hdeliveries, hbucket]
    exact h.exact
  · rw [hdeliveries]
    exact h.nonneg

/-- **A call keeps the books balanced.**

**Proof sketch.** If something is announced, the store has not been shut down, so that the listener
hears of it, once; and the event changes the ledger as the call changes the bucket. The ledger is
that of a bucket before and after, so that no entry is negative. -/
lemma call (h : Balanced l layout w) (hplan : ctx.plan = .faultless)
    (hcalm : ctx.callbacks.NeverPanic) (hspare : ctx.callbacks.Spare l) (call : Call)
    (hsize : ∀ t, call = .put t → t.SizeTrue) :
    Balanced l layout (call.operation.perform.runIn ctx w).2 := by
  obtain ⟨session, hbucket, hrun⟩ := Call.hasEffect_effect hplan call w
  have hpost := Call.post_effect (s := w.store) (b := w.session.bucket) call hsize
  have hlive := Call.live_of_event (s := w.store) (b := w.session.bucket) call
  rw [h.layout_eq, ← hbucket] at hpost
  rw [hrun]
  generalize (call.effect w.store w.session.bucket).event = event at hpost hlive ⊢
  have hheard : heard l (w.store.notify ctx.callbacks w.deliveries event).deliveries =
      heard l w.deliveries ++ event.toList :=
    heard_notify hcalm fun hevent => h.registered (hlive hevent)
  have hexact : (heard l w.deliveries ++ event.toList).foldl post zero =
      ofBucket layout session.bucket := by
    rw [List.foldl_append, h.exact, ← hpost]
    cases event <;> rfl
  refine ⟨h.layout_eq, ?_, ?_, ?_⟩
  · intro hlive'
    exact (count_notify hspare event).trans (h.registered hlive')
  · rw [← hexact, ← hheard]
    rfl
  · intro events hevents n g
    have hevents : events <+: heard l w.deliveries ++ event.toList := hheard ▸ hevents
    cases event with
    | none => exact h.nonneg events (by simpa using hevents) n g
    | some event =>
      rcases List.prefix_concat_iff.1 hevents with rfl | hold
      · rw [← Option.toList_some, hexact]
        exact Int.natCast_nonneg _
      · exact h.nonneg events hold n g

/-- **Every operation keeps the books balanced**, but for one that adds or removes the listener. -/
lemma perform (h : Balanced l layout w) (hplan : ctx.plan = .faultless)
    (hcalm : ctx.callbacks.NeverPanic) (hspare : ctx.callbacks.Spare l) (o : Operation)
    (hadd : o ≠ .addListener l) (hremove : o ≠ .removeListener l)
    (hsize : ∀ t, o = .put t → t.SizeTrue) :
    Balanced l layout (o.perform.runIn ctx w).2 := by
  cases o with
  | put t =>
    refine h.call hplan hcalm hspare (.put t) fun t' ht' => hsize t' ?_
    exact congrArg Call.operation ht'
  | get t => exact h.call hplan hcalm hspare (.get t) (by simp)
  | deleteTile t => exact h.call hplan hcalm hspare (.deleteTile t) (by simp)
  | deleteLayer n => exact h.call hplan hcalm hspare (.deleteLayer n) (by simp)
  | deleteGridset n g => exact h.call hplan hcalm hspare (.deleteGridset n g) (by simp)
  | getMetadata n name => exact h.call hplan hcalm hspare (.getMetadata n name) (by simp)
  | putMetadata n name value =>
    exact h.call hplan hcalm hspare (.putMetadata n name value) (by simp)
  | deleteRange => exact h
  | rename => exact h
  | clear => exact h
  | checkAccess =>
    obtain ⟨x, hserves⟩ := Store.exists_serves_probeRoot (s := w.store) w.session.bucket
    obtain ⟨session, hbucket, hrun⟩ := StoreM.exists_runIn_request hplan hserves
    have hworld : (Operation.checkAccess.perform.runIn ctx w).2 = { w with session } := by
      simp only [Operation.perform, Store.checkAccess, StoreM.runIn_bind, hrun]
      rfl
    rw [hworld]
    exact h.of_eq rfl rfl hbucket h.registered
  | destroy =>
    refine h.of_eq rfl rfl rfl ?_
    intro hlive
    cases hlive
  | addListener l' =>
    have hne : l' ≠ l := fun heq => hadd (congrArg _ heq)
    simp only [Operation.perform, StoreM.runIn_bind, StoreM.runIn_addListener, StoreM.runIn_pure]
    split_ifs with hlive
    · refine h.of_eq rfl rfl rfl fun _ => ?_
      rw [← h.registered hlive]
      exact Registry.count_edit (e := .add l') (by simpa using hne) (by simp)
    · exact h
  | removeListener l' =>
    have hne : l' ≠ l := fun heq => hremove (congrArg _ heq)
    refine h.of_eq rfl rfl rfl fun hlive => ?_
    rw [← h.registered hlive]
    exact Registry.count_edit (e := .remove l') (by simp) (by simpa using hne)

/-- A run keeps the books balanced. -/
lemma performAll (h : Balanced l layout w) (hplan : ctx.plan = .faultless)
    (hcalm : ctx.callbacks.NeverPanic) (hspare : ctx.callbacks.Spare l)
    (operations : List Operation) (hadd : .addListener l ∉ operations)
    (hremove : .removeListener l ∉ operations)
    (hsize : ∀ t, .put t ∈ operations → t.SizeTrue) :
    Balanced l layout (w.after ctx operations) := by
  induction operations generalizing w with
  | nil => exact h
  | cons o rest ih =>
    simp only [List.mem_cons, not_or] at hadd hremove
    rw [World.after_cons]
    refine ih (h.perform hplan hcalm hspare o (Ne.symm hadd.1) (Ne.symm hremove.1) ?_)
      hadd.2 hremove.2 ?_
    · rintro t rfl
      exact hsize t List.mem_cons_self
    · intro t ht
      exact hsize t (List.mem_cons_of_mem _ ht)

end Balanced

end Ledger

/-! ## Runs -/

/-- **The ledger of a listener is exact.** Take a store over a bucket that holds nothing strictly
below its root, and a listener that is registered once and has heard nothing yet. Let no request
fail, no listener panic, and nobody add or remove the listener; and let every tile that is stored
have the size of its blob. Then after every run of operations the ledger that the listener keeps is,
for every gridset of every layer, the number of bytes of its tiles; and no entry was ever negative,
whatever part of what was delivered is looked at from the beginning.

**Proof sketch.** The books are balanced at first, for the bucket holds no bytes of the store; every
operation keeps them balanced; and so does every run, by induction. What was delivered up to some
time is heard up to that time. -/
theorem Store.ledger_exact (ctx : Context) (w : World) (l : Listener) (operations : List Operation)
    (hplan : ctx.plan = .faultless) (hcalm : ctx.callbacks.NeverPanic)
    (hspare : ctx.callbacks.Spare l) (hregistered : w.store.listeners.listeners.count l = 1)
    (hnew : ∀ d ∈ w.deliveries, d.listener ≠ l)
    (hempty : ∀ k o, w.session.bucket.find? k = some o → k.isBelow w.store.layout.root = false)
    (hadd : .addListener l ∉ operations) (hremove : .removeListener l ∉ operations)
    (hsize : ∀ t, .put t ∈ operations → t.SizeTrue) :
    (∀ n g, Ledger.keptBy l (w.after ctx operations).deliveries n g =
      w.store.layout.tileBytes (w.after ctx operations).session.bucket n g) ∧
    ∀ deliveries, deliveries <+: (w.after ctx operations).deliveries →
      ∀ n g, 0 ≤ Ledger.keptBy l deliveries n g := by
  have hheard : Ledger.heard l w.deliveries = [] := by
    simpa [Ledger.heard] using hnew
  have hbalanced : Ledger.Balanced l w.store.layout w := by
    refine ⟨rfl, fun _ => hregistered, ?_, ?_⟩
    · rw [hheard, Ledger.ofBucket_of_forall hempty]
      rfl
    · rw [hheard]
      intro events hevents n g
      rw [List.prefix_nil.1 hevents]
      exact le_rfl
  have hafter := hbalanced.performAll hplan hcalm hspare operations hadd hremove hsize
  refine ⟨?_, ?_⟩
  · intro n g
    exact congrFun (congrFun hafter.exact n) g
  · intro deliveries hdeliveries n g
    exact hafter.nonneg _ (hdeliveries.filterMap _) n g

/-- One of two listeners keeps its books while a tile is written twice, in two spellings of its
format, the other listener is removed, the gridset is removed and the store is shut down. It hears
of the second write as an update of the first. -/
theorem Store.ledger_exact_over_two_spellings :
    let t : Tile := { layer := "a", gridset := "b", coord := ⟨1, 2, 3⟩, format := "image/jpeg" }
    let t' : Tile := { t with format := "jpeg" }
    let w : World :=
      { store := { Store.ofRoot "p" with listeners := ⟨[.console, .named "books"]⟩ } }
    let operations : List Operation :=
      [.put (t.withBlob [1, 2, 3]), .removeListener .console, .put (t'.withBlob [4]),
        .deleteGridset "a" "b", .destroy]
    Ledger.heard (.named "books") (w.after {} operations).deliveries =
      [.tileStored (t.withBlob [1, 2, 3]), .tileUpdated (t'.withBlob [4]) 3,
        .gridsetDeleted "a" "b"] ∧
    (∀ n g, Ledger.keptBy (.named "books") (w.after {} operations).deliveries n g =
      w.store.layout.tileBytes (w.after {} operations).session.bucket n g) ∧
    ∀ deliveries, deliveries <+: (w.after {} operations).deliveries →
      ∀ n g, 0 ≤ Ledger.keptBy (.named "books") deliveries n g := by
  intro t t' w operations
  have hsize : ∀ t, .put t ∈ operations → t.SizeTrue := by
    intro s hs blob hblob
    simp only [operations, List.mem_cons, List.not_mem_nil, Operation.put.injEq, reduceCtorEq,
      false_or, or_false] at hs
    rcases hs with rfl | rfl <;> cases hblob <;> rfl
  have hempty : ∀ k o, w.session.bucket.find? k = some o →
      k.isBelow w.store.layout.root = false := nofun
  have hheard : Ledger.heard (.named "books") (w.after {} operations).deliveries =
      [.tileStored (t.withBlob [1, 2, 3]), .tileUpdated (t'.withBlob [4]) 3,
        .gridsetDeleted "a" "b"] := by
    decide +kernel
  exact ⟨hheard, Store.ledger_exact {} w (.named "books") operations rfl (fun _ _ => rfl)
    (fun _ _ => ⟨nofun, nofun⟩) (by decide) nofun hempty (by decide) (by decide) hsize⟩

end TileCache
