import TileCache.Proofs.Confinement
import TileCache.Proofs.LayerDeletion
import TileCache.Proofs.Subtree
import TileCache.Proofs.TileRequests
set_option autoImplicit false

/-!
# Layers are isolated from each other

All that a call has to do with is strictly below the key of the layer it names. No layer name makes
it otherwise, for an identifier is one segment, whatever characters are in it; nor does a gridset
that is called like metadata. So the calls on one layer cannot be told of what is done to others,
be it by the same store or by one with another root, but for the time.

## Main definitions

* `TileCache.Layout.Covers` — the keys strictly below the key of a layer.
* `TileCache.Layout.Apart` — layers of one root with different names, or below different roots.
* `TileCache.Call.layer` — the layer that a call names.
* `TileCache.Visit`, `TileCache.Session.afterVisits` — calls that stores make on the same bucket.
* `TileCache.Session.atTimeOf` — a session with the time and the past of another.
* `TileCache.Call.SameTo` — runs of a call that are the same but for objects with other keys.

## Main results

* `TileCache.Layout.Apart.not_covers` — no key is in two layers that are apart.
* `TileCache.Call.confined_requests` — the requests of a call are confined to its layer.
* `TileCache.Session.find?_afterVisits` — calls on other layers leave a layer as it is.
* `TileCache.Call.confined_to_layer` — a call neither changes nor is told of anything else.
-/

namespace TileCache

namespace Layout

variable {l l' : Layout} {n n' g : String} {t : Tile} {k base : Key}

/-- The key `k` is strictly below the key of the layer. -/
def Covers (l : Layout) (n : String) (k : Key) : Prop :=
  ∃ base, l.layer n = .ok base ∧ k.isBelow base = true

/-- A layer with a name has a key. -/
lemma exists_layer (l : Layout) (hn : n ≠ "") : ∃ base, l.layer n = .ok base :=
  ⟨l.root.child (Segment.encode n hn), layer_eq_ok_iff.2 ⟨hn, rfl⟩⟩

/-- A tile is kept in its layer. -/
lemma covers_tile (h : l.tile t = .ok k) : l.Covers t.layer k := by
  obtain ⟨hs, -⟩ := tile_eq_ok_iff.1 h
  obtain ⟨base, hbase⟩ := l.exists_layer hs.layer
  exact ⟨base, hbase, (tile_isBelow_layer h hbase).2 rfl⟩

/-- The metadata of a layer is kept in it. -/
lemma covers_metadata (h : l.metadata n = .ok k) : l.Covers n k := by
  obtain ⟨hn, -⟩ := metadata_eq_ok_iff.1 h
  obtain ⟨base, hbase⟩ := l.exists_layer hn
  exact ⟨base, hbase, (metadata_isBelow_layer h hbase).2 rfl⟩

/-- What is in a gridset is in its layer. -/
lemma covers_of_gridset (h : l.gridset n g = .ok base) (hk : k.isBelow base = true) :
    l.Covers n k := by
  obtain ⟨base', hbase', hbelow⟩ := exists_layer_of_gridset h
  exact ⟨base', hbase', hbelow k hk⟩

/-- The layers `n` and `n'` have different names and one root, or roots of which neither is within
the other. -/
def Apart (l : Layout) (n : String) (l' : Layout) (n' : String) : Prop :=
  l.root = l'.root ∧ n ≠ n' ∨ l.root.isWithin l'.root = false ∧ l'.root.isWithin l.root = false

/-- It is decided by looking at the roots and the names. -/
instance : Decidable (l.Apart n l' n') :=
  inferInstanceAs (Decidable (_ ∨ _))

/-- **No key is in two layers that are apart.** -/
lemma Apart.not_covers (h : l.Apart n l' n') (hk : l.Covers n k) : ¬l'.Covers n' k := by
  rintro ⟨base', hbase', hbelow'⟩
  obtain ⟨base, hbase, hbelow⟩ := hk
  rcases h with ⟨hroot, hne⟩ | ⟨hout, hout'⟩
  · obtain rfl : l = l' := congrArg Layout.mk hroot
    exact hne (layer_eq_of_isBelow hbase hbase' hbelow hbelow')
  · -- The key is within both roots, so that one of them is within the other.
    have hin := Key.isWithin_or_isWithin
      (Key.isWithin_of_isBelow (isBelow_root_of_layer hbase hbelow))
      (Key.isWithin_of_isBelow (isBelow_root_of_layer hbase' hbelow'))
    simp [hout, hout'] at hin

end Layout

/-! ## Operations -/

namespace Store

open RequestM

variable (s : Store)

/-- Storing a tile is confined to its layer. -/
lemma confined_writeTile (t : Tile) : Confined (s.layout.Covers t.layer) (writeTile t s) := by
  rw [writeTile_eq]
  refine confined_ofExcept_bind fun x hcheck => ?_
  obtain ⟨-, -, hkey, -⟩ := checkedPut_eq_ok_iff.1 hcheck
  have hcovers := Layout.covers_tile hkey
  have hwrite : Confined (s.layout.Covers t.layer) (writeTile.writeBlob t x.2 x.1) :=
    (Backend.confined_put hcovers x.1 t.format).bind fun _ _ => Backend.confined_count _
  split_ifs
  · exact hwrite.bind fun _ _ => confined_pure none
  · exact (Backend.confined_head hcovers).bind fun info _ =>
      hwrite.bind fun _ _ => confined_pure _

/-- Reading a tile is confined to its layer. -/
lemma confined_readTile (t : Tile) : Confined (s.layout.Covers t.layer) (readTile t s) := by
  unfold readTile
  rw [← checkedTile_bind]
  refine confined_ofExcept_bind fun key hcheck => ?_
  have hcovers := Layout.covers_tile (checkedTile_eq_ok_iff.1 hcheck).1
  refine (Backend.confined_get hcovers).bind fun object _ => ?_
  cases object <;> exact (Backend.confined_count _).bind fun _ _ => confined_pure _

/-- Removing a tile is confined to its layer. -/
lemma confined_eraseTile (t : Tile) : Confined (s.layout.Covers t.layer) (eraseTile t s) := by
  unfold eraseTile
  rw [← checkedTile_bind]
  refine confined_ofExcept_bind fun key hcheck => ?_
  have hcovers := Layout.covers_tile (checkedTile_eq_ok_iff.1 hcheck).1
  refine (Backend.confined_head hcovers).bind fun info _ => ?_
  cases info with
  | none => exact confined_pure none
  | some info =>
    exact (Backend.confined_delete hcovers).bind fun _ _ =>
      (Backend.confined_count _).bind fun _ _ => confined_pure _

/-- Removing a layer is confined to it. -/
lemma confined_eraseLayer (n : String) : Confined (s.layout.Covers n) (eraseLayer n s) := by
  unfold eraseLayer
  rw [← checkedLayer_bind]
  refine confined_ofExcept_bind fun x hcheck => ?_
  obtain ⟨hbase, hmetadata, -⟩ := checkedLayer_eq_ok_iff.1 hcheck
  have hcovers := Layout.covers_metadata hmetadata
  have hrun : Confined (s.layout.Covers n) (BulkDelete.run x.1 s.batchSize) :=
    BulkDelete.confined_run (fun k hk => ⟨x.1, hbase, hk⟩) s.batchSize
  -- Once it is known whether the layer is there, its metadata is deleted or nothing is left to do.
  have hlast (existed : Bool) : Confined (s.layout.Covers n) (do
      if existed then Backend.delete x.2
      return existed) := by
    cases existed with
    | true => exact (Backend.confined_delete hcovers).bind fun _ _ => confined_pure true
    | false => exact confined_pure false
  refine hrun.bind fun submitted _ => ?_
  split_ifs
  · exact (confined_pure true).bind fun existed _ => hlast existed
  · exact (Backend.confined_head hcovers).bind fun info _ =>
      (confined_pure info.isSome).bind fun existed _ => hlast existed

/-- Removing a gridset is confined to its layer. -/
lemma confined_eraseGridset (n g : String) :
    Confined (s.layout.Covers n) (eraseGridset n g s) := by
  unfold eraseGridset
  rw [← checkedGridset_bind]
  refine confined_ofExcept_bind fun base hcheck => ?_
  have hbase := (checkedGridset_eq_ok_iff.1 hcheck).1
  exact (BulkDelete.confined_run (fun k hk => Layout.covers_of_gridset hbase hk) s.batchSize).bind
    fun submitted _ => confined_pure _

/-- Loading metadata is confined to its layer. -/
lemma confined_loadProperties (n : String) : Confined (s.layout.Covers n) (s.loadProperties n) := by
  unfold loadProperties
  refine confined_ofExcept_bind fun key hkey => ?_
  refine (Backend.confined_get (Layout.covers_metadata hkey)).bind fun object _ => ?_
  cases object with
  | none => exact confined_pure _
  | some o => exact confined_ofExcept _

/-- Reading metadata is confined to its layer. -/
lemma confined_readMetadata (n name : String) :
    Confined (s.layout.Covers n) (readMetadata n name s) := by
  unfold readMetadata
  rw [requireLive_eq]
  exact confined_ofExcept_bind fun _ _ => (s.confined_loadProperties n).bind fun properties _ =>
    confined_pure _

/-- Writing metadata is confined to its layer. -/
lemma confined_writeMetadata (n name value : String) :
    Confined (s.layout.Covers n) (writeMetadata n name value s) := by
  unfold writeMetadata
  rw [requireLive_eq]
  exact confined_ofExcept_bind fun _ _ => (s.confined_loadProperties n).bind fun properties _ =>
    confined_ofExcept_bind fun key hkey =>
      Backend.confined_put (Layout.covers_metadata hkey) _ _

end Store

namespace Call

open RequestM Store

/-- The layer that a call names. -/
def layer : Call → String
  | put t => t.layer
  | get t => t.layer
  | deleteTile t => t.layer
  | deleteLayer n => n
  | deleteGridset n _ => n
  | getMetadata n _ => n
  | putMetadata n _ _ => n

/-- **The requests of a call are confined to its layer.** -/
lemma confined_requests (s : Store) (call : Call) :
    (call.requests s).Confined (s.layout.Covers call.layer) := by
  cases call with
  | put t => exact (s.confined_writeTile t).map
  | get t => exact (s.confined_readTile t).map
  | deleteTile t => exact (s.confined_eraseTile t).map
  | deleteLayer n => exact (s.confined_eraseLayer n).map
  | deleteGridset n g => exact (s.confined_eraseGridset n g).map
  | getMetadata n name => exact (s.confined_readMetadata n name).map
  | putMetadata n name value => exact (s.confined_writeMetadata n name value).map

end Call

/-! ## Calls of others -/

/-- A call that a store makes, with what becomes of its requests and what its listeners do. -/
structure Visit where
  context : Context
  store : Store
  call : Call

/-- The session after a visit. -/
def Visit.run (v : Visit) (s : Session) : Session :=
  (v.call.operation.perform.runIn v.context { store := v.store, session := s }).2.session

namespace Session

/-- The session after visits, one after the other. -/
def afterVisits (s : Session) (visits : List Visit) : Session :=
  visits.foldl (fun s v => v.run s) s

/-- The session `s` with the past and the time of `s'`. -/
def atTimeOf (s s' : Session) : Session :=
  { s with trace := s'.trace, bucket := { s.bucket with clock := s'.bucket.clock } }

variable {l : Layout} {n : String}

/-- A visit to another layer leaves a layer as it is. -/
lemma find?_visit {v : Visit} (h : l.Apart n v.store.layout v.call.layer) (s : Session) {k : Key}
    (hk : l.Covers n k) : (v.run s).bucket.find? k = s.bucket.find? k := by
  have hkeeps := (v.call.confined_requests v.store).keeps v.context.plan s k (h.not_covers hk)
  rwa [Visit.run, Call.session_perform]

/-- **Visits to other layers leave a layer as it is**, however many there are. -/
lemma find?_afterVisits {visits : List Visit}
    (h : ∀ v ∈ visits, l.Apart n v.store.layout v.call.layer) (s : Session) {k : Key}
    (hk : l.Covers n k) : (s.afterVisits visits).bucket.find? k = s.bucket.find? k := by
  induction visits generalizing s with
  | nil => rfl
  | cons v rest ih =>
    calc (s.afterVisits (v :: rest)).bucket.find? k
        = ((v.run s).afterVisits rest).bucket.find? k := rfl
      _ = (v.run s).bucket.find? k := ih (fun u hu => h u (List.mem_cons_of_mem v hu)) (v.run s)
      _ = s.bucket.find? k := find?_visit (h v List.mem_cons_self) s hk

/-- But for the time and the past, a layer is as it was before visits to others. -/
lemma alike_afterVisits {visits : List Visit}
    (h : ∀ v ∈ visits, l.Apart n v.store.layout v.call.layer) (s : Session) :
    (s.afterVisits visits).Alike (l.Covers n) (s.atTimeOf (s.afterVisits visits)) :=
  ⟨rfl, rfl, fun _ hk => find?_afterVisits h s hk⟩

end Session

namespace Call

open RequestM

/-- Two runs that are the same but for objects with keys that do not satisfy `P`: the same reply,
the same deliveries, the same store with its listeners, and sessions that are alike. -/
structure SameTo (P : Key → Prop) (x y : Reply × World) : Prop where
  reply_eq : x.1 = y.1
  deliveries_eq : x.2.deliveries = y.2.deliveries
  store_eq : x.2.store = y.2.store
  alike : x.2.session.Alike P y.2.session

/-- A call goes the same on sessions that are alike for its layer. -/
lemma sameTo_of_alike (c : Context) (w : World) (call : Call) {s s' : Session}
    (h : s.Alike (w.store.layout.Covers call.layer) s') :
    SameTo (w.store.layout.Covers call.layer)
      (call.operation.perform.runIn c { w with session := s })
      (call.operation.perform.runIn c { w with session := s' }) := by
  obtain ⟨hresult, halike⟩ := (call.confined_requests w.store).alike c.plan h
  cases hrun : (call.requests w.store).runUnder c.plan s with
  | mk x s₁ =>
    cases hrun' : (call.requests w.store).runUnder c.plan s' with
    | mk x' s₁' =>
      rw [hrun, hrun'] at hresult halike
      obtain rfl : x = x' := hresult
      have hperform : call.operation.perform.runIn c { w with session := s } = _ :=
        runIn_perform (w := { w with session := s }) hrun
      have hperform' : call.operation.perform.runIn c { w with session := s' } = _ :=
        runIn_perform (w := { w with session := s' }) hrun'
      rw [hperform, hperform']
      exact ⟨rfl, rfl, rfl, halike⟩

/-- **A call is confined to the layer it names**, on every bucket, whatever becomes of its requests
and whatever the listeners do. What is not strictly below the key of the layer keeps its data and
its time. On two buckets with the same time and the same objects below that key, the call ends in
the same way, with the same tile, the same deliveries and the same requests, and leaves the same
objects below the key. The subtrees of layers that are apart are disjoint: those of different layers
of one root, and those below roots of which neither is within the other. So whatever calls are made
on such layers in between, by this store or another, the layer is as before, and a call on it goes
as if nothing had been done in between but that time has passed.

**Proof sketch.** The requests of a call are put together of single ones about keys in the layer,
and of bulk deletions, which delete what they have listed below such a key. What is announced
depends on what the requests come to alone. -/
theorem confined_to_layer (c : Context) (w : World) (call : Call) :
    let covers := w.store.layout.Covers call.layer
    (∀ s k, ¬covers k →
      (call.operation.perform.runIn c { w with session := s }).2.session.bucket.find? k =
        s.bucket.find? k) ∧
    (∀ s s' : Session, s.Alike covers s' →
      SameTo covers (call.operation.perform.runIn c { w with session := s })
        (call.operation.perform.runIn c { w with session := s' })) ∧
    (∀ l n, w.store.layout.Apart call.layer l n → ∀ k, covers k → ¬l.Covers n k) ∧
    ∀ (s : Session) (visits : List Visit),
      (∀ v ∈ visits, w.store.layout.Apart call.layer v.store.layout v.call.layer) →
      let later := s.afterVisits visits
      (∀ k, covers k → later.bucket.find? k = s.bucket.find? k) ∧
      SameTo covers (call.operation.perform.runIn c { w with session := later })
        (call.operation.perform.runIn c { w with session := s.atTimeOf later }) := by
  refine ⟨fun s k hk => ?_, fun s s' h => sameTo_of_alike c w call h,
    fun l n h k hk => h.not_covers hk, fun s visits h => ?_⟩
  · rw [session_perform]
    exact (call.confined_requests w.store).keeps c.plan s k hk
  · exact ⟨fun k hk => Session.find?_afterVisits h s hk,
      sameTo_of_alike c w call (Session.alike_afterVisits h s)⟩

/-- The tile of the layer `roads` is fetched after a store with the same root has removed the layer
`road` and one with another root has removed its own layer `roads`. -/
theorem roads_fetched_after_visits :
    let w := World.oneRoad
    let tile : Tile := { layer := "roads", gridset := "EPSG:4326", coord := ⟨0, 0, 0⟩,
                         format := "image/png" }
    let key := Key.ofText "gwc/roads/EPSG:4326/png/default/0/0/0.png"
    let visits : List Visit := [⟨{}, .ofRoot "gwc", .deleteLayer "road"⟩,
      ⟨{}, .ofRoot "gwc2", .deleteLayer "roads"⟩]
    let later := w.session.afterVisits visits
    later.bucket.find? key = w.session.bucket.find? key ∧
    ((Call.get tile).operation.perform.runIn {} { w with session := later }).1 =
      ((Call.get tile).operation.perform.runIn {}
        { w with session := w.session.atTimeOf later }).1 ∧
    ((Call.get tile).operation.perform.runIn {}
        { w with session := later }).2.session.bucket.find? (Key.ofText "gwc/road") =
      later.bucket.find? (Key.ofText "gwc/road") := by
  intro w tile key visits later
  obtain ⟨hkeeps, -, -, hvisits⟩ := confined_to_layer {} w (.get tile)
  have hkey : w.store.layout.tile tile = .ok key := by decide +kernel
  have hcovers : w.store.layout.Covers "roads" key := Layout.covers_tile hkey
  have hbase : w.store.layout.layer "roads" = .ok (Key.ofText "gwc/roads") := by decide +kernel
  have hother : ¬w.store.layout.Covers "roads" (Key.ofText "gwc/road") := by
    rintro ⟨base, hlayer, hbelow⟩
    obtain rfl := Except.ok.inj (hbase.symm.trans hlayer)
    exact absurd hbelow (by decide +kernel)
  have hapart : ∀ v ∈ visits,
      w.store.layout.Apart "roads" v.store.layout v.call.layer := by
    decide +kernel
  obtain ⟨hfind, hsame⟩ := hvisits w.session visits hapart
  exact ⟨hfind key hcovers, hsame.reply_eq, hkeeps later _ hother⟩

end Call

end TileCache
