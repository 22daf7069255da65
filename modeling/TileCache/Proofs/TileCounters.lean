import TileCache.Proofs.Atomicity
import TileCache.Proofs.Journal
set_option autoImplicit false

/-!
# Tiles are counted exactly

Of single tiles it is counted how many were written, with how many octets, how many fetches found
one and how many did not, and how many were removed. Each of these counts is moved behind the last
request that it is about and before any listener is told, so that neither a request that fails nor a
listener that panics makes it wrong. Over a whole run, the counts grow by what its journal says was
done.

## Main definitions

* `TileCache.JournalLine.written?` — the blob that a tile was stored with.
* `TileCache.JournalLine.fetches` — whether a fetch of a tile returned that there is one, or none.
* `TileCache.JournalLine.frees` — whether a tile was probed, found and deleted.

## Main results

* `TileCache.Store.counters_writeTile`, `counters_readTile`, `counters_eraseTile` — what the
  requests about one tile count.
* `TileCache.Operation.tiles_perform` — what one operation counts.
* `TileCache.World.tile_counters_exact` — what a run counts.
-/

namespace TileCache

/-! ## What is to be counted -/

/-- Whether requests are a probe that finds an object and the deletion of it, which is carried out.
-/
def Plan.frees (p : Plan) (s : Session) : List Request → Bool
  | [.head key, .delete key'] =>
    key == key' && (p.head s.trace key).isNone && (s.bucket.find? key).isSome &&
      p.carriesOut (s.trace ++ [.head key]) (.delete key')
  | _ => false

namespace JournalLine

/-- The blob of a tile that was to be stored, if the write was carried out. -/
def written? (l : JournalLine) : Option Octets :=
  match l.operation with
  | .put t => if l.carriedOut.any Request.isPut then t.blob else none
  | _ => none

/-- Whether a tile was fetched and the answer was `found`. -/
def fetches (found : Bool) (l : JournalLine) : Bool :=
  match l.operation with
  | .get _ => l.completion = .returned (.truth found)
  | _ => false

/-- Whether a tile was to be removed, a probe found it, and its deletion was carried out. -/
def frees (l : JournalLine) : Bool :=
  match l.operation with
  | .deleteTile _ => l.plan.frees l.before l.requests
  | _ => false

end JournalLine

namespace Counters

/-- The counters after a blob was written, if one was. -/
def wrote (c : Counters) : Option Octets → Counters
  | none => c
  | some blob => { c with puts := c.puts + 1, putBytes := c.putBytes + blob.length }

/-- The counters after a fetch, which may have failed. -/
def fetched (c : Counters) : Except StorageError (Option StoredObject) → Counters
  | .error _ => c
  | .ok none => { c with getMisses := c.getMisses + 1 }
  | .ok (some _) => { c with getHits := c.getHits + 1 }

/-- The counters after an operation, by its line. -/
def noting (c : Counters) (l : JournalLine) : Counters :=
  { c with
    puts := c.puts + l.written?.toList.length
    putBytes := c.putBytes + (l.written?.getD []).length
    getHits := c.getHits + (l.fetches true).toNat
    getMisses := c.getMisses + (l.fetches false).toNat
    deletes := c.deletes + l.frees.toNat }

end Counters

/-! ## Requests about one tile -/

namespace Store

open RequestM

variable (s : Store) (t : Tile) (p : Plan) (σ : Session)

/-- **A blob is counted** just if its write is carried out, behind requests of which none was. -/
lemma counters_writeBlob {α : Type} (a : α) {t : Tile} {p : Plan} {σ σ₁ : Session} {key : Key}
    {blob : Octets} {probe : List Request} (hblob : t.blob = some blob)
    (hprobe : p.carriedOut σ.trace probe = []) (htrace : σ₁.trace = σ.trace ++ probe)
    (hcounters : σ₁.counters = σ.counters) :
    let after := ((writeTile.writeBlob t key blob >>= fun _ => pure a).runUnder p σ₁).2
    ∃ requests, after.trace = σ.trace ++ requests ∧ after.counters = σ.counters.wrote
      (if (p.carriedOut σ.trace requests).any Request.isPut then t.blob else none) := by
  refine ⟨probe ++ [.put key blob.length t.format], ?_⟩
  have hcarried : p.carriedOut σ.trace (probe ++ [.put key blob.length t.format]) =
      if (p.put σ₁.trace key).isNone then [.put key blob.length t.format] else [] := by
    rw [p.carriedOut_append, hprobe, ← htrace]
    simp [Plan.carriedOut, Plan.carriesOut]
  rw [hcarried, ← List.append_assoc, ← htrace, ← hcounters, hblob, writeTile.writeBlob, bind_assoc,
    runUnder_bind, Backend.runUnder_put]
  cases p.put σ₁.trace key <;> exact ⟨rfl, rfl⟩

/-- **Storing a tile counts its blob** just if the write is carried out.

**Proof sketch.** By the request at which it ends. The probe is no write, so that only the write
itself can be one that is carried out. -/
lemma counters_writeTile :
    ∃ requests, ((writeTile t s).runUnder p σ).2.trace = σ.trace ++ requests ∧
      ((writeTile t s).runUnder p σ).2.counters = σ.counters.wrote
        (if (p.carriedOut σ.trace requests).any Request.isPut then t.blob else none) := by
  rw [writeTile_eq]
  cases hcheck : s.checkedPut t with
  | error e =>
    rw [ofExcept_error_bind, runUnder_throw]
    exact ⟨[], (List.append_nil _).symm, rfl⟩
  | ok x =>
    obtain ⟨blob, key⟩ := x
    obtain ⟨hblob, -⟩ := checkedPut_eq_ok_iff.1 hcheck
    rw [ofExcept_ok, pure_bind]
    cases s.listeners.isEmpty with
    | true => exact counters_writeBlob none hblob rfl (List.append_nil _).symm rfl
    | false =>
      cases hhead : (Backend.head key).runUnder p σ with
      | mk info σ₁ =>
        obtain rfl := Backend.eq_sent_of_head hhead
        rw [if_neg Bool.false_ne_true, runUnder_bind, hhead]
        cases info with
        | error e => exact ⟨[.head key], rfl, rfl⟩
        | ok info => exact counters_writeBlob (some (writeEvent t info)) hblob rfl rfl rfl

/-- **Reading a tile counts what the fetch returns**, and nothing if it fails. -/
lemma counters_readTile :
    ((readTile t s).runUnder p σ).2.counters =
      σ.counters.fetched ((readTile t s).runUnder p σ).1 := by
  unfold readTile
  rw [← checkedTile_bind]
  cases s.checkedTile t with
  | error e => rfl
  | ok key =>
    rw [ofExcept_ok, pure_bind, runUnder_bind, Backend.runUnder_get]
    split
    next object σ₁ hget =>
      obtain rfl : σ.sent (.get key) = σ₁ := congrArg Prod.snd hget
      cases object <;> rfl
    next e σ₁ hget =>
      obtain rfl : σ.sent (.get key) = σ₁ := congrArg Prod.snd hget
      rfl

/-- **Removing a tile is counted** just if a probe finds it and the deletion is carried out. -/
lemma counters_eraseTile :
    ∃ requests, ((eraseTile t s).runUnder p σ).2.trace = σ.trace ++ requests ∧
      ((eraseTile t s).runUnder p σ).2.counters =
        { σ.counters with deletes := σ.counters.deletes + (p.frees σ requests).toNat } := by
  unfold eraseTile
  rw [← checkedTile_bind]
  cases s.checkedTile t with
  | error e => exact ⟨[], (List.append_nil _).symm, rfl⟩
  | ok key =>
    rw [ofExcept_ok, pure_bind, runUnder_bind, Backend.runUnder_head]
    have hfrees : p.frees σ [.head key, .delete key] = ((p.head σ.trace key).isNone &&
        (σ.bucket.find? key).isSome &&
        (p.delete (σ.trace ++ [.head key]) key).all BucketError.isNotFound) := by
      simp [Plan.frees, Plan.carriesOut]
    cases hhead : p.head σ.trace key with
    | some error =>
      refine ⟨[.head key], ?_⟩
      dsimp only
      cases error.isNotFound <;> exact ⟨rfl, rfl⟩
    | none =>
      -- only behind a probe that finds the tile is its deletion requested
      cases hfind : σ.bucket.find? key with
      | none => exact ⟨[.head key], rfl, rfl⟩
      | some o =>
        refine ⟨[.head key, .delete key], ?_⟩
        rw [hfrees, hhead, hfind]
        simp only [Option.map_some, runUnder_bind, Backend.runUnder_delete, Session.trace_sent]
        cases p.delete (σ.trace ++ [.head key]) key with
        | none => exact ⟨List.append_assoc .., rfl⟩
        | some error =>
          dsimp only [Option.all_some]
          cases error.isNotFound <;> exact ⟨List.append_assoc .., rfl⟩

end Store

/-! ## One operation -/

/-- How a fetch of a tile ends. -/
lemma Call.completion_get (c : Context) (w : World) (t : Tile) :
    ((Call.get t).operation.perform.runIn c w).1.completion =
      match ((Store.readTile t w.store).runUnder c.plan w.session).1 with
      | .error e => .failed e
      | .ok object => .returned (.truth object.isSome) := by
  cases hrun : (Store.readTile t w.store).runUnder c.plan w.session with
  | mk x session =>
    have hrequests : ((Call.get t).requests w.store).runUnder c.plan w.session =
        (x.map (Call.fetched t), session) := by
      rw [Call.requests, RequestM.runUnder_map, hrun]
    rw [Call.runIn_perform hrequests]
    rcases x with e | _ | object <;> rfl

namespace Operation

/-- Whether an operation is about a single tile. -/
def isTile : Operation → Bool
  | put _ | get _ | deleteTile _ => true
  | _ => false

variable (c : Context) (w : World)

/-- Storing a tile counts what its line says. -/
lemma tiles_put (t : Tile) :
    ((put t).perform.runIn c w).2.session.counters.tiles =
      w.session.counters.tiles.noting ((put t).line c w) := by
  obtain ⟨requests, htrace, hcounters⟩ := w.store.counters_writeTile t c.plan w.session
  have hsession : ((put t).perform.runIn c w).2.session =
      ((Store.writeTile t w.store).runUnder c.plan w.session).2 :=
    Call.session_of_map c w (.put t) rfl
  have hrequests : ((put t).line c w).requests = requests :=
    requests_line c w (by rw [hsession, htrace])
  have hwritten : ((put t).line c w).written? =
      if (c.plan.carriedOut w.session.trace requests).any Request.isPut then t.blob else none := by
    rw [← hrequests]
    rfl
  rw [hsession, hcounters, Counters.noting, hwritten]
  -- both sides speak of the blob that was written, whichever it is
  cases (if (c.plan.carriedOut w.session.trace requests).any Request.isPut then t.blob else none) <;>
    rfl

/-- Reading a tile counts what its line says. -/
lemma tiles_get (t : Tile) :
    ((get t).perform.runIn c w).2.session.counters.tiles =
      w.session.counters.tiles.noting ((get t).line c w) := by
  have hsession : ((get t).perform.runIn c w).2.session =
      ((Store.readTile t w.store).runUnder c.plan w.session).2 :=
    Call.session_of_map c w (.get t) rfl
  have hfetches (found : Bool) : ((get t).line c w).fetches found =
      decide (((Call.get t).operation.perform.runIn c w).1.completion =
        .returned (.truth found)) := rfl
  rw [hsession, Store.counters_readTile, Counters.noting, hfetches, hfetches, Call.completion_get]
  rcases ((Store.readTile t w.store).runUnder c.plan w.session).1 with e | _ | object <;> rfl

/-- Removing a tile counts what its line says. -/
lemma tiles_deleteTile (t : Tile) :
    ((deleteTile t).perform.runIn c w).2.session.counters.tiles =
      w.session.counters.tiles.noting ((deleteTile t).line c w) := by
  obtain ⟨requests, htrace, hcounters⟩ := w.store.counters_eraseTile t c.plan w.session
  have hsession : ((deleteTile t).perform.runIn c w).2.session =
      ((Store.eraseTile t w.store).runUnder c.plan w.session).2 :=
    Call.session_of_map c w (.deleteTile t) rfl
  have hrequests : ((deleteTile t).line c w).requests = requests :=
    requests_line c w (by rw [hsession, htrace])
  have hfrees : ((deleteTile t).line c w).frees = c.plan.frees w.session requests := by
    rw [← hrequests]
    rfl
  rw [hsession, hcounters, Counters.noting, hfrees]
  rfl

/-- **An operation that is not about a single tile counts none.** -/
lemma tiles_of_not_isTile {o : Operation} (h : o.isTile = false) :
    (o.perform.runIn c w).2.session.counters.tiles = w.session.counters.tiles := by
  rcases o.session_cases with ⟨call, rfl⟩ | rfl | hsession
  · rw [Call.session_perform]
    cases call with
    | put t => cases h
    | get t => cases h
    | deleteTile t => cases h
    | deleteLayer n => exact ((w.store.spares_eraseLayer n).map c.plan w.session).2
    | deleteGridset n g => exact ((w.store.spares_eraseGridset n g).map c.plan w.session).2
    | getMetadata n name =>
      exact ((w.store.spares_readMetadata n name).map.of_id c.plan w.session).2
    | putMetadata n name value =>
      exact ((w.store.spares_writeMetadata n name value).map.of_id c.plan w.session).2
  · rw [session_checkAccess]
    exact (w.store.spares_probeRoot.of_id c.plan w.session).2
  · rw [hsession]

/-- **An operation that fails counts no tile.** -/
lemma tiles_of_failed {o : Operation} {e : StorageError}
    (h : (o.perform.runIn c w).1.completion = .failed e) :
    (o.perform.runIn c w).2.session.counters.tiles = w.session.counters.tiles := by
  cases htile : o.isTile with
  | false => exact tiles_of_not_isTile c w htile
  | true =>
    -- a failed call about a single tile leaves all counters as they were
    obtain ⟨call, hsingle, rfl⟩ : ∃ call : Call, call.isSingle = true ∧ call.operation = o := by
      cases o with
      | put t => exact ⟨.put t, rfl, rfl⟩
      | get t => exact ⟨.get t, rfl, rfl⟩
      | deleteTile t => exact ⟨.deleteTile t, rfl, rfl⟩
      | _ => cases htile
    obtain ⟨session, hrun, hperform⟩ := Call.of_failed h
    have huntouched := call.atomic_requests w.store hsingle c.plan w.session e session hrun
    rw [hperform]
    exact congrArg Counters.tiles huntouched.counters_eq

/-- **What one operation counts is what its line says.** -/
lemma tiles_perform (o : Operation) :
    (o.perform.runIn c w).2.session.counters.tiles =
      w.session.counters.tiles.noting (o.line c w) := by
  cases o with
  | put t => exact tiles_put c w t
  | get t => exact tiles_get c w t
  | deleteTile t => exact tiles_deleteTile c w t
  | _ => exact tiles_of_not_isTile c w rfl

end Operation

/-! ## Runs -/

/-- What a journal says in all. -/
lemma Counters.foldl_noting (c : Counters) (journal : List JournalLine) :
    journal.foldl noting c =
      { c with
        puts := c.puts + (journal.filterMap JournalLine.written?).length
        putBytes := c.putBytes + ((journal.filterMap JournalLine.written?).map List.length).sum
        getHits := c.getHits + journal.countP (JournalLine.fetches true)
        getMisses := c.getMisses + journal.countP (JournalLine.fetches false)
        deletes := c.deletes + journal.countP JournalLine.frees } := by
  induction journal generalizing c with
  | nil => rfl
  | cons line rest ih =>
    have hcount (holds : JournalLine → Bool) :
        (line :: rest).countP holds = (holds line).toNat + rest.countP holds := by
      rw [List.countP_cons, Nat.add_comm]
      cases holds line <;> rfl
    have hlength : ((line :: rest).filterMap JournalLine.written?).length =
        line.written?.toList.length + (rest.filterMap JournalLine.written?).length := by
      cases h : line.written? <;> simp [h, Nat.add_comm]
    have hsum : (((line :: rest).filterMap JournalLine.written?).map List.length).sum =
        (line.written?.getD []).length +
          ((rest.filterMap JournalLine.written?).map List.length).sum := by
      cases h : line.written? <;> simp [h]
    rw [List.foldl_cons, ih, noting, hcount, hcount, hcount, hlength, hsum]
    simp only [Nat.add_assoc]

namespace World

/-- **Tiles are counted exactly over every run.** Let operations be carried out one after the other,
each under any plan, with any listeners, of which any may panic. The journal of the run holds all
its requests, and the counters of tiles grow by what it says:

* the tiles that were stored, by the lines of calls that store a tile and whose write was carried
  out, and their octets by the blobs of these tiles;
* the hits and the misses, by the lines of fetches that returned that there is a tile, or none;
* the tiles that were removed, by the lines of calls that remove a tile, found it by a probe, and
  whose deletion was carried out.

No operation on metadata, on a layer or on a gridset changes any of these counters, nor does an
operation that fails.

**Proof sketch.** Each count is moved behind the request that it is about and before the listeners
are told, so that one operation counts what its line says, whatever fails and whoever panics. The
run follows by induction. -/
theorem tile_counters_exact (w : World) (steps : List (Context × Operation)) :
    let before := w.session
    let after := (w.afterSteps steps).session
    let journal := w.journal steps
    after.trace = before.trace ++ journal.flatMap JournalLine.requests ∧
    after.counters.puts =
      before.counters.puts + (journal.filterMap JournalLine.written?).length ∧
    after.counters.putBytes =
      before.counters.putBytes + ((journal.filterMap JournalLine.written?).map List.length).sum ∧
    after.counters.getHits =
      before.counters.getHits + journal.countP (JournalLine.fetches true) ∧
    after.counters.getMisses =
      before.counters.getMisses + journal.countP (JournalLine.fetches false) ∧
    after.counters.deletes =
      before.counters.deletes + journal.countP JournalLine.frees ∧
    ∀ (c : Context) (w' : World) (o : Operation),
      (o.isTile = false ∨ ∃ e, (o.perform.runIn c w').1.completion = .failed e) →
      (o.perform.runIn c w').2.session.counters.tiles = w'.session.counters.tiles := by
  intro before after journal
  have hrun : after.counters.tiles = journal.foldl Counters.noting before.counters.tiles :=
    w.counters_afterSteps Operation.tiles_perform steps
  rw [Counters.foldl_noting] at hrun
  refine ⟨w.trace_afterSteps steps, congrArg Counters.puts hrun, congrArg Counters.putBytes hrun,
    congrArg Counters.getHits hrun, congrArg Counters.getMisses hrun,
    congrArg Counters.deletes hrun, ?_⟩
  rintro c w' o (htile | ⟨e, he⟩)
  · exact Operation.tiles_of_not_isTile c w' htile
  · exact Operation.tiles_of_failed c w' he

/-- A stored tile is stored again under a wrong size, and the listener panics; it is to be stored
once more and removed, which is refused; it is fetched, removed while the listener panics, and
fetched in vain. -/
theorem tile_counters_over_panics :
    let tile : Tile := { layer := "roads", gridset := "EPSG:4326", coord := ⟨0, 0, 0⟩,
                         format := "image/png" }
    let blob : Tile := { tile.withBlob [1, 2] with blobSize := 7 }
    let panicking : Context := { callbacks := fun _ _ => { panic := some "no" } }
    let denied : Context := { plan := Faults.allDenied.plan }
    let steps : List (Context × Operation) :=
      [(panicking, .put blob), (denied, .put blob), (denied, .deleteTile tile), ({}, .get tile),
        (panicking, .deleteTile tile), ({}, .get tile)]
    let after := (oneRoad.afterSteps steps).session.counters
    oneRoad.session.counters.tiles = { puts := 1, putBytes := 3 } ∧
      after.puts = 2 ∧ after.putBytes = 5 ∧ after.getHits = 1 ∧ after.getMisses = 1 ∧
      after.deletes = 1 ∧
      ((Operation.put blob).perform.runIn denied oneRoad).2.session.counters.tiles =
        { puts := 1, putBytes := 3 } := by
  intro tile blob panicking denied steps after
  have hbefore : oneRoad.session.counters.tiles = { puts := 1, putBytes := 3 } := by
    decide +kernel
  have hrefused : ((Operation.put blob).perform.runIn denied oneRoad).1.completion =
      .failed (Backend.refusal "head" "gwc/roads/EPSG:4326/png/default/0/0/0.png"
        (.denied "gwc/roads/EPSG:4326/png/default/0/0/0.png" "403")) := by
    decide +kernel
  obtain ⟨-, hputs, hbytes, hhits, hmisses, hdeletes, hspared⟩ := tile_counters_exact oneRoad steps
  exact ⟨hbefore, hputs.trans (by decide +kernel), hbytes.trans (by decide +kernel),
    hhits.trans (by decide +kernel), hmisses.trans (by decide +kernel),
    hdeletes.trans (by decide +kernel), (hspared _ _ _ (.inr ⟨_, hrefused⟩)).trans hbefore⟩

end World

end TileCache
