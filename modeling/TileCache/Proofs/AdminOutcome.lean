import TileCache.Proofs.AdminSession
import TileCache.Proofs.Directory
import TileCache.Proofs.Removals
set_option autoImplicit false

/-!
# What command lines do and what they show

The exit code, the log and the output of a command line tell what became of the bucket. A command
that may not change the bucket does not change it. A command line that fails logs nothing, and one
that succeeds logs one entry just if something was stored or removed, and the entry says what. What
one command line has stored the next one shows.

## Main definitions

* `TileCache.Call.removalEvent?`, `TileCache.Admin.Command.removalEvent?` — what the removals of
  many objects announce.
* `TileCache.Admin.Outcome.Shows` — what is shown by the output, or by a file.

## Main results

* `TileCache.Admin.log_putTile` — the log of a command line that stores a tile.
* `TileCache.Admin.log_removal` — the log of a command line that removes a layer or a gridset.
* `TileCache.Admin.shows_getTile`, `TileCache.Admin.exitCode_getTile` — what is shown of a tile that
  is in the bucket, and when it is shown.
* `TileCache.Admin.output_getMetadata`, `TileCache.Admin.exitCode_getMetadata` — what is shown of a
  value that is kept, and when it is shown.
* `TileCache.Admin.outcome_exact` — all of it.
-/

namespace TileCache

/-- **A tile with an equivalent address** has the same key. -/
lemma Layout.tile_of_slot_eq {l : Layout} {t t' : Tile} {key : Key} (h : l.tile t = .ok key)
    (hslot : t'.slot = t.slot) : l.tile t' = .ok key := by
  obtain ⟨hnamed, hkey⟩ := tile_eq_ok_iff.1 h
  have hnamed' : t'.slot.IsNamed := hslot ▸ hnamed
  refine tile_eq_ok_iff.2 ⟨hnamed', ?_⟩
  rw [hkey, Slot.path_inj.2 hslot]

/-! ## Removals -/

/-- What a removal of many objects announces, if there were any. -/
def Call.removalEvent? : Call → Option Event
  | deleteLayer layer => some (.layerDeleted layer)
  | deleteGridset layer gridset => some (.gridsetDeleted layer gridset)
  | _ => none

/-- **A removal of many objects that returns** announces its event, or nothing: its event if it has
taken something away, and nothing if not, provided that the answers of the bucket are true. -/
lemma Call.exists_of_removal_returned {c : Context} {w : World} {call : Call} {event : Event}
    {answer : Answer} (hevent : call.removalEvent? = some event)
    (h : (call.operation.perform.runIn c w).1.completion = .returned answer) :
    let w' := (call.operation.perform.runIn c w).2
    ∃ existed, w.Announced w' (if existed then some event else none) ∧
      (w.session.bucket.Loses w'.session.bucket → existed = true) ∧
      (c.plan.Truthful → existed = true → w.session.bucket.Loses w'.session.bucket) := by
  obtain ⟨f, session, hrun, -, -, hannounced, rfl⟩ := of_returned h
  cases call with
  | deleteLayer layer =>
    obtain rfl := Option.some.inj hevent
    obtain ⟨_ | existed, herase, hf⟩ := RequestM.exists_of_runUnder_map hrun <;> cases hf
    exact ⟨existed, hannounced, Store.loses_eraseLayer herase⟩
  | deleteGridset layer gridset =>
    obtain rfl := Option.some.inj hevent
    obtain ⟨_ | existed, herase, hf⟩ := RequestM.exists_of_runUnder_map hrun <;> cases hf
    exact ⟨existed, hannounced, Store.loses_eraseGridset herase⟩
  | _ => cases hevent

/-! ## The log -/

/-- Where the console listens alone, it logs what is announced. -/
lemma World.logged_of_announced {w w' : World} {event : Option Event}
    (hconsole : w.store.listeners.listeners = [.console]) (hnobody : w.deliveries = [])
    (h : w.Announced w' event) : w'.logged = event.toList.map Event.logEntry := by
  rw [Announced, hconsole, hnobody] at h
  rw [logged, h]
  cases event <;> rfl

namespace Admin

variable {host : Host} {outlet : Outlet} {config : Config} {c : Context} {session : Session}
  {w : World} {files : Directory} {i : Invocation} {env : Environment}

/-- The console listens alone to a command that may change the bucket, and has not heard of anything
yet. -/
lemma Reached.audience_eq (h : Reached host.clients config session w) {command : Command}
    (hmutating : command.isMutating = true) :
    (command.audience w).store.listeners.listeners = [.console] ∧
      (command.audience w).deliveries = [] := by
  refine ⟨?_, (command.audience_eq w).2.1.trans h.deliveries_eq⟩
  rw [Command.audience, if_pos hmutating, h.store_eq]
  rfl

namespace Command

/-- What a removal of many objects announces, if there were any. -/
def removalEvent? : Command → Option Event
  | deleteLayer layer => some (.layerDeleted layer)
  | deleteGridset layer gridset => some (.gridsetDeleted layer gridset)
  | _ => none

/-- A removal of many objects is a call of one, and may change the bucket. -/
lemma exists_call_of_removal {command : Command} {event : Event}
    (h : command.removalEvent? = some event) (files : Directory) :
    command.isMutating = true ∧
      ∃ call, command.call files = .ok call ∧ call.removalEvent? = some event := by
  cases command with
  | deleteLayer layer => exact ⟨rfl, _, rfl, h⟩
  | deleteGridset layer gridset => exact ⟨rfl, _, rfl, h⟩
  | _ => cases h

/-- A command that makes a call is that call and a conclusion. -/
lemma runIn_execute_of_call {command : Command} {call : Call}
    (h : command.call files = .ok call) (c : Context) (w : World) :
    (command.execute outlet files).runIn c w =
      (command.conclude outlet files (call.operation.perform.runIn c w).1,
        (call.operation.perform.runIn c w).2) := by
  rw [runIn_execute, h]

/-- The call of a command that may change the bucket returns if the command succeeds. -/
lemma exists_returned {command : Command} (hmutating : command.isMutating = true) {call : Call}
    (hcall : command.call files = .ok call) (h : command.Succeeds outlet files c w) :
    ∃ answer, (call.operation.perform.runIn c w).1.completion = .returned answer := by
  rw [← ending_execute_eq_done_iff, runIn_execute_of_call hcall] at h
  rwa [conclude_of_mutating hmutating, Run.ending_ofCompletion_eq_done_iff] at h

end Command

/-- **A command line that stores a tile and succeeds**: the file is the blob, the tile is stored
under its key, and the log has one entry, which says what a probe found there before; this is what
there was if probes are honest. -/
lemma log_putTile (hconfig : loadConfig i.config env files = .ok config) {address : TileAddress}
    {input : String} (hcommand : i.command = .putTile address input)
    (h : (runInvocation host i env files c session).exitCode = 0) :
    ∃ blob key info, files.read input = .ok blob ∧
      (Layout.ofText config.keyRoot).tile (address.tile.withBlob blob) = .ok key ∧
      (runInvocation host i env files c session).session.bucket =
        session.bucket.put key blob address.format ∧
      (runInvocation host i env files c session).log =
        [(Store.writeEvent (address.tile.withBlob blob) info).logEntry] ∧
      (c.plan.ProbesHonestly → info = (session.bucket.find? key).map StoredObject.info) := by
  obtain ⟨w, hreached, hsucceeds, houtcome⟩ := course_of_success hconfig h
  rw [hcommand] at hsucceeds houtcome
  obtain ⟨blob, hread, answer, hreturned⟩ := hsucceeds
  have hmutating : (Command.putTile address input).isMutating = true := rfl
  have hcall : (Command.putTile address input).call files =
      .ok (.put (address.tile.withBlob blob)) := by
    rw [Command.call, hread]
  obtain ⟨hsession, -, hlayout, -⟩ := (Command.putTile address input).audience_eq w
  obtain ⟨hconsole, hnobody⟩ := hreached.audience_eq hmutating
  have hsomebody :
      ((Command.putTile address input).audience w).store.listeners.isEmpty = false := by
    rw [Registry.isEmpty, hconsole]
    rfl
  obtain ⟨blob', key, info, hcheck, hbucket, hannounced, hprobe⟩ :=
    Call.exists_of_put_returned hsomebody hreturned
  obtain ⟨hblob, -, hkey, -⟩ := Store.checkedPut_eq_ok_iff.1 hcheck
  obtain rfl : blob = blob' := Option.some.inj hblob
  rw [hlayout, hreached.store_eq] at hkey
  rw [hsession, hreached.inspected.bucket_eq] at hbucket hprobe
  rw [Command.runIn_execute_of_call hcall] at houtcome
  refine ⟨blob, key, info, hread, hkey, ?_, ?_, hprobe⟩
  · rw [houtcome, Outcome.session_ofRun, hbucket]
    rfl
  · rw [houtcome, Outcome.log_ofRun, World.logged_of_announced hconsole hnobody hannounced]
    rfl

/-- **A command line that removes a layer or a gridset and succeeds** logs its event or nothing: its
event if it has taken something away, and nothing if not, provided that the answers of the bucket
are true. -/
lemma log_removal (hconfig : loadConfig i.config env files = .ok config) {event : Event}
    (hevent : i.command.removalEvent? = some event)
    (h : (runInvocation host i env files c session).exitCode = 0) :
    let outcome := runInvocation host i env files c session
    ∃ existed, outcome.log = (if existed then [event.logEntry] else []) ∧
      (session.bucket.Loses outcome.session.bucket → existed = true) ∧
      (c.plan.Truthful → existed = true → session.bucket.Loses outcome.session.bucket) := by
  intro outcome
  obtain ⟨w, hreached, hsucceeds, houtcome⟩ := course_of_success hconfig h
  obtain ⟨hmutating, call, hcall, hevent⟩ := Command.exists_call_of_removal hevent files
  obtain ⟨hconsole, hnobody⟩ := hreached.audience_eq hmutating
  obtain ⟨answer, hreturned⟩ := Command.exists_returned hmutating hcall hsucceeds
  obtain ⟨existed, hannounced, hloses⟩ := Call.exists_of_removal_returned hevent hreturned
  rw [Command.runIn_execute_of_call hcall] at houtcome
  have hbefore : (i.command.audience w).session.bucket = session.bucket :=
    (congrArg Session.bucket (i.command.audience_eq w).1).trans hreached.inspected.bucket_eq
  have hafter : outcome.session.bucket =
      (call.operation.perform.runIn c (i.command.audience w)).2.session.bucket := by
    simp only [outcome, houtcome, Outcome.session_ofRun]
  rw [hbefore, ← hafter] at hloses
  refine ⟨existed, ?_, hloses⟩
  simp only [outcome, houtcome, Outcome.log_ofRun]
  rw [World.logged_of_announced hconsole hnobody hannounced]
  cases existed <;> rfl

/-! ## What is shown -/

/-- Octets are shown by a command line: on the standard output, or in the file that is named. -/
def Outcome.Shows (outcome : Outcome) (output : Option String) (data : Octets) : Prop :=
  match output with
  | none => outcome.output = data
  | some path => outcome.files.read path = .ok data

/-- A blob that is handed over is shown. -/
lemma Command.shows_deliver {output : Option String} {blob : Octets}
    (h : CanDeliver outlet files output blob) (w : World) :
    (Outcome.ofRun (deliver outlet files output blob) w).Shows output blob := by
  cases output with
  | none =>
    rw [Outcome.Shows, Outcome.output_ofRun]
    exact Run.output_ofOutput h files _
  | some path =>
    obtain ⟨files', hwrite⟩ := h
    rw [Outcome.Shows, Outcome.files_ofRun]
    simp only [deliver, hwrite]
    exact Directory.read_write hwrite

/-- The run of a command that has got its tile hands the blob over. -/
lemma Command.conclude_getTile {address : TileAddress} {output : Option String} {reply : Reply}
    {tile : Tile} (h : reply = ⟨.returned (.truth true), some tile⟩) :
    (Command.getTile address output).conclude outlet files reply =
      deliver outlet files output (tile.blob.getD []) := by
  rw [h]
  rfl

/-- The run of a command that has got its value prints it. -/
lemma Command.conclude_getMetadata {layer name : String} {reply : Reply} {value : Option String}
    (h : reply.completion = .returned (.text value)) :
    (Command.getMetadata layer name).conclude outlet files reply =
      printValue outlet files layer name value := by
  rw [conclude, h]

/-- A tile with a key is got if no request fails. -/
lemma returns_get (hplan : c.plan = .faultless) (hlive : w.store.live = true) {t : Tile} {key : Key}
    (hkey : w.store.layout.tile t = .ok key) : (Operation.get t).Returns c w := by
  have hcheck := Store.checkedTile_eq_ok_iff.2 ⟨hkey, hlive⟩
  obtain ⟨session', -, hrun⟩ : (Call.get t).HasEffect c w _ := Call.hasEffect_get hplan t
  change ∃ answer, ((Call.get t).operation.perform.runIn c w).1.completion = .returned answer
  rw [hrun, Store.getEffect, hcheck]
  dsimp only
  cases w.session.bucket.find? key <;> exact ⟨_, rfl⟩

section Tile

variable {address : TileAddress} {output : Option String} {key : Key} {o : StoredObject}

/-- **A tile that is in the bucket is shown** by a command line that gets it and succeeds. -/
lemma shows_getTile (hconfig : loadConfig i.config env files = .ok config)
    (hcommand : i.command = .getTile address output)
    (hkey : (Layout.ofText config.keyRoot).tile address.tile = .ok key)
    (hfind : session.bucket.find? key = some o)
    (h : (runInvocation host i env files c session).exitCode = 0) :
    (runInvocation host i env files c session).Shows output o.data := by
  obtain ⟨w, hreached, hsucceeds, houtcome⟩ := course_of_success hconfig h
  have haudience : (Command.getTile address output).audience w = w := rfl
  rw [hcommand, haudience] at hsucceeds houtcome
  obtain ⟨tile, hreply, hdeliver⟩ := hsucceeds
  have hreply : ((Call.get address.tile).operation.perform.runIn c w).1 = _ := hreply
  obtain ⟨key', found, hkey', hfetched, hthere, -⟩ :=
    Call.exists_of_get_returned (congrArg Reply.completion hreply)
  rw [hreached.store_eq] at hkey'
  obtain rfl := Except.ok.inj (hkey.symm.trans hkey')
  have htile : (Call.fetched address.tile found).tile = some tile :=
    congrArg Reply.tile (hfetched.symm.trans hreply)
  -- what was found is the object, as only what is there is found
  have hblob : tile.blob = some o.data := by
    cases found with
    | none => cases hfetched.symm.trans hreply
    | some o' =>
      have hfind' := hthere o' rfl
      rw [hreached.inspected.bucket_eq, hfind] at hfind'
      obtain rfl := Option.some.inj hfind'
      obtain rfl := Option.some.inj htile
      rfl
  have hcall : (Command.getTile address output).call files = .ok (.get address.tile) := rfl
  rw [hblob] at hdeliver
  rw [houtcome, Command.runIn_execute_of_call hcall, Command.conclude_getTile hreply, hblob]
  exact Command.shows_deliver hdeliver _

/-- A command line that gets a tile which is in the bucket succeeds if no request fails and the tile
can be handed over. -/
lemma exitCode_getTile (hconfig : loadConfig i.config env files = .ok config)
    (hcommand : i.command = .getTile address output)
    (hkey : (Layout.ofText config.keyRoot).tile address.tile = .ok key)
    (hfind : session.bucket.find? key = some o) {store : Store}
    (hstore : config.store host.clients = .ok store) (hplan : c.plan = .faultless)
    (hdeliver : Command.CanDeliver host.stdout files output o.data) :
    (runInvocation host i env files c session).exitCode = 0 := by
  have hhonest : c.plan.FetchesHonestly := by
    rw [hplan]
    exact nofun
  obtain ⟨w, hconnect⟩ := exists_connect_of_faultless hplan hstore session
  have hreached := (reached_of_connect hconnect).1
  have haudience : (Command.getTile address output).audience w = w := rfl
  have hkey' : w.store.layout.tile address.tile = .ok key := by
    rwa [hreached.store_eq]
  rw [exitCode_eq_zero_iff hconfig, hcommand]
  refine ⟨w, hconnect, ?_⟩
  rw [haudience, Command.succeeds_getTile_iff hhonest, hreached.inspected.bucket_eq]
  exact ⟨returns_get hplan hreached.live hkey', key, o, hkey', hfind, hdeliver⟩

end Tile

section Metadata

variable {layer name value : String} {key : Key} {m : Properties}

/-- **A value that is kept is shown** by a command line that gets it and succeeds. -/
lemma output_getMetadata (hconfig : loadConfig i.config env files = .ok config)
    (hcommand : i.command = .getMetadata layer name)
    (hkey : (Layout.ofText config.keyRoot).metadata layer = .ok key)
    (hm : session.bucket.properties key = .ok m) (hvalue : m.find? name = some value)
    (h : (runInvocation host i env files c session).exitCode = 0) :
    (runInvocation host i env files c session).output = Utf8.encode (value ++ "\n") := by
  obtain ⟨w, hreached, hsucceeds, houtcome⟩ := course_of_success hconfig h
  have haudience : (Command.getMetadata layer name).audience w = w := rfl
  rw [hcommand, haudience] at hsucceeds houtcome
  obtain ⟨value', hreturned, htakes⟩ := hsucceeds
  have hreturned : ((Call.getMetadata layer name).operation.perform.runIn c w).1.completion = _ :=
    hreturned
  obtain ⟨key', found, hkey', hfound, hthere, -⟩ := Call.exists_of_getMetadata_returned hreturned
  cases hfound
  rw [hreached.store_eq] at hkey'
  obtain rfl := Except.ok.inj (hkey.symm.trans hkey')
  obtain ⟨m', hm', hvalue'⟩ := hthere value' rfl
  rw [hreached.inspected.bucket_eq, hm] at hm'
  obtain rfl := Except.ok.inj hm'
  obtain rfl := Option.some.inj (hvalue.symm.trans hvalue')
  have hcall : (Command.getMetadata layer name).call files = .ok (.getMetadata layer name) := rfl
  rw [houtcome, Command.runIn_execute_of_call hcall, Command.conclude_getMetadata hreturned,
    Outcome.output_ofRun]
  exact Run.output_ofOutput htakes files _

/-- A command line that gets a value which is kept succeeds if no request fails and its line can be
printed. -/
lemma exitCode_getMetadata (hconfig : loadConfig i.config env files = .ok config)
    (hcommand : i.command = .getMetadata layer name)
    (hkey : (Layout.ofText config.keyRoot).metadata layer = .ok key)
    (hm : session.bucket.properties key = .ok m) (hvalue : m.find? name = some value)
    {store : Store} (hstore : config.store host.clients = .ok store) (hplan : c.plan = .faultless)
    (htakes : host.stdout.Takes (Utf8.encode (value ++ "\n"))) :
    (runInvocation host i env files c session).exitCode = 0 := by
  obtain ⟨w, hconnect⟩ := exists_connect_of_faultless hplan hstore session
  have hreached := (reached_of_connect hconnect).1
  have haudience : (Command.getMetadata layer name).audience w = w := rfl
  have hkey' : w.store.layout.metadata layer = .ok key := by
    rwa [hreached.store_eq]
  have hm' : w.session.bucket.properties key = .ok m := by
    rwa [hreached.inspected.bucket_eq]
  rw [exitCode_eq_zero_iff hconfig, hcommand]
  refine ⟨w, hconnect, value, ?_, htakes⟩
  rw [haudience, ← hvalue]
  exact (World.finds_of_properties hreached.live hkey' hm' name).2 c hplan

end Metadata

/-- **A command line that writes a value and succeeds** leaves it among the values that are kept. -/
lemma properties_of_putMetadata (hconfig : loadConfig i.config env files = .ok config)
    {layer name value : String} (hcommand : i.command = .putMetadata layer name value)
    (h : (runInvocation host i env files c session).exitCode = 0) :
    ∃ (key : Key) (m : Properties), (Layout.ofText config.keyRoot).metadata layer = .ok key ∧
      (runInvocation host i env files c session).session.bucket.properties key =
        .ok (m.insert name value) := by
  obtain ⟨w, hreached, hsucceeds, houtcome⟩ := course_of_success hconfig h
  rw [hcommand] at hsucceeds houtcome
  obtain ⟨answer, hreturned⟩ := hsucceeds
  obtain ⟨key, m, hkey, hoctets⟩ := Call.exists_of_putMetadata_returned hreturned
  rw [((Command.putMetadata layer name value).audience_eq w).2.2.1, hreached.store_eq] at hkey
  have hcall : (Command.putMetadata layer name value).call files =
      .ok (.putMetadata layer name value) := rfl
  refine ⟨key, m, hkey, Bucket.properties_of_octets? ?_⟩
  rw [houtcome, Command.runIn_execute_of_call hcall, Outcome.session_ofRun]
  exact hoctets

/-- A command line that succeeds has settings that describe a store. -/
lemma exists_store_of_success (hconfig : loadConfig i.config env files = .ok config)
    (h : (runInvocation host i env files c session).exitCode = 0) :
    ∃ store, config.store host.clients = .ok store := by
  obtain ⟨w, hreached, -⟩ := course_of_success hconfig h
  exact ⟨w.store, hreached.config_store⟩

/-- **What command lines do and what they show.** Let the settings of a command line be complete,
and let requests fail in any way, whatever the builder of clients refuses and whatever the standard
output takes.

* If its command may not change the bucket, the bucket is as it was, there is no request but probes,
  fetches and listings, and the log is empty.
* It succeeds just if the bucket is reached and the command succeeds: its call returns, for a tile
  or a value that is asked for it returns the item, its files can be read and written, and the
  standard output takes what is shown there. If fetches are honest, this is so just if its call
  returns, the item is in the bucket, and its files serve.
* If it stores a tile and succeeds, the log has one entry, that the tile was stored or updated.
  Which of these, and the old size, is as a probe said, and so as the bucket was if probes are
  honest.
* If it removes a layer or a gridset and succeeds, the log has one entry or none: one if something
  was taken away, and none if nothing was, provided that the answers of the bucket are true.
* If it fails, the log is empty.
* If it stores a tile and succeeds, then a command line that gets a tile with an equivalent address
  and succeeds shows the octets of the file that was stored; and it does succeed if no request fails
  and its own file, if it names one, can be written, or else its standard output takes the octets.
* So it is with a value of metadata that is written and then printed.

**Proof sketch.** A command line has two courses: if the bucket is not reached, it has only looked,
and fails. If it is reached, the command is executed on a store that was just set up, in front of
the console if it may change the bucket. A command is one call at most, so that its exit code is
that of the call, and what is logged is what the call announces. -/
theorem outcome_exact (host : Host) (p : Plan) (session : Session)
    (hconfig : loadConfig i.config env files = .ok config) :
    let c : Context := { plan := p }
    let outcome := runInvocation host i env files c session
    let layout := Layout.ofText config.keyRoot
    (i.command.isMutating = false →
      outcome.session.bucket = session.bucket ∧
      (∃ requests, outcome.session.trace = session.trace ++ requests ∧
        ∀ r ∈ requests, r.isRead = true) ∧ outcome.log = []) ∧
    (outcome.exitCode = 0 ↔ ∃ w, (connect host.clients config c session).1 = .returned w ∧
      i.command.Succeeds host.stdout files c (i.command.audience w)) ∧
    (p.FetchesHonestly → (outcome.exitCode = 0 ↔
      ∃ w, (connect host.clients config c session).1 = .returned w ∧
        i.command.CallReturns files c (i.command.audience w) ∧
        i.command.ItemExists layout session.bucket ∧
        i.command.FilesServe host.stdout files layout session.bucket)) ∧
    (∀ address input, i.command = .putTile address input → outcome.exitCode = 0 →
      ∃ blob key info, files.read input = .ok blob ∧
        layout.tile (address.tile.withBlob blob) = .ok key ∧
        outcome.log = [(Store.writeEvent (address.tile.withBlob blob) info).logEntry] ∧
        (p.ProbesHonestly → info = (session.bucket.find? key).map StoredObject.info)) ∧
    (∀ event, i.command.removalEvent? = some event → outcome.exitCode = 0 →
      (outcome.log = [event.logEntry] ∨ outcome.log = []) ∧
      (session.bucket.Loses outcome.session.bucket → outcome.log = [event.logEntry]) ∧
      (p.Truthful → ¬session.bucket.Loses outcome.session.bucket → outcome.log = [])) ∧
    (outcome.exitCode ≠ 0 → outcome.log = []) ∧
    (∀ address input, i.command = .putTile address input → outcome.exitCode = 0 →
      ∃ blob, files.read input = .ok blob ∧
      ∀ (j : Invocation) stdout env' files' p' address' output,
        loadConfig j.config env' files' = .ok config → j.command = .getTile address' output →
        address'.tile.slot = address.tile.slot →
        let later := runInvocation { host with stdout } j env' files' { plan := p' } outcome.session
        (later.exitCode = 0 → later.Shows output blob) ∧
        (p' = .faultless → Command.CanDeliver stdout files' output blob → later.exitCode = 0)) ∧
    (∀ layer name value, i.command = .putMetadata layer name value → outcome.exitCode = 0 →
      ∀ (j : Invocation) stdout env' files' p',
        loadConfig j.config env' files' = .ok config → j.command = .getMetadata layer name →
        let later := runInvocation { host with stdout } j env' files' { plan := p' } outcome.session
        (later.exitCode = 0 → later.output = Utf8.encode (value ++ "\n")) ∧
        (p' = .faultless → stdout.Takes (Utf8.encode (value ++ "\n")) →
          later.exitCode = 0)) := by
  intro c outcome layout
  refine ⟨fun h => ?_, exitCode_eq_zero_iff hconfig c session,
    fun hhonest => exitCode_eq_zero_iff_of_honest hconfig hhonest session,
    fun address input hcommand h => ?_, fun event hevent h => ?_,
    fun h => log_of_exitCode_ne_zero hconfig (fun _ _ => rfl) h,
    fun address input hcommand h => ?_, fun layer name value hcommand h => ?_⟩
  · obtain ⟨hinspected, hlog⟩ := inspected_of_not_mutating hconfig h c session
    exact ⟨hinspected.bucket_eq, hinspected.trace_eq, hlog⟩
  · obtain ⟨blob, key, info, hread, hkey, -, hlog, hinfo⟩ := log_putTile hconfig hcommand h
    exact ⟨blob, key, info, hread, hkey, hlog, hinfo⟩
  · obtain ⟨existed, hlog, hexisted, hloses⟩ := log_removal hconfig hevent h
    refine ⟨?_, fun hlost => ?_, fun htruthful hkept => ?_⟩
    · cases existed with
      | true => exact .inl hlog
      | false => exact .inr hlog
    · rw [hexisted hlost] at hlog
      exact hlog
    · cases existed with
      | true => exact absurd (hloses htruthful rfl) hkept
      | false => exact hlog
  · obtain ⟨store, hstore⟩ := exists_store_of_success hconfig h
    obtain ⟨blob, key, info, hread, hkey, hbucket, -, -⟩ := log_putTile hconfig hcommand h
    refine ⟨blob, hread, ?_⟩
    intro j stdout env' files' p' address' output hconfig' hcommand' hslot later
    have hfind : outcome.session.bucket.find? key =
        some ⟨blob, address.format, session.bucket.clock + 1⟩ := by
      rw [hbucket, Bucket.find?_put, if_pos rfl]
    have hkey' := Layout.tile_of_slot_eq hkey hslot
    exact ⟨shows_getTile hconfig' hcommand' hkey' hfind,
      fun hplan hdeliver => exitCode_getTile hconfig' hcommand' hkey' hfind hstore hplan hdeliver⟩
  · obtain ⟨store, hstore⟩ := exists_store_of_success hconfig h
    obtain ⟨key, m, hkey, hm⟩ := properties_of_putMetadata hconfig hcommand h
    intro j stdout env' files' p' hconfig' hcommand' later
    have hvalue := SortedMap.find?_insert_self m name value
    exact ⟨output_getMetadata hconfig' hcommand' hkey hm hvalue,
      fun hplan htakes =>
        exitCode_getMetadata hconfig' hcommand' hkey hm hvalue hstore hplan htakes⟩

/-- The settings of a store below the root `gwc`. -/
def roadSettings : Config where
  bucket := "tiles"
  root := some "gwc"
  accessKey := "AKIA"
  secretKey := "wJalr"

/-- The variables that hold these settings. -/
def roadVariables : Environment :=
  .ofList [("TILE_STORE_BUCKET", Utf8.encode "tiles"), ("TILE_STORE_PREFIX", Utf8.encode "gwc"),
    ("TILE_STORE_ACCESS_KEY_ID", Utf8.encode "AKIA"),
    ("TILE_STORE_SECRET_ACCESS_KEY", Utf8.encode "wJalr")]

/-- A title is written and then printed, and then two layers are removed of which there is one: the
title is shown as it was written, and the log tells of one removal. -/
theorem outcome_of_oneRoad :
    let host : Host := { clients := .lenient }
    let run (command : Command) := runInvocation host { command } roadVariables {} {}
    let titled := (run (.putMetadata "roads" "title" "Roads") World.oneRoad.session).session
    (run (.getMetadata "roads" "title") titled).output = Utf8.encode "Roads\n" ∧
      (run (.deleteLayer "roads") titled).log = [(Event.layerDeleted "roads").logEntry] ∧
      (run (.deleteLayer "rails") titled).log = [] := by
  intro host run titled
  have hconfig : loadConfig none roadVariables {} = .ok roadSettings := by
    decide +kernel
  have htitled :
      (run (.putMetadata "roads" "title" "Roads") World.oneRoad.session).exitCode = 0 := by
    decide +kernel
  have hremoved : (run (.deleteLayer "roads") titled).exitCode = 0 := by
    decide +kernel
  have hfind : titled.bucket.find? (Key.ofText "gwc/roads/EPSG:4326/png/default/0/0/0.png") =
      some ⟨[1, 2, 3], "image/png", 1⟩ := by
    decide +kernel
  have hgone : (run (.deleteLayer "roads") titled).session.bucket.find?
      (Key.ofText "gwc/roads/EPSG:4326/png/default/0/0/0.png") = none := by
    decide +kernel
  obtain ⟨-, -, -, -, -, -, -, hshown⟩ :=
    @outcome_exact roadSettings {} { command := .putMetadata "roads" "title" "Roads" } roadVariables
      host .faultless World.oneRoad.session hconfig
  have hlost : titled.bucket.Loses (run (.deleteLayer "roads") titled).session.bucket :=
    ⟨_, _, hfind, hgone⟩
  have hmissed : (run (.deleteLayer "rails") titled).exitCode = 0 ∧
      (run (.deleteLayer "rails") titled).session.bucket.objects = titled.bucket.objects := by
    decide +kernel
  have hkept : ¬titled.bucket.Loses (run (.deleteLayer "rails") titled).session.bucket := by
    rintro ⟨k, o, hthere, hnot⟩
    rw [Bucket.find?, hmissed.2] at hnot
    cases hthere.symm.trans hnot
  -- without `run` the two sides are the same outcome as they stand, and nothing is evaluated
  simp only [run] at hlost hkept
  obtain ⟨-, -, -, -, hlogged, -⟩ :=
    @outcome_exact roadSettings {} { command := .deleteLayer "roads" } roadVariables host .faultless
      titled hconfig
  obtain ⟨-, -, -, -, hsilent, -⟩ :=
    @outcome_exact roadSettings {} { command := .deleteLayer "rails" } roadVariables host .faultless
      titled hconfig
  refine ⟨?_, ?_, ?_⟩
  · obtain ⟨hprinted, hsucceeds⟩ := hshown "roads" "title" "Roads" rfl htitled
      { command := .getMetadata "roads" "title" } .unlimited roadVariables {} .faultless hconfig rfl
    exact hprinted (hsucceeds rfl rfl)
  · exact (hlogged (.layerDeleted "roads") rfl hremoved).2.1 hlost
  · exact (hsilent (.layerDeleted "rails") rfl hmissed.1).2.2 Plan.truthful_faultless hkept

/-- The standard output breaks off after two octets of the only tile: these are shown, and the command
line fails. -/
example :
    let broken : Outlet := ⟨fun _ => some (2, "Broken pipe (os error 32)")⟩
    let address : TileAddress := ⟨"roads", "EPSG:4326", ⟨0, 0, 0⟩, "image/png", none⟩
    let outcome := runInvocation { clients := .lenient, stdout := broken }
      { command := .getTile address none } roadVariables {} {} World.oneRoad.session
    outcome.exitCode = 1 ∧ outcome.report = some ["Broken pipe (os error 32)"] ∧
      outcome.output = [1, 2] := by
  decide +kernel

end Admin

end TileCache
