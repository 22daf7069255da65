import TileCache.Admin.Run
import TileCache.Proofs.MetadataWrites
set_option autoImplicit false

/-!
# A command is one call at most

A command of the admin command line reads its file, if it has one, makes one call of the store at
most, and turns the reply into its run. So what is known of calls is known of commands. A command
succeeds if its call returns, if the item that it asks for is found, if its files can be read and
written, and if the standard output takes what is shown there; an item that is found is there, and
if fetches are honest, an item that is there is found.

## Main definitions

* `TileCache.Admin.Command.call`, `Command.conclude` — the call of a command, and the run that its
  reply makes.
* `TileCache.Admin.Command.CanDeliver` — what it takes for a blob to be handed over.
* `TileCache.Admin.Command.Succeeds` — what it takes for a command to succeed.
* `TileCache.Admin.Command.CallReturns`, `Command.ItemExists`, `Command.FilesServe` — the same in
  three parts, of which the last two are about the bucket, the files and the standard output alone.

## Main results

* `TileCache.Admin.Command.runIn_execute` — a command is its call and a conclusion from the reply.
* `TileCache.Call.exists_of_get_returned`, `TileCache.Call.exists_of_getMetadata_returned` — what a
  read that returns has found.
* `TileCache.Call.exists_of_put_returned`, `TileCache.Call.exists_of_putMetadata_returned` — what a
  write that returns has left.
* `TileCache.Admin.Command.ending_execute_eq_done_iff` — when a command succeeds.
* `TileCache.Admin.Command.succeeds_iff` — the same if fetches are honest.
-/

namespace TileCache

/-! ## What calls find and leave -/

namespace Backend

open RequestM

/-- An object that is fetched is there, whatever the plan. -/
lemma find?_of_get_eq_some {p : Plan} {s s' : Session} {key : Key} {o : StoredObject}
    (h : (get key).runUnder p s = (.ok (some o), s')) : s.bucket.find? key = some o := by
  rw [runUnder_get, Prod.mk.injEq] at h
  obtain ⟨h, -⟩ := h
  cases hplan : p.get s.trace key with
  | served =>
    rw [hplan] at h
    exact Except.ok.inj h
  | refused error =>
    rw [hplan] at h
    by_cases hnone : error.isNotFound = true <;> simp [hnone] at h
  | bodyLost error =>
    rw [hplan] at h
    cases hfind : s.bucket.find? key <;> simp [hfind] at h

end Backend

namespace Store

open RequestM

variable {s : Store} {p : Plan} {σ σ' : Session} {n name value : String} {key : Key}

/-- What is loaded is what is kept, or nothing. -/
lemma properties_of_loadProperties_or {m : Properties} (hkey : s.layout.metadata n = .ok key)
    (h : (s.loadProperties n).runUnder p σ = (.ok m, σ')) :
    σ.bucket.properties key = .ok m ∨ m = .empty := by
  unfold loadProperties at h
  rw [hkey, ofExcept_ok, pure_bind] at h
  obtain ⟨object, σ₁, hget, hread⟩ := runUnder_bind_eq_ok_iff.1 h
  cases object with
  | none =>
    rw [runUnder_pure, Prod.mk.injEq] at hread
    exact .inr (Except.ok.inj hread.1).symm
  | some o =>
    rw [runUnder_ofExcept, Prod.mk.injEq] at hread
    left
    rw [Bucket.properties, Backend.find?_of_get_eq_some hget]
    exact hread.1

/-- A value is read by loading the metadata under its key. -/
lemma exists_of_readMetadata {found : Option String}
    (h : (readMetadata n name s).runUnder p σ = (.ok found, σ')) :
    ∃ key m, s.layout.metadata n = .ok key ∧ (s.loadProperties n).runUnder p σ = (.ok m, σ') ∧
      found = m.find? name := by
  unfold readMetadata at h
  rw [requireLive_eq, runUnder_ofExcept_bind_eq_ok_iff] at h
  obtain ⟨_, -, h⟩ := h
  obtain ⟨m, σ₁, hload, hfound⟩ := runUnder_bind_eq_ok_iff.1 h
  rw [runUnder_pure, Prod.mk.injEq] at hfound
  obtain ⟨hfound, rfl⟩ := hfound
  have hloaded := hload
  unfold loadProperties at hloaded
  obtain ⟨key, hkey, -⟩ := runUnder_ofExcept_bind_eq_ok_iff.1 hloaded
  exact ⟨key, m, hkey, hload, (Except.ok.inj hfound).symm⟩

/-- A tile that is written is the object under its key. -/
lemma bucket_of_writeBlob {t : Tile} {blob : Octets} {u : Unit}
    (h : (writeTile.writeBlob t key blob).runUnder p σ = (.ok u, σ')) :
    σ'.bucket = σ.bucket.put key blob t.format := by
  unfold writeTile.writeBlob at h
  obtain ⟨_, σ₁, hput, hcount⟩ := runUnder_bind_eq_ok_iff.1 h
  cases hcount
  rw [Backend.runUnder_put] at hput
  split at hput
  · cases hput
  · cases hput
    rfl

/-- A value that is written is in the map that is stored. -/
lemma exists_of_writeMetadata {u : Unit}
    (h : (writeMetadata n name value s).runUnder p σ = (.ok u, σ')) :
    ∃ (key : Key) (m : Properties), s.layout.metadata n = .ok key ∧
      σ'.bucket.octets? key = some (Properties.encode (m.insert name value)) := by
  unfold writeMetadata at h
  rw [requireLive_eq, runUnder_ofExcept_bind_eq_ok_iff] at h
  obtain ⟨_, -, h⟩ := h
  obtain ⟨m, σ₁, -, h⟩ := runUnder_bind_eq_ok_iff.1 h
  obtain ⟨key, hkey, hput⟩ := runUnder_ofExcept_bind_eq_ok_iff.1 h
  refine ⟨key, m, hkey, ?_⟩
  rw [Backend.runUnder_put] at hput
  split at hput
  · cases hput
  · cases hput
    exact Bucket.octets?_put _ _ _ _

end Store

namespace Call

open RequestM Store

variable {c : Context} {w : World} {answer : Answer}

/-- **A tile that is stored** is the object under its key, and whoever listens is told what a probe
found there before, which is what there was if probes are honest. -/
lemma exists_of_put_returned {t : Tile} (hsomebody : w.store.listeners.isEmpty = false)
    (h : ((put t).operation.perform.runIn c w).1.completion = .returned answer) :
    ∃ blob key info, w.store.checkedPut t = .ok (blob, key) ∧
      ((put t).operation.perform.runIn c w).2.session.bucket =
        w.session.bucket.put key blob t.format ∧
      w.Announced ((put t).operation.perform.runIn c w).2 (some (writeEvent t info)) ∧
      (c.plan.ProbesHonestly → info = (w.session.bucket.find? key).map StoredObject.info) := by
  obtain ⟨f, session, hrun, -, -, hannounced, rfl⟩ := of_returned h
  obtain ⟨_ | event, hwrite, hf⟩ := exists_of_runUnder_map hrun <;> cases hf
  obtain ⟨blob, key, hcheck, hwritten⟩ := tileWritten_of_ok hwrite
  cases hwritten with
  | unheard nobody write =>
    rw [hsomebody] at nobody
    cases nobody
  | @heard info σ₁ σ' somebody probe write =>
    refine ⟨blob, key, info, hcheck, ?_, hannounced,
      fun hhonest => Backend.eq_map_info_of_head hhonest probe⟩
    rw [bucket_of_writeBlob write, Backend.eq_sent_of_head probe, Session.bucket_sent]

/-- **A value of metadata that is written** is in the map that is stored. -/
lemma exists_of_putMetadata_returned {n name value : String}
    (h : ((putMetadata n name value).operation.perform.runIn c w).1.completion =
      .returned answer) :
    ∃ (key : Key) (m : Properties), w.store.layout.metadata n = .ok key ∧
      ((putMetadata n name value).operation.perform.runIn c w).2.session.bucket.octets? key =
        some (Properties.encode (m.insert name value)) := by
  obtain ⟨f, session, hrun, -, -, -, rfl⟩ := of_returned h
  obtain ⟨_ | u, hwrite, hf⟩ := exists_of_runUnder_map hrun <;> cases hf
  exact exists_of_writeMetadata hwrite

/-- **A tile that is fetched**: its object is looked up under its key. What is found is there, and
what is there is found if fetches are honest. -/
lemma exists_of_get_returned {t : Tile}
    (h : ((get t).operation.perform.runIn c w).1.completion = .returned answer) :
    ∃ key found, w.store.layout.tile t = .ok key ∧
      ((get t).operation.perform.runIn c w).1 =
        ⟨.returned (fetched t found).answer, (fetched t found).tile⟩ ∧
      (∀ o, found = some o → w.session.bucket.find? key = some o) ∧
      (c.plan.FetchesHonestly → found = w.session.bucket.find? key) := by
  obtain ⟨f, session, hrun, rfl, htile, -, -⟩ := of_returned h
  obtain ⟨_ | found, hread, hf⟩ := exists_of_runUnder_map hrun <;> cases hf
  obtain ⟨key, hcheck, hget, -⟩ := exists_of_readTile hread
  refine ⟨key, found, (checkedTile_eq_ok_iff.1 hcheck).1, ?_, fun o ho => ?_, fun hhonest => ?_⟩
  · rw [← h, ← htile]
  · subst ho
    exact Backend.find?_of_get_eq_some hget
  · exact Backend.eq_find?_of_get (hhonest _ _) hget

/-- **A value of metadata that is read**: it is looked up in what is kept under the key of the
layer. What is found is there, and what is there is found if fetches are honest. -/
lemma exists_of_getMetadata_returned {n name : String}
    (h : ((getMetadata n name).operation.perform.runIn c w).1.completion = .returned answer) :
    ∃ key found, w.store.layout.metadata n = .ok key ∧ answer = .text found ∧
      (∀ value, found = some value →
        ∃ m, w.session.bucket.properties key = .ok m ∧ m.find? name = some value) ∧
      (c.plan.FetchesHonestly →
        ∃ m, w.session.bucket.properties key = .ok m ∧ found = m.find? name) := by
  obtain ⟨f, session, hrun, rfl, -, -, -⟩ := of_returned h
  obtain ⟨_ | found, hread, hf⟩ := exists_of_runUnder_map hrun <;> cases hf
  obtain ⟨key, m, hkey, hload, rfl⟩ := exists_of_readMetadata hread
  refine ⟨key, m.find? name, hkey, rfl, fun value hvalue => ?_, fun hhonest => ?_⟩
  · rcases properties_of_loadProperties_or hkey hload with hm | rfl
    · exact ⟨m, hm, hvalue⟩
    · cases hvalue
  · exact ⟨m, properties_of_loadProperties hkey (hhonest _ _) hload, rfl⟩

end Call

/-- An operation returns, and does not fail. -/
def Operation.Returns (c : Context) (w : World) (o : Operation) : Prop :=
  ∃ answer, (o.perform.runIn c w).1.completion = .returned answer

namespace Admin

/-! ## Runs of completions -/

/-- The value that is returned makes no difference. -/
lemma Run.ofCompletion_map {α β : Type} (files : Directory) (f : α → β)
    (completion : Completion α) :
    Run.ofCompletion files (completion.map f) = Run.ofCompletion files completion := by
  cases completion <;> rfl

/-- Such a run is done just if the call returned. -/
lemma Run.ending_ofCompletion_eq_done_iff {α : Type} {files : Directory}
    {completion : Completion α} :
    (Run.ofCompletion files completion).ending = .done ↔ ∃ a, completion = .returned a := by
  cases completion <;> simp [Run.ofCompletion]

/-- What an outlet takes is the output. -/
lemma Run.output_ofOutput {outlet : Outlet} {data : Octets} (h : outlet.Takes data)
    (files : Directory) (broken : String → Ending) :
    (Run.ofOutput outlet files data broken).output = data := by
  rw [Outlet.Takes] at h
  simp only [Run.ofOutput, Outlet.write, h]

/-- A run that ends with octets for the standard output is done just if the outlet takes them. -/
lemma Run.ending_ofOutput_eq_done_iff {outlet : Outlet} {files : Directory} {data : Octets}
    {broken : String → Ending} (hbroken : ∀ reason, broken reason ≠ .done) :
    (Run.ofOutput outlet files data broken).ending = .done ↔ outlet.Takes data := by
  simp only [Run.ofOutput, Outlet.write, Outlet.Takes]
  cases outlet.fault? data with
  | none => simp
  | some fault => simp [hbroken fault.2]

namespace Command

variable {outlet : Outlet} {files : Directory} {c : Context} {w : World}

/-! ## The call of a command -/

/-- The call that a command makes, or its run if it makes none. -/
def call (files : Directory) : Command → Except Run Call
  | check => .error { ending := .done, files }
  | deleteLayer layer => .ok (.deleteLayer layer)
  | deleteGridset layer gridset => .ok (.deleteGridset layer gridset)
  | getMetadata layer key => .ok (.getMetadata layer key)
  | putMetadata layer key value => .ok (.putMetadata layer key value)
  | getTile address _ => .ok (.get address.tile)
  | putTile address input =>
    match files.read input with
    | .error fault => .error (Run.ofReport files [s!"Failed to read {input}", fault.message])
    | .ok blob => .ok (.put (address.tile.withBlob blob))

/-- The run of a command, given the reply to its call. -/
def conclude (outlet : Outlet) (files : Directory) (reply : Reply) : Command → Run
  | getMetadata layer key =>
    match reply.completion with
    | .returned (.text value) => printValue outlet files layer key value
    | ended => Run.ofCompletion files ended
  | getTile address output =>
    let tile := reply.tile.getD address.tile
    match reply.completion with
    | .returned (.truth true) => deliver outlet files output (tile.blob.getD [])
    | .returned (.truth false) => Run.ofReport files [s!"Tile {tile.text} not found"]
    | ended => Run.ofCompletion files ended
  | _ => Run.ofCompletion files reply.completion

/-- **A command is its call and a conclusion** from the reply. -/
theorem runIn_execute (outlet : Outlet) (files : Directory) (command : Command) (c : Context)
    (w : World) :
    (command.execute outlet files).runIn c w =
      match command.call files with
      | .error run => (run, w)
      | .ok call =>
        (command.conclude outlet files (call.operation.perform.runIn c w).1,
          (call.operation.perform.runIn c w).2) := by
  cases command with
  | check => rfl
  | deleteLayer layer =>
    simp only [execute, call, conclude, Call.operation, Operation.perform, StoreM.runIn_bind,
      StoreM.runIn_pure, Run.ofCompletion_map]
  | deleteGridset layer gridset =>
    simp only [execute, call, conclude, Call.operation, Operation.perform, StoreM.runIn_bind,
      StoreM.runIn_pure, Run.ofCompletion_map]
  | putMetadata layer key value =>
    simp only [execute, call, conclude, Call.operation, Operation.perform, StoreM.runIn_bind,
      StoreM.runIn_pure, Run.ofCompletion_map]
  | getMetadata layer key =>
    simp only [execute, call, conclude, Call.operation, Operation.perform, StoreM.runIn_bind,
      StoreM.runIn_pure]
    cases ((Store.getMetadata layer key).runIn c w).1 <;> rfl
  | getTile address output =>
    simp only [execute, call, conclude, Call.operation, Operation.perform, StoreM.runIn_bind]
    rcases (Store.get address.tile).runIn c w with ⟨⟨(_ | _) | _ | _, tile⟩, w'⟩ <;> rfl
  | putTile address input =>
    simp only [execute, call]
    cases files.read input with
    | error fault => rfl
    | ok blob =>
      simp only [conclude, Call.operation, Operation.perform, StoreM.runIn_bind,
        StoreM.runIn_pure, Run.ofCompletion_map]

/-! ## When a command succeeds -/

/-- A blob can be handed over: its file, if one is named, can be written, and else the standard
output takes it. -/
def CanDeliver (outlet : Outlet) (files : Directory) (output : Option String) (blob : Octets) :
    Prop :=
  match output with
  | none => outlet.Takes blob
  | some path => ∃ files', files.write path blob = .ok files'

/-- **A command succeeds**: its call returns; for the commands that ask for an item, it returns the
item, and this can be handed over; and the file that is to be stored can be read. -/
def Succeeds (outlet : Outlet) (files : Directory) (c : Context) (w : World) : Command → Prop
  | check => True
  | deleteLayer layer => (Operation.deleteLayer layer).Returns c w
  | deleteGridset layer gridset => (Operation.deleteGridset layer gridset).Returns c w
  | getMetadata layer key => ∃ value,
    ((Operation.getMetadata layer key).perform.runIn c w).1.completion =
      .returned (.text (some value)) ∧ outlet.Takes (Utf8.encode (value ++ "\n"))
  | putMetadata layer key value => (Operation.putMetadata layer key value).Returns c w
  | getTile address output => ∃ tile : Tile,
    ((Operation.get address.tile).perform.runIn c w).1 = ⟨.returned (.truth true), some tile⟩ ∧
      CanDeliver outlet files output (tile.blob.getD [])
  | putTile address input => ∃ blob, files.read input = .ok blob ∧
    (Operation.put (address.tile.withBlob blob)).Returns c w

/-- A run that hands a blob over is done just if this can be done. -/
lemma ending_deliver_eq_done_iff {output : Option String} {blob : Octets} :
    (deliver outlet files output blob).ending = .done ↔
      CanDeliver outlet files output blob := by
  cases output with
  | none => exact Run.ending_ofOutput_eq_done_iff nofun
  | some path =>
    cases hwrite : files.write path blob <;> simp [deliver, CanDeliver, Run.ofReport, hwrite]

/-- What is printed of a value is done just if there is one and its line can be printed. -/
lemma ending_printValue_eq_done_iff {layer key : String} {value : Option String} :
    (printValue outlet files layer key value).ending = .done ↔
      ∃ text, value = some text ∧ outlet.Takes (Utf8.encode (text ++ "\n")) := by
  cases value with
  | none => simp [printValue, Run.ofReport]
  | some text =>
    have hline : (printValue outlet files layer key (some text)).ending = .done ↔
        outlet.Takes (Utf8.encode (text ++ "\n")) :=
      Run.ending_ofOutput_eq_done_iff nofun
    rw [hline]
    simp

/-- **When a command succeeds**, whatever the plan. -/
theorem ending_execute_eq_done_iff (outlet : Outlet) (files : Directory) (command : Command)
    (c : Context) (w : World) :
    ((command.execute outlet files).runIn c w).1.ending = .done ↔
      command.Succeeds outlet files c w := by
  rw [runIn_execute]
  cases command with
  | check => exact iff_of_true rfl trivial
  | deleteLayer layer => exact Run.ending_ofCompletion_eq_done_iff
  | deleteGridset layer gridset => exact Run.ending_ofCompletion_eq_done_iff
  | putMetadata layer key value => exact Run.ending_ofCompletion_eq_done_iff
  | getMetadata layer key =>
    simp only [call, conclude, Succeeds, Call.operation, Operation.perform, StoreM.runIn_bind,
      StoreM.runIn_pure]
    cases ((Store.getMetadata layer key).runIn c w).1 with
    | returned value =>
      simp only [Completion.map, Completion.returned.injEq, Answer.text.injEq]
      exact ending_printValue_eq_done_iff
    | failed error => simp [Completion.map, Run.ofCompletion]
    | panicked message => simp [Completion.map, Run.ofCompletion]
  | getTile address output =>
    simp only [call, conclude, Succeeds, Call.operation, Operation.perform, StoreM.runIn_bind]
    rcases (Store.get address.tile).runIn c w with ⟨⟨(_ | _) | error | message, tile⟩, w'⟩
    · simp [Completion.map, Run.ofReport]
    · simp only [Completion.map, StoreM.runIn_pure, Option.getD_some, Reply.mk.injEq,
        Option.some.injEq, true_and, exists_eq_left']
      exact ending_deliver_eq_done_iff
    · simp [Completion.map, Run.ofCompletion]
    · simp [Completion.map, Run.ofCompletion]
  | putTile address input =>
    simp only [call, Succeeds]
    cases hread : files.read input with
    | error fault => simp [Run.ofReport]
    | ok blob =>
      simp only [Except.ok.injEq, exists_eq_left']
      exact Run.ending_ofCompletion_eq_done_iff

/-! ## The same in three parts -/

/-- The call of a command, if it makes one, returns. -/
def CallReturns (files : Directory) (c : Context) (w : World) (command : Command) : Prop :=
  ∀ call, command.call files = .ok call → call.operation.Returns c w

/-- A command that makes a call has it return just if the call returns. -/
lemma callReturns_iff {command : Command} {call : Call} (hcall : command.call files = .ok call) :
    command.CallReturns files c w ↔ call.operation.Returns c w := by
  constructor
  · exact fun h => h call hcall
  · intro h call' hcall'
    obtain rfl := Except.ok.inj (hcall.symm.trans hcall')
    exact h

/-- The item that a command asks for, if it asks for one, is in the bucket. -/
def ItemExists (layout : Layout) (b : Bucket) : Command → Prop
  | getTile address _ => ∃ key o, layout.tile address.tile = .ok key ∧ b.find? key = some o
  | getMetadata layer name => ∃ key m value,
    layout.metadata layer = .ok key ∧ b.properties key = .ok m ∧ m.find? name = some value
  | _ => True

/-- The file that is to be stored can be read, and the item that is in the bucket can be handed
over. -/
def FilesServe (outlet : Outlet) (files : Directory) (layout : Layout) (b : Bucket) :
    Command → Prop
  | putTile _ input => ∃ blob, files.read input = .ok blob
  | getTile address output => ∀ key o, layout.tile address.tile = .ok key →
    b.find? key = some o → CanDeliver outlet files output o.data
  | getMetadata layer name => ∀ key m value, layout.metadata layer = .ok key →
    b.properties key = .ok m → m.find? name = some value →
      outlet.Takes (Utf8.encode (value ++ "\n"))
  | _ => True

/-- A tile is got just if it is there, provided that fetches are honest. -/
lemma succeeds_getTile_iff (hhonest : c.plan.FetchesHonestly) (address : TileAddress)
    (output : Option String) :
    (getTile address output).Succeeds outlet files c w ↔
      (Operation.get address.tile).Returns c w ∧
        ∃ key o, w.store.layout.tile address.tile = .ok key ∧
          w.session.bucket.find? key = some o ∧ CanDeliver outlet files output o.data := by
  constructor
  · rintro ⟨tile, hreply, hwrite⟩
    have hreturned := congrArg Reply.completion hreply
    obtain ⟨key, found, hkey, hfetched, hthere, -⟩ := Call.exists_of_get_returned hreturned
    refine ⟨⟨_, hreturned⟩, key, ?_⟩
    rw [show ((Call.get address.tile).operation.perform.runIn c w).1 = _ from hreply] at hfetched
    cases found with
    | none => cases hfetched
    | some o =>
      cases hfetched
      exact ⟨o, hkey, hthere o rfl, hwrite⟩
  · rintro ⟨⟨answer, hreturned⟩, key, o, hkey, hfind, hwrite⟩
    obtain ⟨key', found, hkey', hfetched, -, hfound⟩ := Call.exists_of_get_returned hreturned
    obtain rfl := Except.ok.inj (hkey.symm.trans hkey')
    rw [hfound hhonest, hfind] at hfetched
    exact ⟨_, hfetched, hwrite⟩

/-- A value is got just if it is there, provided that fetches are honest. -/
lemma succeeds_getMetadata_iff (hhonest : c.plan.FetchesHonestly) (layer name : String) :
    (getMetadata layer name).Succeeds outlet files c w ↔
      (Operation.getMetadata layer name).Returns c w ∧
        ∃ key m value, w.store.layout.metadata layer = .ok key ∧
          w.session.bucket.properties key = .ok m ∧ m.find? name = some value ∧
            outlet.Takes (Utf8.encode (value ++ "\n")) := by
  constructor
  · rintro ⟨value, hreturned, htakes⟩
    obtain ⟨key, found, hkey, hfound, hthere, -⟩ :=
      Call.exists_of_getMetadata_returned hreturned
    cases hfound
    obtain ⟨m, hm, hvalue⟩ := hthere value rfl
    exact ⟨⟨_, hreturned⟩, key, m, value, hkey, hm, hvalue, htakes⟩
  · rintro ⟨⟨answer, hreturned⟩, key, m, value, hkey, hm, hvalue, htakes⟩
    obtain ⟨key', found, hkey', rfl, -, hfound⟩ :=
      Call.exists_of_getMetadata_returned hreturned
    obtain rfl := Except.ok.inj (hkey.symm.trans hkey')
    obtain ⟨m', hm', rfl⟩ := hfound hhonest
    obtain rfl := Except.ok.inj (hm.symm.trans hm')
    rw [hvalue] at hreturned
    exact ⟨value, hreturned, htakes⟩

/-- **When a command succeeds if fetches are honest**: its call returns, its item is in the bucket,
and its files serve. -/
theorem succeeds_iff (hhonest : c.plan.FetchesHonestly) (outlet : Outlet) (files : Directory)
    (command : Command) (w : World) :
    command.Succeeds outlet files c w ↔
      command.CallReturns files c w ∧ command.ItemExists w.store.layout w.session.bucket ∧
        command.FilesServe outlet files w.store.layout w.session.bucket := by
  cases command with
  | check => simp [Succeeds, CallReturns, ItemExists, FilesServe, call]
  | deleteLayer layer =>
    simp [Succeeds, CallReturns, ItemExists, FilesServe, call, Call.operation]
  | deleteGridset layer gridset =>
    simp [Succeeds, CallReturns, ItemExists, FilesServe, call, Call.operation]
  | putMetadata layer key value =>
    simp [Succeeds, CallReturns, ItemExists, FilesServe, call, Call.operation]
  | getMetadata layer key =>
    rw [succeeds_getMetadata_iff hhonest, callReturns_iff rfl]
    refine and_congr_right fun _ => ?_
    constructor
    · rintro ⟨place, m, value, hplace, hm, hvalue, htakes⟩
      refine ⟨⟨place, m, value, hplace, hm, hvalue⟩, fun place' m' value' hplace' hm' hvalue' => ?_⟩
      obtain rfl := Except.ok.inj (hplace.symm.trans hplace')
      obtain rfl := Except.ok.inj (hm.symm.trans hm')
      obtain rfl := Option.some.inj (hvalue.symm.trans hvalue')
      exact htakes
    · rintro ⟨⟨place, m, value, hplace, hm, hvalue⟩, hserve⟩
      exact ⟨place, m, value, hplace, hm, hvalue, hserve place m value hplace hm hvalue⟩
  | getTile address output =>
    rw [succeeds_getTile_iff hhonest, callReturns_iff rfl]
    refine and_congr_right fun _ => ?_
    constructor
    · rintro ⟨key, o, hkey, hfind, hdeliver⟩
      refine ⟨⟨key, o, hkey, hfind⟩, fun key' o' hkey' hfind' => ?_⟩
      obtain rfl := Except.ok.inj (hkey.symm.trans hkey')
      obtain rfl := Option.some.inj (hfind.symm.trans hfind')
      exact hdeliver
    · rintro ⟨⟨key, o, hkey, hfind⟩, hserve⟩
      exact ⟨key, o, hkey, hfind, hserve key o hkey hfind⟩
  | putTile address input =>
    simp only [Succeeds, CallReturns, ItemExists, FilesServe, call]
    cases files.read input with
    | error fault => simp
    | ok blob => simp [Call.operation]

end Command

end Admin

end TileCache
