import TileCache.Admin.Session
import TileCache.Proofs.Commands
import TileCache.Proofs.Inspection
import TileCache.Proofs.Secrets
import TileCache.Proofs.Truthfulness
set_option autoImplicit false

/-!
# The course of a command line

A command line whose settings are complete connects to the bucket, carries out its command with the
console listening if the command may change the bucket, and shuts the store down. Either the bucket
is not reached, and then nothing is changed or logged, or the command is executed on a store that
was just set up. So what is known of commands is known of command lines.

## Main definitions

* `TileCache.Admin.Reached` — what it means that a bucket was reached.
* `TileCache.Admin.Command.audience` — the world in which a command is executed.

## Main results

* `TileCache.Admin.reached_of_connect` — a world that is connected to was reached.
* `TileCache.Admin.runInvocation_cases` — the two courses of a command line.
* `TileCache.Admin.exitCode_eq_zero_iff` — when a command line succeeds.
* `TileCache.Admin.inspected_of_not_mutating` — commands that may not change the bucket only look.
* `TileCache.Admin.log_of_exitCode_ne_zero` — a command line that fails logs nothing.
-/

namespace TileCache

/-- If no request fails, the root of a store can be probed until the store is shut down. -/
lemma Store.serves_probeRoot {s : Store} (b : Bucket) (hlive : s.live = true) :
    s.probeRoot.Serves b (.ok ()) b := by
  have hfirst : ∃ shown, Listing.first? ⟨b.entriesBelow s.layout.root, none⟩ = .ok shown := by
    cases b.entriesBelow s.layout.root <;> exact ⟨_, rfl⟩
  obtain ⟨shown, hfirst⟩ := hfirst
  unfold probeRoot
  rw [requireLive_eq, guard_of_live hlive]
  refine (RequestM.serves_pure () b).bind ((Backend.serves_list s.layout.root b).bind ?_)
  rw [hfirst]
  exact (RequestM.serves_pure shown b).bind (RequestM.serves_pure () b)

namespace Admin

variable {builder : ClientBuilder} {outlet : Outlet} {config : Config} {c : Context}
  {session : Session} {w : World} {files : Directory}

/-! ## Connecting -/

/-- A check of the access is a probe of the root. -/
lemma runIn_checkAccess {x : Except StorageError Unit} {session' : Session}
    (h : w.store.probeRoot.runUnder c.plan w.session = (x, session')) :
    Store.checkAccess.runIn c w = (Store.settled x, { w with session := session' }) := by
  rw [Store.checkAccess, StoreM.runIn_bind, StoreM.runIn_request h]
  rfl

/-- To connect with settings that describe a store is to probe its root. -/
lemma connect_eq {store : Store} (hstore : config.store builder = .ok store)
    {x : Except StorageError Unit} {session' : Session}
    (h : store.probeRoot.runUnder c.plan session = (x, session')) :
    connect builder config c session =
      (match x with
        | .ok _ => .returned { store, session := session' }
        | .error e => .failed e, session') := by
  unfold connect
  rw [hstore]
  dsimp only
  rw [@runIn_checkAccess c { store, session } x session' h]
  cases x <;> rfl

/-- To connect is to look. -/
lemma inspected_connect (builder : ClientBuilder) (config : Config) (c : Context)
    (session : Session) :
    session.Inspected (connect builder config c session).2 := by
  cases hstore : config.store builder with
  | error error =>
    rw [connect, hstore]
    exact .refl session
  | ok store =>
    have hprobe := store.inspects_probeRoot c.plan session
    rw [connect_eq hstore rfl]
    exact hprobe

/-- **A bucket that was reached**: the store is the one that the settings describe, only looks were
taken, and nobody was told of anything. -/
structure Reached (builder : ClientBuilder) (config : Config) (session : Session) (w : World) :
    Prop where
  config_store : config.store builder = .ok w.store
  inspected : session.Inspected w.session
  deliveries_eq : w.deliveries = []

/-- The store has the layout and the batch size of its settings, and no listeners yet. -/
lemma Reached.store_eq (h : Reached builder config session w) :
    w.store = { layout := .ofText config.keyRoot, batchSize := .clamp config.batchSize.toNat } :=
  Config.store_eq_of_ok h.config_store

/-- The store has not been shut down. -/
lemma Reached.live (h : Reached builder config session w) : w.store.live = true := by
  rw [h.store_eq]

/-- A world that is connected to is one in which the bucket was reached. -/
lemma reached_of_connect (h : (connect builder config c session).1 = .returned w) :
    Reached builder config session w ∧ (connect builder config c session).2 = w.session := by
  have hinspected := inspected_connect builder config c session
  cases hstore : config.store builder with
  | error error =>
    rw [connect, hstore] at h
    cases h
  | ok store =>
    cases hprobe : store.probeRoot.runUnder c.plan session with
    | mk x session' =>
      rw [connect_eq hstore hprobe] at h hinspected ⊢
      cases x with
      | error e => cases h
      | ok u =>
        obtain rfl := Completion.returned.inj h
        exact ⟨⟨hstore, hinspected, rfl⟩, rfl⟩

/-- Settings that describe a store connect if no request fails. -/
lemma exists_connect_of_faultless (hplan : c.plan = .faultless) {store : Store}
    (hstore : config.store builder = .ok store) (session : Session) :
    ∃ w, (connect builder config c session).1 = .returned w := by
  have hlive : store.live = true := by
    rw [Config.store_eq_of_ok hstore]
  have hserves := Store.serves_probeRoot session.bucket hlive
  obtain ⟨session', hprobe, -⟩ := hserves session rfl
  rw [← hplan] at hprobe
  rw [connect_eq hstore hprobe]
  exact ⟨_, rfl⟩

/-! ## Carrying out a command -/

/-- The world in which a command is executed: the console listens if the command may change the
bucket. -/
def Command.audience (command : Command) (w : World) : World :=
  if command.isMutating then
    { w with store := { w.store with listeners := w.store.listeners.add .console } }
  else w

/-- The console changes neither the session nor the layout, and nobody has been told of anything
yet. -/
lemma Command.audience_eq (command : Command) (w : World) :
    (command.audience w).session = w.session ∧ (command.audience w).deliveries = w.deliveries ∧
      (command.audience w).store.layout = w.store.layout ∧
      (command.audience w).store.live = w.store.live := by
  unfold audience
  split_ifs <;> exact ⟨rfl, rfl, rfl, rfl⟩

/-- **A command that is carried out** is executed in front of its audience; that the store is shut
down afterwards changes nothing but the store. -/
lemma runIn_carryOut (hlive : w.store.live = true) (outlet : Outlet) (files : Directory)
    (command : Command) (c : Context) :
    (carryOut outlet files command).runIn c w =
      (((command.execute outlet files).runIn c (command.audience w)).1,
        (Store.destroy.runIn c
          ((command.execute outlet files).runIn c (command.audience w)).2).2) := by
  simp only [carryOut, Command.audience]
  cases command.isMutating with
  | false => rfl
  | true =>
    simp only [if_true, StoreM.runIn_bind, StoreM.runIn_addListener, hlive]
    rfl

/-! ## What commands change and announce -/

namespace Command

/-- **A command that may not change the bucket** makes no call but one that only looks. -/
lemma isRead_of_call {command : Command} (h : command.isMutating = false) {call : Call}
    (hcall : command.call files = .ok call) : call.isRead = true := by
  cases command with
  | check => cases hcall
  | getMetadata layer key =>
    cases hcall
    rfl
  | getTile address output =>
    cases hcall
    rfl
  | _ => cases h

/-- A command that may not change the bucket only looks, and nobody hears of it. -/
lemma execute_of_not_mutating {command : Command} (h : command.isMutating = false)
    (outlet : Outlet) (files : Directory) (c : Context) (w : World) :
    w.session.Inspected ((command.execute outlet files).runIn c w).2.session ∧
      ((command.execute outlet files).runIn c w).2.deliveries = w.deliveries := by
  rw [runIn_execute]
  cases hcall : command.call files with
  | error run => exact ⟨.refl _, rfl⟩
  | ok call =>
    have hread := isRead_of_call h hcall
    exact ⟨Call.inspected_of_isRead hread, Call.deliveries_of_isRead hread⟩

/-- The run of a command that may change the bucket is that of its completion. -/
lemma conclude_of_mutating {command : Command} (h : command.isMutating = true) (reply : Reply) :
    command.conclude outlet files reply = Run.ofCompletion files reply.completion := by
  cases command with
  | check => cases h
  | getMetadata layer key => cases h
  | getTile address output => cases h
  | _ => rfl

/-- **Nobody hears of a command that is not done**, if no listener panics. -/
lemma deliveries_of_not_done {command : Command} (hcalm : c.callbacks.NeverPanic)
    (h : ((command.execute outlet files).runIn c w).1.ending ≠ .done) :
    ((command.execute outlet files).runIn c w).2.deliveries = w.deliveries := by
  cases hmutating : command.isMutating with
  | false => exact (execute_of_not_mutating hmutating outlet files c w).2
  | true =>
    rw [runIn_execute] at h ⊢
    cases hcall : command.call files with
    | error run => rfl
    | ok call =>
      simp only [hcall] at h ⊢
      rw [conclude_of_mutating hmutating, Ne, Run.ending_ofCompletion_eq_done_iff] at h
      refine Call.deliveries_of_failed_or_false (.inl ?_)
      cases hcompletion : (call.operation.perform.runIn c w).1.completion with
      | returned answer => exact absurd ⟨answer, hcompletion⟩ h
      | failed error => exact ⟨error, rfl⟩
      | panicked message => exact absurd hcompletion (call.completion_ne_panicked hcalm message)

end Command

/-! ## The whole course -/

/-- A run that is done exits with zero, and no other. -/
lemma Outcome.exitCode_ofRun_eq_zero_iff {run : Run} {w : World} :
    (Outcome.ofRun run w).exitCode = 0 ↔ run.ending = .done := by
  obtain ⟨ending, output, files⟩ := run
  cases ending <;> simp [Outcome.ofRun, panicCode]

/-- The session that a run leaves behind is that of its world. -/
@[simp]
lemma Outcome.session_ofRun (run : Run) (w : World) : (ofRun run w).session = w.session := by
  obtain ⟨ending, output, files⟩ := run
  cases ending <;> rfl

/-- The log that a run leaves behind is what the console wrote. -/
@[simp]
lemma Outcome.log_ofRun (run : Run) (w : World) : (ofRun run w).log = w.logged := by
  obtain ⟨ending, output, files⟩ := run
  cases ending <;> rfl

/-- The output of a run is left behind. -/
@[simp]
lemma Outcome.output_ofRun (run : Run) (w : World) : (ofRun run w).output = run.output := by
  obtain ⟨ending, output, files⟩ := run
  cases ending <;> rfl

/-- The files of a run are left behind. -/
@[simp]
lemma Outcome.files_ofRun (run : Run) (w : World) : (ofRun run w).files = run.files := by
  obtain ⟨ending, output, files⟩ := run
  cases ending <;> rfl

/-- Of what is left behind it is not seen whether the store was shut down. -/
lemma Outcome.ofRun_destroy (run : Run) (c : Context) (w : World) :
    Outcome.ofRun run (Store.destroy.runIn c w).2 = Outcome.ofRun run w := rfl

section Course

variable {host : Host} {i : Invocation} {env : Environment}

/-- **The two courses of a command line** whose settings are complete: the bucket is reached and the
command is executed, or it is not reached, and then the command line has only looked, has logged
nothing, and fails. -/
lemma runInvocation_cases (hconfig : loadConfig i.config env files = .ok config) (c : Context)
    (session : Session) :
    (∃ w, (connect host.clients config c session).1 = .returned w ∧
      Reached host.clients config session w ∧
      ∃ run w', (i.command.execute host.stdout files).runIn c (i.command.audience w) = (run, w') ∧
        runInvocation host i env files c session = .ofRun run w') ∨
    (∀ w, (connect host.clients config c session).1 ≠ .returned w) ∧
      (runInvocation host i env files c session).exitCode ≠ 0 ∧
      session.Inspected (runInvocation host i env files c session).session ∧
      (runInvocation host i env files c session).log = [] := by
  have hinspected := inspected_connect host.clients config c session
  cases hconnect : connect host.clients config c session with
  | mk completion session' =>
    rw [hconnect] at hinspected
    cases completion with
    | returned w =>
      have hreached := (reached_of_connect (congrArg Prod.fst hconnect)).1
      refine .inl ⟨w, rfl, hreached, _, _, rfl, ?_⟩
      simp only [runInvocation, hconfig, hconnect, runIn_carryOut hreached.live]
      exact Outcome.ofRun_destroy ..
    | failed error =>
      refine .inr ⟨nofun, ?_, ?_, ?_⟩
      · simp [runInvocation, hconfig, hconnect, Outcome.failed]
      · simp only [runInvocation, hconfig, hconnect]
        exact hinspected
      · simp only [runInvocation, hconfig, hconnect]
        rfl
    | panicked message =>
      refine .inr ⟨nofun, ?_, ?_, ?_⟩
      · simp [runInvocation, hconfig, hconnect, panicCode]
      · simp only [runInvocation, hconfig, hconnect]
        exact hinspected
      · simp only [runInvocation, hconfig, hconnect]

/-- **When a command line succeeds**: the bucket is reached, and the command succeeds. -/
lemma exitCode_eq_zero_iff (hconfig : loadConfig i.config env files = .ok config) (c : Context)
    (session : Session) :
    (runInvocation host i env files c session).exitCode = 0 ↔
      ∃ w, (connect host.clients config c session).1 = .returned w ∧
        i.command.Succeeds host.stdout files c (i.command.audience w) := by
  rcases runInvocation_cases hconfig c session with
    ⟨w, hconnect, -, run, w', hrun, houtcome⟩ | ⟨hunreached, hfailed, -, -⟩
  · have hdone :=
      Command.ending_execute_eq_done_iff host.stdout files i.command c (i.command.audience w)
    rw [hrun] at hdone
    rw [houtcome, Outcome.exitCode_ofRun_eq_zero_iff, hdone]
    constructor
    · exact fun h => ⟨w, hconnect, h⟩
    · rintro ⟨v, hv, h⟩
      obtain rfl := Completion.returned.inj (hconnect.symm.trans hv)
      exact h
  · refine iff_of_false hfailed ?_
    rintro ⟨w, hw, -⟩
    exact hunreached w hw

/-- **When a command line succeeds if fetches are honest**: the bucket is reached, the call of the
command returns, its item is in the bucket, and its files serve. -/
lemma exitCode_eq_zero_iff_of_honest (hconfig : loadConfig i.config env files = .ok config)
    (hhonest : c.plan.FetchesHonestly) (session : Session) :
    (runInvocation host i env files c session).exitCode = 0 ↔
      ∃ w, (connect host.clients config c session).1 = .returned w ∧
        i.command.CallReturns files c (i.command.audience w) ∧
        i.command.ItemExists (.ofText config.keyRoot) session.bucket ∧
        i.command.FilesServe host.stdout files (.ofText config.keyRoot) session.bucket := by
  rw [exitCode_eq_zero_iff hconfig]
  refine exists_congr fun w => and_congr_right fun hconnect => ?_
  have hreached := (reached_of_connect hconnect).1
  obtain ⟨hsession, -, hlayout, -⟩ := i.command.audience_eq w
  rw [Command.succeeds_iff hhonest, hsession, hlayout, hreached.inspected.bucket_eq,
    hreached.store_eq]

/-- **The course of a command line that succeeds.** -/
lemma course_of_success (hconfig : loadConfig i.config env files = .ok config)
    (h : (runInvocation host i env files c session).exitCode = 0) :
    ∃ w, Reached host.clients config session w ∧
      i.command.Succeeds host.stdout files c (i.command.audience w) ∧
      runInvocation host i env files c session =
        .ofRun ((i.command.execute host.stdout files).runIn c (i.command.audience w)).1
          ((i.command.execute host.stdout files).runIn c (i.command.audience w)).2 := by
  rcases runInvocation_cases hconfig c session with
    ⟨w, -, hreached, run, w', hrun, houtcome⟩ | ⟨-, hfailed, -, -⟩
  · refine ⟨w, hreached, ?_, ?_⟩
    · rw [houtcome, Outcome.exitCode_ofRun_eq_zero_iff] at h
      rw [← Command.ending_execute_eq_done_iff, hrun]
      exact h
    · rw [hrun]
      exact houtcome
  · exact absurd h hfailed

/-- **A command line whose command may not change the bucket only looks**, however it ends, and logs
nothing. -/
lemma inspected_of_not_mutating (hconfig : loadConfig i.config env files = .ok config)
    (h : i.command.isMutating = false) (c : Context) (session : Session) :
    session.Inspected (runInvocation host i env files c session).session ∧
      (runInvocation host i env files c session).log = [] := by
  rcases runInvocation_cases hconfig c session with
    ⟨w, -, hreached, run, w', hrun, houtcome⟩ | ⟨-, -, hinspected, hlog⟩
  · obtain ⟨hinspected, hdeliveries⟩ :=
      Command.execute_of_not_mutating h host.stdout files c (i.command.audience w)
    obtain ⟨hsession, hnobody, -, -⟩ := i.command.audience_eq w
    rw [hrun, hsession] at hinspected
    rw [hrun, hnobody, hreached.deliveries_eq] at hdeliveries
    rw [houtcome, Outcome.session_ofRun, Outcome.log_ofRun, World.logged, hdeliveries]
    exact ⟨hreached.inspected.trans hinspected, rfl⟩
  · exact ⟨hinspected, hlog⟩

/-- **A command line that fails logs nothing**, if no listener panics. -/
lemma log_of_exitCode_ne_zero (hconfig : loadConfig i.config env files = .ok config)
    (hcalm : c.callbacks.NeverPanic)
    (h : (runInvocation host i env files c session).exitCode ≠ 0) :
    (runInvocation host i env files c session).log = [] := by
  rcases runInvocation_cases hconfig c session with
    ⟨w, -, hreached, run, w', hrun, houtcome⟩ | ⟨-, -, -, hlog⟩
  · rw [houtcome, Ne, Outcome.exitCode_ofRun_eq_zero_iff] at h
    have hnot :
        ((i.command.execute host.stdout files).runIn c (i.command.audience w)).1.ending ≠ .done := by
      rwa [hrun]
    have hdeliveries := Command.deliveries_of_not_done hcalm hnot
    rw [hrun, (i.command.audience_eq w).2.1, hreached.deliveries_eq] at hdeliveries
    rw [houtcome, Outcome.log_ofRun, World.logged, hdeliveries]
    rfl
  · exact hlog

end Course

end Admin

end TileCache
