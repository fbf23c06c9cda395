import Sntp.Proofs.Host.Attempts
import Sntp.Proofs.Scene.Processes
import Sntp.Proofs.Sync.Settings

/-!
# The course of a run on a host

What a run does to its host depends on the kind of its actions: getting the time uses the network and
the console and starts no command (`grows_acquisition`), and all that follows from it leaves the network
alone (`grows_unquestioning`) and starts the command that sets the clock as often as it sets the clock
(`runsOf_date_le`). The books about the commands are kept all the time (`accounts_perform`).
-/

set_option autoImplicit false

namespace Sntp

/-- Whether an effect has to do with the network or the console. -/
def Effect.IsInquiry (effect : Effect) : Prop := effect.isNetwork = true ∨ effect.IsConsole

/-- What has to do with the network or the console starts no command. -/
theorem Effect.IsInquiry.not_isRunOf {effect : Effect} (h : effect.IsInquiry) (name : String) :
    ¬ effect.IsRunOf name := by
  intro hrun
  cases effect with
  | command other arguments =>
    rcases h with h | h
    · cases h
    · exact h
  | _ => exact hrun

/-- Logging has nothing to do with the network. -/
theorem Effect.IsLogging.isNetwork_eq {effect : Effect} (h : effect.IsLogging) : effect.isNetwork = false := by
  cases effect with
  | command name arguments => rfl
  | line text => rfl
  | text text => rfl
  | _ => rcases h with h | h <;> exact h.elim

/-- Logging does not start the command that sets the clock. -/
theorem Effect.IsLogging.not_isRunOf_date {effect : Effect} (h : effect.IsLogging) :
    ¬ effect.IsRunOf ClockSetter.dateCommandName := by
  rcases h with h | h
  · exact h.not_isRunOf _
  · cases effect with
    | command name arguments =>
      obtain rfl : name = systemLogCommand := h
      exact fun hname : systemLogCommand = ClockSetter.dateCommandName => absurd hname (by decide)
    | _ => exact h.elim

namespace Scene

variable {kind : Effect → Prop} {scene later : Scene}

/-- A scene that has grown by other effects records no more runs of a command. -/
theorem Grows.runsOf_eq {name : String} (h : scene.Grows kind later) (hkind : ∀ effect, kind effect → ¬ effect.IsRunOf name) :
    Trace.runsOf name later.trace = Trace.runsOf name scene.trace := by
  obtain ⟨added, htrace, hadded, -⟩ := h.added
  have hnone : Trace.runsOf name added = 0 := by
    unfold Trace.runsOf
    rw [List.countP_eq_zero]
    intro entry hmem
    simpa using hkind entry.2 (hadded entry hmem)
  rw [htrace, Trace.runsOf_append, hnone, Nat.add_zero]

/-- A run of a later scene was started before, if what was added starts no command. -/
theorem Grows.started (h : scene.Grows kind later) (hkind : ∀ effect, kind effect → ∀ name, ¬ effect.IsRunOf name)
    {script : String → Nat → CommandScript} {launch : Launch} {start : Int}
    (hstarted : Started script later.trace launch start) : Started script scene.trace launch start := by
  obtain ⟨added, htrace, hadded, -⟩ := h.added
  rw [htrace] at hstarted
  rcases started_append hstarted with hstarted | ⟨before, name, arguments, after, heq, -⟩
  · exact hstarted
  · have hmem : (start, Effect.command name arguments) ∈ added := by rw [heq]; simp
    exact absurd rfl (hkind _ (hadded _ hmem) name)

/-- Logging does not run the command that sets the clock. -/
theorem runsOf_date_log (scene : Scene) (level : Level) (message : String) :
    Trace.runsOf ClockSetter.dateCommandName (scene.log level message).2.trace =
      Trace.runsOf ClockSetter.dateCommandName scene.trace := by
  have hgrows : scene.Grows Effect.IsLogging (scene.log level message).2 := scene.grows_log level message fun _ => id
  exact hgrows.runsOf_eq fun _ hkind => hkind.not_isRunOf_date

end Scene

namespace Host

variable (host : Host) (state : HostState)

/-- Telling the settings adds to the console only. -/
theorem opened_scene (config : Config) :
    state.scene.Grows Effect.IsConsole (config.opened host.world state).scene :=
  (debugged_scene _ _).trans (debugged_scene _ _)

/-- An exchange adds to the network only. -/
theorem grows_played (script : ExchangeScript) (clock : LocalClock) (start : Int) (endpoint : Endpoint)
    (timeoutMs : Int) (scene : Scene) :
    scene.Grows Effect.IsInquiry
      { scene with trace := scene.trace ++ (script.play clock start endpoint timeoutMs).trace } := by
  have hshape := script.play_shape clock start endpoint timeoutMs
  have hkind : ∀ entry ∈ (script.play clock start endpoint timeoutMs).trace, entry.2.IsInquiry := by
    intro entry hmem
    rw [← hshape.network_eq] at hmem
    exact .inl (List.mem_filter.mp hmem).2
  exact scene.grows_append _ hkind fun entry hmem => (hkind entry hmem).not_isRunOf

/-- A query adds to the network only, and takes its time. -/
theorem grows_query (server : String) (timeoutMs : Int) :
    state.scene.Grows Effect.IsInquiry (host.world (.query server timeoutMs) state).2.scene := by
  rw [world_query]
  exact (grows_played ..).trans (Scene.grows_waitUntil _ _)

/-- Setting the clock starts no command but the one for it. -/
theorem grows_setClock (ms : Number) :
    state.scene.Grows (Effect.IsRunOf ClockSetter.dateCommandName) (host.setClock state ms).2.scene := by
  unfold Host.setClock
  simp only []
  cases (ClockSetter.ofPlatform host.platform).command ms with
  | error failure => exact .refl _ _
  | ok arguments => exact state.scene.grows_runCommand _ arguments rfl

/-- Getting the time uses the network and the console. -/
theorem grows_acquisition {action : Action} (h : action.IsAcquisition) :
    state.scene.Grows Effect.IsInquiry (host.world action state).2.scene := by
  cases action with
  | log level message =>
    obtain rfl : level = .debug := h
    exact state.scene.grows_log_debug message fun _ => .inr trivial
  | query server timeoutMs => exact host.grows_query state server timeoutMs
  | sleep ms => exact state.scene.grows_waitUntil _
  | isPrivileged => exact h.elim
  | setClock timeMs => exact h.elim

/-- Without a question the network is left alone. -/
theorem grows_unquestioning {action : Action} (h : action.isQuestion = false) :
    state.scene.Grows (fun effect => effect.isNetwork = false) (host.world action state).2.scene := by
  cases action with
  | log level message => exact state.scene.grows_log level message fun _ hlogging => hlogging.isNetwork_eq
  | query server timeoutMs => cases h
  | sleep ms => cases h
  | isPrivileged => exact .refl _ _
  | setClock timeMs =>
    refine (host.grows_setClock state timeMs).mono fun effect hrun => ?_
    cases effect <;> first | rfl | exact hrun.elim

/-- An action starts the command that sets the clock once at most, and only if it sets the clock. -/
theorem runsOf_date_world (action : Action) :
    Trace.runsOf ClockSetter.dateCommandName (host.world action state).2.scene.trace ≤
      Trace.runsOf ClockSetter.dateCommandName state.scene.trace + if action.setting?.isSome then 1 else 0 := by
  cases action with
  | log level message => exact Nat.le_of_eq (state.scene.runsOf_date_log level message)
  | query server timeoutMs =>
    exact Nat.le_of_eq ((host.grows_query state server timeoutMs).runsOf_eq fun _ h => h.not_isRunOf _)
  | sleep ms => exact Nat.le_refl _
  | isPrivileged => exact Nat.le_refl _
  | setClock timeMs =>
    show Trace.runsOf _ (host.setClock state timeMs).2.scene.trace ≤ _ + 1
    unfold Host.setClock
    simp only []
    cases (ClockSetter.ofPlatform host.platform).command timeMs with
    | error failure => exact Nat.le_succ _
    | ok arguments =>
      simp only []
      rw [Scene.runCommand_trace, Trace.runsOf_append]
      exact Nat.le_refl _

/-- A task adds to a scene what its actions add, where these may rely on how the scene uses the system log: that
does not change. -/
theorem grows_perform_of_tag {α : Type} {kind : Action → Prop} {effects : Effect → Prop} {tag : Option String}
    (hworld : ∀ action (state : HostState), kind action → state.scene.systemLogTag = tag →
      state.scene.Grows effects (host.world action state).2.scene)
    {task : Task α} (htask : Task.Only kind task) (htag : state.scene.systemLogTag = tag) :
    state.scene.Grows effects (Task.perform host.world task state).2.scene := by
  have hrun := Program.run_relates
    (fun state later : HostState => state.scene.systemLogTag = tag → state.scene.Grows effects later.scene)
    (fun state _ => .refl effects state.scene)
    (fun first second third hfirst hsecond hstart => by
      have hgrown := hfirst hstart
      exact hgrown.trans (hsecond (hgrown.tag_eq.trans hstart)))
    (fun action state hkind => hworld action state hkind) htask state
  exact hrun htag

/-- Actions of one kind add effects of one kind, and so does a task that keeps to that kind. -/
theorem grows_perform {α : Type} {kind : Action → Prop} {effects : Effect → Prop}
    (hworld : ∀ action (state : HostState), kind action → state.scene.Grows effects (host.world action state).2.scene)
    {task : Task α} (htask : Task.Only kind task) :
    state.scene.Grows effects (Task.perform host.world task state).2.scene :=
  host.grows_perform_of_tag state (fun action state hkind _ => hworld action state hkind) htask rfl

/-- All that follows from the acquisition starts the command that sets the clock once at most. -/
theorem runsOf_date_proceed (config : Config) (method : String) (result : Except Failure Measurement) :
    Trace.runsOf ClockSetter.dateCommandName
        (Task.perform host.world (config.proceed method result) state).2.scene.trace ≤
      Trace.runsOf ClockSetter.dateCommandName state.scene.trace + 1 := by
  have hraises := Program.run_raises (fun state : HostState => Trace.runsOf ClockSetter.dateCommandName state.scene.trace)
    _ (fun action state => host.runsOf_date_world state action) (config.proceed method result).run state
  have hsettings := length_settings_proceed host.world config method result state
  rw [settings, List.length_filterMap_eq_countP] at hsettings
  exact Nat.le_trans hraises (Nat.add_le_add_left hsettings _)

variable {script : String → Nat → CommandScript}

/-- Every action that is answered keeps the books about the commands. -/
theorem accounts_world {state : HostState} (action : Action) (h : state.scene.Accounts script)
    (hanswered : (host.world action state).1.isSome) : (host.world action state).2.scene.Accounts script := by
  cases action with
  | log level message => exact h.log level message
  | query server timeoutMs =>
    rw [world_query]
    have hledger := h.ledger
    have hplayed := h.of_grows (grows_played (nextScript noExchange state.exchanges).1 host.clock state.scene.time
      (Endpoint.ofText server (Number.ofInt Packet.port)) timeoutMs state.scene) (fun _ hkind => hkind.not_isRunOf)
      ⟨hledger.no_closing, hledger.untagged, hledger.pending_lt, hledger.endings_lt⟩ fun _ _ hcovers => hcovers
    exact hplayed.waitUntil _
  | sleep ms => exact h.waitUntil _
  | isPrivileged => exact h
  | setClock timeMs =>
    change (host.setClock state timeMs).1.isSome at hanswered
    show (host.setClock state timeMs).2.scene.Accounts script
    unfold Host.setClock at hanswered ⊢
    simp only [] at hanswered ⊢
    cases hcommand : (ClockSetter.ofPlatform host.platform).command timeMs with
    | error failure => exact h
    | ok arguments =>
      rw [hcommand] at hanswered
      simp only [Option.isSome_map] at hanswered
      exact h.runCommand hanswered

/-- The books are in order after a task that ends. -/
theorem accounts_perform {state : HostState} {α : Type} (task : Task α) (h : state.scene.Accounts script)
    (hends : (Task.perform host.world task state).1.isSome) :
    (Task.perform host.world task state).2.scene.Accounts script :=
  Program.run_keeps (fun state : HostState => state.scene.Accounts script)
    (fun action _ _ hstate hanswered => host.accounts_world action hstate hanswered)
    (Program.only_true task.run) h hends

/-- A host whose clock is ten seconds behind and whose server is found at the second attempt, with scripts for
the command that sets the clock. -/
def late (date : List CommandScript) : Host where
  clock := { start := 1749999990000, jumps := [] }
  exchanges := [
    { lookup := .ok { address := "192.0.2.1", family := 4 }, events := [], send := .reported 0 none },
    { lookup := .ok { address := "192.0.2.1", family := 4 }
      events := [(100, .datagram ([0x24, 1, 0, 0] ++ List.replicate 36 0 ++ [0xEB, 0xF9, 0x60, 0x00, 0, 0, 0, 0])
        "192.0.2.1" (Number.ofInt 123))]
      send := .reported 0 none }]
  scripts := [(ClockSetter.dateCommandName, date)]
  platform := "linux"
  euid := some 0
  isTerminal := false

end Host

end Sntp
