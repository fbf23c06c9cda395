import Sntp.Proofs.Host.Course
import Sntp.Proofs.Sync.Parts

/-!
# The order of a run

A run of the program on a host makes its attempts one after the other, has no two sockets open at one
time, starts the command that sets the clock once at most and after all attempts, and does not exit
before every command that it started has ended (`execute_ordered`).
-/

set_option autoImplicit false

namespace Sntp

/-- Whether an effect opens a socket. -/
def Effect.opensSocket : Effect → Bool
  | .openSocket _ => true
  | _ => false

/-- Whether an effect closes a socket. -/
def Effect.closesSocket : Effect → Bool
  | .closeSocket => true
  | _ => false

/-- The number of sockets that are open at the end of a trace. -/
def Trace.openSockets (trace : Trace) : Int :=
  (trace.countP fun entry => entry.2.opensSocket) - (trace.countP fun entry => entry.2.closesSocket)

namespace Trace

/-- The sockets that are open after two traces in a row are those that each of them leaves open. -/
theorem openSockets_append (first second : Trace) :
    openSockets (first ++ second) = openSockets first + openSockets second := by
  unfold openSockets
  rw [List.countP_append, List.countP_append]
  omega

/-- All sockets are opened and closed on the network. -/
theorem openSockets_network (trace : Trace) : openSockets (network trace) = openSockets trace := by
  have hopens : ∀ effect : Effect, (effect.opensSocket && effect.isNetwork) = effect.opensSocket := by
    intro effect
    cases effect <;> rfl
  have hcloses : ∀ effect : Effect, (effect.closesSocket && effect.isNetwork) = effect.closesSocket := by
    intro effect
    cases effect <;> rfl
  unfold openSockets network
  rw [List.countP_filter, List.countP_filter]
  simp only [hopens, hcloses]

/-- Whether at any point of a trace one socket is open at most, and none at its end. -/
structure OneSocket (trace : Trace) : Prop where
  nonneg : ∀ count, 0 ≤ openSockets (trace.take count)
  le_one : ∀ count, openSockets (trace.take count) ≤ 1
  closed : openSockets trace = 0

/-- Traces that keep to one socket keep to one in a row, since the first closes its own. -/
theorem OneSocket.append {first second : Trace} (h : OneSocket first) (h' : OneSocket second) :
    OneSocket (first ++ second) := by
  have htake : ∀ count, openSockets ((first ++ second).take count) =
      openSockets (first.take count) + openSockets (second.take (count - first.length)) := by
    intro count
    rw [List.take_append, openSockets_append]
  -- Either the second part has not begun, or the first one is over and has left no socket open.
  have hpart : ∀ count, openSockets ((first ++ second).take count) = openSockets (first.take count) ∨
      openSockets ((first ++ second).take count) = openSockets (second.take (count - first.length)) := by
    intro count
    rw [htake]
    rcases Nat.le_total count first.length with hle | hle
    · left
      rw [Nat.sub_eq_zero_of_le hle]
      exact Int.add_zero _
    · right
      rw [List.take_of_length_le hle, h.closed, Int.zero_add]
  constructor
  · intro count
    rcases hpart count with heq | heq
    · exact heq ▸ h.nonneg count
    · exact heq ▸ h'.nonneg _
  · intro count
    rcases hpart count with heq | heq
    · exact heq ▸ h.le_one count
    · exact heq ▸ h'.le_one _
  · rw [openSockets_append, h.closed, h'.closed]
    rfl

/-- The empty trace opens no socket. -/
theorem OneSocket.nil : OneSocket [] where
  nonneg _ := by simp [openSockets]
  le_one _ := by simp [openSockets]
  closed := rfl

/-- A trace keeps to one socket if its part that has to do with the network does. -/
theorem OneSocket.of_network {trace : Trace} (h : OneSocket (network trace)) : OneSocket trace := by
  have htake : ∀ count, ∃ count', openSockets (trace.take count) = openSockets ((network trace).take count') := by
    intro count
    refine ⟨(network (trace.take count)).length, ?_⟩
    have hsplit : network trace = network (trace.take count) ++ network (trace.drop count) := by
      rw [← network_append, List.take_append_drop]
    rw [hsplit, List.take_left, openSockets_network]
  constructor
  · intro count
    obtain ⟨count', heq⟩ := htake count
    exact heq ▸ h.nonneg count'
  · intro count
    obtain ⟨count', heq⟩ := htake count
    exact heq ▸ h.le_one count'
  · rw [← openSockets_network]
    exact h.closed

end Trace

/-- An attempt keeps to one socket. -/
theorem ExchangeScript.Shapes.oneSocket {script : ExchangeScript} {start : Int} {run : QueryRun}
    (h : script.Shapes start run) : Trace.OneSocket run.trace := by
  unfold ExchangeScript.Shapes at h
  cases hlookup : script.lookup with
  | error cause =>
    rw [hlookup] at h
    obtain ⟨host, htrace, -⟩ := h
    rw [htrace]
    constructor
    · intro count
      match count with
      | 0 | _ + 1 => simp [Trace.openSockets, Effect.opensSocket, Effect.closesSocket]
    · intro count
      match count with
      | 0 | _ + 1 => simp [Trace.openSockets, Effect.opensSocket, Effect.closesSocket]
    · rfl
  | ok resolved =>
    rw [hlookup] at h
    obtain ⟨host, port, htrace, -⟩ := h
    rw [htrace]
    constructor
    · intro count
      match count with
      | 0 | 1 | 2 | 3 | _ + 4 => simp [Trace.openSockets, Effect.opensSocket, Effect.closesSocket]
    · intro count
      match count with
      | 0 | 1 | 2 | 3 | _ + 4 => simp [Trace.openSockets, Effect.opensSocket, Effect.closesSocket]
    · rfl

namespace Host

/-- The script of a run of a command on a host. -/
def script (host : Host) (name : String) (number : Nat) : CommandScript :=
  scriptAfter .success ((host.scripts.lookup name).getD []) number

/-- How the trace of a run is made up: its attempts come first and use the network, one after the other;
commands come after them. -/
structure Ordered (host : Host) (config : Config) (attempts : List Attempt) (before after : Trace) : Prop where
  length_le : attempts.length ≤ config.retries.toNat
  first_eq : ∀ first ∈ attempts.head?, first = ⟨0, 0⟩
  chain : attempts.IsChain (host.Follows config)
  shapes : ∀ attempt ∈ attempts, (host.exchange attempt.number).Shapes attempt.start (host.attempted config attempt)
  network_before : Trace.network before = attempts.flatMap fun attempt => (host.attempted config attempt).trace
  no_command : ∀ name, Trace.runsOf name before = 0
  network_after : Trace.network after = []
  date_le_one : Trace.runsOf ClockSetter.dateCommandName after ≤ 1

variable (host : Host)

/-- Without a network effect nothing is added to the network's part of a trace. -/
theorem network_added {scene later : Scene} (h : scene.Grows (fun effect => effect.isNetwork = false) later) :
    ∃ added, later.trace = scene.trace ++ added ∧ Trace.network added = [] := by
  obtain ⟨added, htrace, hkind, -⟩ := h.added
  refine ⟨added, htrace, ?_⟩
  unfold Trace.network
  rw [List.filter_eq_nil_iff]
  intro entry hmem
  simp [hkind entry hmem]

/-- The acquisition makes the attempts and starts no command. -/
theorem acquire_ordered (config : Config) (verbose useSystemLog : Bool) :
    let opened := config.opened host.world (host.start verbose useSystemLog)
    let acquired := (Task.perform host.world config.acquire opened).2
    (host.start verbose useSystemLog).scene.Grows Effect.IsInquiry acquired.scene ∧
      ∃ attempts : List Attempt, attempts.length ≤ config.retries.toNat ∧
        (∀ first ∈ attempts.head?, first = ⟨0, 0⟩) ∧ attempts.IsChain (host.Follows config) ∧
        Trace.network acquired.scene.trace = attempts.flatMap fun attempt => (host.attempted config attempt).trace := by
  intro opened acquired
  have hawaits : host.Awaits (host.start verbose useSystemLog) ⟨0, 0⟩ :=
    ⟨rfl, fun number => congrArg host.exchange (Nat.zero_add number).symm⟩
  have hconsole := host.opened_scene (host.start verbose useSystemLog) config
  have hacquire : opened.scene.Grows Effect.IsInquiry acquired.scene :=
    host.grows_perform opened (fun action state hkind => host.grows_acquisition state hkind) (only_acquire config)
  obtain ⟨attempts, hlength, hfirst, hchain, hnetwork⟩ :=
    perform_attempts_network config none 1 config.retries.toNat ((hawaits.debugged _).debugged _)
  refine ⟨(hconsole.mono fun _ h => .inr h).trans hacquire, attempts, hlength, hfirst, hchain, ?_⟩
  have hopened : Trace.network opened.scene.trace = [] := network_of_grows hconsole
  have hacquired : Trace.network acquired.scene.trace = Trace.network opened.scene.trace ++
      attempts.flatMap fun attempt => (host.attempted config attempt).trace := hnetwork
  rw [hacquired, hopened, List.nil_append]

/-- What follows from the acquisition leaves the network alone and starts the command that sets the clock
once at most. -/
theorem proceed_ordered (config : Config) (method : String) (result : Except Failure Measurement) (state : HostState) :
    state.scene.Grows (fun effect => effect.isNetwork = false)
        (Task.perform host.world (config.proceed method result) state).2.scene ∧
      Trace.runsOf ClockSetter.dateCommandName
          (Task.perform host.world (config.proceed method result) state).2.scene.trace ≤
        Trace.runsOf ClockSetter.dateCommandName state.scene.trace + 1 :=
  ⟨host.grows_perform state (fun _ state hkind => host.grows_unquestioning state hkind)
      (only_proceed_unquestioning config method result),
    host.runsOf_date_proceed state config method result⟩

/-- Ending a run adds to the console only. -/
theorem grows_finish (state : HostState) (outcome : Except Failure Outcome) :
    state.scene.Grows Effect.IsConsole (finish state outcome).2 := by
  have hflush : state.scene.Grows Effect.IsConsole state.scene.flush.2 := state.scene.grows_flush fun _ => trivial
  unfold finish
  match hrun : state.scene.flush with
  | (none, scene) =>
    rw [hrun] at hflush
    exact hflush
  | (some (), scene) =>
    rw [hrun] at hflush
    cases outcome with
    | ok outcome => exact hflush
    | error failure => exact hflush.trans (scene.grows_writeLine _ _ fun _ => trivial)

/-- Every effect that comes after a synchronization's acquisition leaves the network alone, and no more than
one of them starts the command that sets the clock. -/
theorem synchronize_ordered (config : Config) :
    let start := host.start config.verbose config.useSystemLog
    let acquired := (Task.perform host.world config.acquire (config.opened host.world start)).2
    acquired.scene.Grows (fun effect => effect.isNetwork = false) (host.synchronize config).2.scene ∧
      Trace.runsOf ClockSetter.dateCommandName (host.synchronize config).2.scene.trace ≤
        Trace.runsOf ClockSetter.dateCommandName acquired.scene.trace + 1 := by
  intro start acquired
  have hsynchronize : host.synchronize config =
      Task.perform host.world (config.synchronize (ClockSetter.ofPlatform host.platform).method) start := rfl
  rw [hsynchronize, perform_synchronize host.attends_world]
  match hrun : Task.perform host.world config.acquire (config.opened host.world start) with
  | (none, after) =>
    obtain rfl : acquired = after := congrArg Prod.snd hrun
    exact ⟨.refl _ _, Nat.le_succ _⟩
  | (some result, after) =>
    obtain rfl : acquired = after := congrArg Prod.snd hrun
    exact host.proceed_ordered config _ result acquired

/-- What comes after the synchronization adds to the console only. -/
theorem grows_runConfig (config : Config) :
    (host.synchronize config).2.scene.Grows Effect.IsConsole (host.runConfig config).2 := by
  unfold runConfig
  match host.synchronize config with
  | (none, state) => exact .refl _ _
  | (some outcome, state) => exact grows_finish state outcome

/-- A run of the program is ordered: its attempts come first, and commands after them. -/
theorem runConfig_ordered (config : Config) :
    ∃ attempts before after, (host.runConfig config).2.trace = before ++ after ∧
      host.Ordered config attempts before after := by
  obtain ⟨hinquiry, attempts, hlength, hfirst, hchain, hnetwork⟩ :=
    host.acquire_ordered config config.verbose config.useSystemLog
  obtain ⟨hlater, hdate⟩ := host.synchronize_ordered config
  have hend := host.grows_runConfig config
  have hnone : ∀ name, Trace.runsOf name (Task.perform host.world config.acquire (config.opened host.world
      (host.start config.verbose config.useSystemLog))).2.scene.trace = 0 := fun name =>
    hinquiry.runsOf_eq fun effect h => h.not_isRunOf name
  obtain ⟨added, htrace, hquiet⟩ := network_added
    (hlater.trans (hend.mono fun effect h => Effect.IsLogging.isNetwork_eq (.inl h)))
  have hdates : Trace.runsOf ClockSetter.dateCommandName (host.runConfig config).2.trace ≤ 1 := by
    rw [hend.runsOf_eq fun effect h => h.not_isRunOf _]
    exact Nat.le_trans hdate (by rw [hnone])
  refine ⟨attempts, _, added, htrace, hlength, hfirst, hchain, fun attempt _ => host.attempted_shape config attempt,
    hnetwork, hnone, hquiet, ?_⟩
  rw [htrace, Trace.runsOf_append, hnone, Nat.zero_add] at hdates
  exact hdates

/-- A run that exits has waited for every command that it started. -/
theorem runConfig_ended (config : Config) {code : ExitCode} (hexit : (host.runConfig config).1 = some code)
    {launch : Launch} {start : Int} (hstarted : Scene.Started host.script (host.runConfig config).2.trace launch start) :
    launch.HasEnded ((host.runConfig config).2.time - start) := by
  have hopening : (host.start config.verbose config.useSystemLog).scene.Accounts host.script :=
    Scene.accounts_opening ..
  have hconsole := (host.grows_runConfig config).started (fun _ h => h.not_isRunOf) hstarted
  have haccounts : (host.synchronize config).1.isSome → (host.synchronize config).2.scene.Accounts host.script :=
    host.accounts_perform (config.synchronize (ClockSetter.ofPlatform host.platform).method) hopening
  unfold runConfig at hexit ⊢
  match hrun : host.synchronize config with
  | (none, state) => simp [hrun] at hexit
  | (some outcome, state) =>
    rw [hrun] at haccounts hconsole
    simp only [hrun] at hexit ⊢
    have hended := fun hflush => (haccounts rfl).flush hflush hconsole
    unfold finish at hexit ⊢
    match hflush : state.scene.flush with
    | (none, scene) => simp [hflush] at hexit
    | (some (), scene) =>
      rw [hflush] at hended
      cases outcome with
      | ok outcome => exact hended rfl
      | error failure => exact hended rfl

/-- Arguments that ask for a run are answered by it. -/
theorem execute_eq {env : Environment} {arguments : List String} {config : Config}
    (hconfig : Request.ofArguments env arguments = .ok (.run config)) :
    host.execute env arguments = host.runConfig config := by
  unfold execute
  rw [hconfig]

/-- A run whose attempts come one after the other keeps to one socket. -/
theorem Ordered.oneSocket {host : Host} {config : Config} {attempts : List Attempt} {before after : Trace}
    (h : host.Ordered config attempts before after) : Trace.OneSocket (before ++ after) := by
  have hattempts : ∀ attempts : List Attempt,
      Trace.OneSocket (attempts.flatMap fun attempt => (host.attempted config attempt).trace) := by
    intro attempts
    induction attempts with
    | nil => exact .nil
    | cons attempt rest ih =>
      rw [List.flatMap_cons]
      exact (host.attempted_shape config attempt).oneSocket.append ih
  refine .of_network ?_
  rw [Trace.network_append, h.network_after, List.append_nil, h.network_before]
  exact hattempts attempts

/-- A run of the program with a configuration makes its attempts one after the other, each beginning 200
milliseconds after the one before it ended with a failure that calls for another; an attempt looks up the server
and, if that succeeds, opens a socket, sends one request and closes it. One socket is open at most at any time. The
command that sets the clock is started once at most, and all commands are started after the attempts. If the run
exits, every command has ended by then. -/
theorem execute_ordered (env : Environment) (arguments : List String) (config : Config)
    (hconfig : Request.ofArguments env arguments = .ok (.run config)) :
    (∃ attempts before after, (host.execute env arguments).2.trace = before ++ after ∧
      host.Ordered config attempts before after) ∧
    Trace.OneSocket (host.execute env arguments).2.trace ∧
    ∀ code, (host.execute env arguments).1 = some code → ∀ earlier start name others later,
      (host.execute env arguments).2.trace = earlier ++ (start, .command name others) :: later →
        (host.script name (Trace.runsOf name earlier)).HasEnded ((host.execute env arguments).2.time - start) := by
  rw [host.execute_eq hconfig]
  obtain ⟨attempts, before, after, htrace, hordered⟩ := host.runConfig_ordered config
  refine ⟨⟨attempts, before, after, htrace, hordered⟩, htrace ▸ hordered.oneSocket, ?_⟩
  intro code hexit earlier start name others later hsplit
  rw [← CommandScript.launch_hasEnded_iff _ name]
  exact host.runConfig_ended config hexit ⟨earlier, name, others, later, hsplit, rfl⟩

/-- With a server that answers the second attempt only, such a run exits. -/
theorem execute_ordered_late :
    (∃ attempts before after,
      ((late [.success]).execute ⟨none, none, none, none⟩ []).2.trace = before ++ after ∧
        (late [.success]).Ordered ⟨"pool.ntp.org", 2000, 3, false, false, false⟩ attempts before after) ∧
      Trace.OneSocket ((late [.success]).execute ⟨none, none, none, none⟩ []).2.trace ∧
      ((late [.success]).execute ⟨none, none, none, none⟩ []).1 = some .success := by
  have hordered := execute_ordered (late [.success]) ⟨none, none, none, none⟩ []
    ⟨"pool.ntp.org", 2000, 3, false, false, false⟩ rfl
  exact ⟨hordered.1, hordered.2.1, by decide +kernel⟩

end Host

end Sntp
