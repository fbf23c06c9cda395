import Sntp.Proofs.Host.Discipline
import Sntp.Proofs.Scene.Closing

/-!
# When a run exits

A run of the program exits exactly if every command that it starts ends (`runConfig_exits_iff`). One
direction is that it waits for all of them. The other is that nothing else can keep it: every action
is answered but for a command in the foreground that never ends (`answers_of_allEnd`), and what is
pending in the system log at the end has its end on the agenda (`settles_world`).
-/

set_option autoImplicit false

namespace Sntp

/-- Whether a scene's books are in order, and the agenda holds the ends of the pending writes if all
commands end. -/
structure Scene.Settles (script : String → Nat → CommandScript) (scene : Scene) : Prop where
  accounts : scene.Accounts script
  due : AllEnd script scene.trace → scene.Due

namespace Host

variable (host : Host) {script : String → Nat → CommandScript} {state : HostState}

/-- An answer of a host continues its scene. -/
theorem grows_world (action : Action) (state : HostState) :
    state.scene.Grows (fun _ => True) (host.world action state).2.scene := by
  cases action with
  | log level message => exact state.scene.grows_log level message fun _ _ => trivial
  | query server timeoutMs => exact (host.grows_query state server timeoutMs).mono fun _ _ => trivial
  | sleep ms => exact state.scene.grows_waitUntil _
  | isPrivileged => exact .refl _ _
  | setClock timeMs => exact (host.grows_setClock state timeMs).mono fun _ _ => trivial

/-- Every action that is answered leaves a scene that settles. -/
theorem settles_world (action : Action) (h : state.scene.Settles script)
    (hanswered : (host.world action state).1.isSome) : (host.world action state).2.scene.Settles script := by
  refine ⟨host.accounts_world action h.accounts hanswered, fun hall => ?_⟩
  have hdue := h.due ((host.grows_world action state).allEnd hall)
  cases action with
  | log level message => exact h.accounts.due_log hdue level message hall
  | query server timeoutMs =>
    rw [world_query]
    have hplayed : ({ state.scene with trace := state.scene.trace ++ ((nextScript noExchange state.exchanges).1.play
        host.clock state.scene.time (Endpoint.ofText server (Number.ofInt Packet.port)) timeoutMs).trace }).Due := hdue
    exact hplayed.waitUntil _
  | sleep ms => exact hdue.waitUntil _
  | isPrivileged => exact hdue
  | setClock timeMs =>
    show (host.setClock state timeMs).2.scene.Due
    unfold Host.setClock
    simp only []
    cases (ClockSetter.ofPlatform host.platform).command timeMs with
    | error failure => exact hdue
    | ok arguments => exact hdue.runCommand _ arguments

/-- A host answers every action if all commands that it starts end. -/
theorem answers_of_allEnd (action : Action) (h : state.scene.Accounts script)
    (hall : Scene.AllEnd script (host.world action state).2.scene.trace) : (host.world action state).1.isSome := by
  cases action with
  | log level message => rfl
  | query server timeoutMs => rfl
  | sleep ms => rfl
  | isPrivileged => rfl
  | setClock timeMs =>
    show (host.setClock state timeMs).1.isSome
    change Scene.AllEnd script (host.setClock state timeMs).2.scene.trace at hall
    unfold Host.setClock at hall ⊢
    simp only [] at hall ⊢
    cases hcommand : (ClockSetter.ofPlatform host.platform).command timeMs with
    | error failure => rfl
    | ok arguments =>
      simp only [hcommand] at hall
      simpa using h.runCommand_isSome hall

/-- The synchronization ends if all commands end. -/
theorem synchronize_isSome (config : Config)
    (hall : Scene.AllEnd host.script (host.synchronize config).2.scene.trace) : (host.synchronize config).1.isSome := by
  have hopening : (host.start config.verbose config.useSystemLog).scene.Accounts host.script :=
    Scene.accounts_opening ..
  rw [Option.isSome_iff_ne_none]
  intro hstalls
  have hstuck := Program.run_stalls (fun state : HostState => state.scene.Accounts host.script)
    (fun state : HostState => ¬ Scene.AllEnd host.script state.scene.trace)
    (fun action state hstate hanswered => host.accounts_world action hstate hanswered)
    (fun action state hstate hnone hends => by
      have hanswered := host.answers_of_allEnd action hstate hends
      rw [hnone] at hanswered
      cases hanswered)
    (config.synchronize (ClockSetter.ofPlatform host.platform).method).run hopening hstalls
  exact hstuck hall

/-- A run ends with an exit code if all commands end. -/
theorem runConfig_isSome (config : Config) (hall : Scene.AllEnd host.script (host.runConfig config).2.trace) :
    (host.runConfig config).1.isSome := by
  have hsynchronized := (host.grows_runConfig config).allEnd hall
  have hends := host.synchronize_isSome config hsynchronized
  have hopening : (host.start config.verbose config.useSystemLog).scene.Settles host.script :=
    ⟨Scene.accounts_opening .., fun _ => .refl []⟩
  have hsettles : (host.synchronize config).2.scene.Settles host.script :=
    Program.run_keeps (fun state : HostState => state.scene.Settles host.script)
      (fun action _ _ hstate hanswered => host.settles_world action hstate hanswered)
      (Program.only_true _) hopening hends
  have hflush := (hsettles.due hsynchronized).flush hsettles.accounts.ledger.no_closing
  unfold runConfig
  match hrun : host.synchronize config with
  | (none, state) => simp [hrun] at hends
  | (some outcome, state) =>
    rw [hrun] at hflush
    simp only []
    unfold finish
    match hclose : state.scene.flush with
    | (none, scene) => simp [hclose] at hflush
    | (some (), scene) => cases outcome <;> rfl

/-- A run exits exactly if every command that it starts ends. -/
theorem runConfig_exits_iff (config : Config) :
    (host.runConfig config).1.isSome ↔ Scene.AllEnd host.script (host.runConfig config).2.trace := by
  constructor
  · intro hexit launch start hstarted
    obtain ⟨code, hcode⟩ := Option.isSome_iff_exists.mp hexit
    exact ⟨_, host.runConfig_ended config hcode hstarted⟩
  · exact host.runConfig_isSome config

end Host

end Sntp
