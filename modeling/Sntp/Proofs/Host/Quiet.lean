import Sntp.Proofs.Host.Discipline
import Sntp.Proofs.Options.Letters

/-!
# Runs that start no command

Two commands can be started in a run: the one that sets the clock and the one that writes to the system log.
In test mode neither is. The decision leaves the clock alone, so that the synchronization performs no action
that could touch it, and the arguments have turned the system log off, so that the actions that are left work on
the network and the console only (`grows_leavesClock`, `runConfig_quiet`). Help and errors in the usage do not
even come to a synchronization and write to the console only.
-/

set_option autoImplicit false

namespace Sntp

/-- What has to do with the network or the console is no start of a command. -/
theorem Effect.IsInquiry.ne_command {effect : Effect} (h : effect.IsInquiry) (name : String) (arguments : List String) :
    effect ≠ .command name arguments := by
  rintro rfl
  exact h.not_isRunOf name rfl

namespace Host

variable (host : Host)

/-- Without a system log, an action that leaves the clock alone works on the network and the console. -/
theorem grows_leavesClock {action : Action} (h : action.LeavesClock) {state : HostState}
    (hlog : state.scene.systemLogTag = none) :
    state.scene.Grows Effect.IsInquiry (host.world action state).2.scene := by
  cases action with
  | log level message => exact state.scene.grows_log_local message (.inl hlog) fun _ => .inr trivial
  | query server timeoutMs => exact host.grows_query state server timeoutMs
  | sleep ms => exact state.scene.grows_waitUntil _
  | isPrivileged => exact h.elim
  | setClock timeMs => exact h.elim

/-- In test mode, with no system log, a run works on the network and the console. -/
theorem runConfig_quiet {config : Config} (hmode : config.testOnly = true) (hlog : config.useSystemLog = false) :
    (host.start config.verbose config.useSystemLog).scene.Grows Effect.IsInquiry (host.runConfig config).2 := by
  have htag : (host.start config.verbose config.useSystemLog).scene.systemLogTag = none := by
    rw [hlog]
    rfl
  have honly := only_synchronize_testOnly config (ClockSetter.ofPlatform host.platform).method hmode
  have hrun : (host.start config.verbose config.useSystemLog).scene.Grows Effect.IsInquiry
      (host.synchronize config).2.scene :=
    host.grows_perform_of_tag _ (fun _ _ hkind hnone => host.grows_leavesClock hkind hnone) honly htag
  exact hrun.trans ((host.grows_runConfig config).mono fun _ h => .inr h)

/-- When arguments are accepted and one of them is a cluster with an `n` in it, wherever it stands among them, a run
starts no command, whatever the environment says about the system log. A run that is to give help, or whose arguments
are not accepted, writes to the console only and exits, with code 0 or code 1. A cluster with an `n` may also be
meant as the value of a setting, but arguments are not accepted then. -/
theorem execute_quiet (env : Environment) (arguments : List String) :
    (∀ config, Request.ofArguments env arguments = .ok (.run config) →
      (∃ argument ∈ arguments, HoldsLetter 'n' argument) →
      ∀ entry ∈ (host.execute env arguments).2.trace, ∀ name others, entry.2 ≠ .command name others) ∧
    (Request.ofArguments env arguments = .ok .help →
      (host.execute env arguments).1.map ExitCode.toNat = some 0 ∧
        ∀ entry ∈ (host.execute env arguments).2.trace, entry.2.IsConsole) ∧
    ∀ fault, Request.ofArguments env arguments = .error fault →
      (∃ text, fault = .usage text) ∧ (host.execute env arguments).1.map ExitCode.toNat = some 1 ∧
        ∀ entry ∈ (host.execute env arguments).2.trace, entry.2.IsConsole := by
  refine ⟨fun config hconfig hletter => ?_, fun hhelp => ?_, fun fault hfault => ?_⟩
  · have hmode : config.testOnly = true := (testOnly_iff_holdsLetter hconfig).mpr hletter
    have hlog : config.useSystemLog = false := useSystemLog_of_interpret hconfig hmode
    obtain ⟨added, htrace, hkind, -⟩ := (host.runConfig_quiet hmode hlog).added
    rw [host.execute_eq hconfig, htrace]
    intro entry hmem name others
    exact (hkind entry hmem).ne_command name others
  · unfold execute
    rw [hhelp]
    refine ⟨rfl, fun entry hmem => ?_⟩
    obtain rfl := List.mem_singleton.mp hmem
    trivial
  · obtain ⟨text, rfl⟩ := exists_usage_of_interpret hfault
    unfold execute
    rw [hfault]
    refine ⟨⟨text, rfl⟩, rfl, fun entry hmem => ?_⟩
    rcases List.mem_cons.mp hmem with rfl | hmem
    · trivial
    · obtain rfl := List.mem_singleton.mp hmem
      trivial

/-- A host on which the clock would be set starts no command when its arguments end in an `n`, although both they
and the environment ask for the system log; nor does it for help, or for an unknown letter. -/
theorem execute_quiet_late :
    (∀ entry ∈ ((late [.success]).execute ⟨none, none, none, some "yes"⟩ ["-s", "ntp.example", "-vsn"]).2.trace,
      ∀ name others, entry.2 ≠ .command name others) ∧
    ((late [.success]).execute ⟨none, none, none, none⟩ ["-vh"]).1.map ExitCode.toNat = some 0 ∧
    ((late [.success]).execute ⟨none, none, none, none⟩ ["-nx"]).1.map ExitCode.toNat = some 1 := by
  obtain ⟨htest, -, -⟩ := execute_quiet (late [.success]) ⟨none, none, none, some "yes"⟩ ["-s", "ntp.example", "-vsn"]
  obtain ⟨-, hhelp, -⟩ := execute_quiet (late [.success]) ⟨none, none, none, none⟩ ["-vh"]
  obtain ⟨-, -, hfault⟩ := execute_quiet (late [.success]) ⟨none, none, none, none⟩ ["-nx"]
  refine ⟨htest ⟨"ntp.example", 2000, 3, true, true, false⟩ (by decide +kernel) ?_, (hhelp (by decide +kernel)).1,
    (hfault (.usage "Unrecognized option \"-x\"") (by decide +kernel)).2.1⟩
  exact ⟨"-vsn", by decide, ['v', 's', 'n'], by decide, by decide, by decide⟩

end Host

end Sntp
