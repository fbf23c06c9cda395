import Sntp.Proofs.Rehearsal.Range
import Sntp.Proofs.Sync.Logging

/-!
# Nothing but printable text is logged

The texts that a rehearsal gets from outside are the addresses that answer and the messages of failures, of queries and of
the clock setter. If these are printable (`HearsPlainly`), the bytes of the responses being what they may, then everything
that a synchronization writes to the console or to the system log is printable (`synchronize_printable`).

The command of the system log is outside too. If it is refused with a fault of the program's own, the run logs that fault
as one of its own, and then its message must be printable as well: else it is logged as it is (`synchronize_unprintable`).
-/

set_option autoImplicit false

namespace Sntp

open Number

/-- Whether the texts that an effect leaves in a log are printable: a line or a text on the console, or the message that
is handed to the system log's command as its last argument, after two hyphens. -/
def Effect.LogsPrintably : Effect → Prop
  | .line written => IsPrintable written
  | .text written => IsPrintable written
  | .command name arguments => name = "logger" →
      ∃ options message, arguments = options ++ ["--", message] ∧ IsPrintable message
  | _ => True

/-- A log line without color is printable if its message is. -/
theorem Logger.isPrintable_line {logger : Logger} (hcolor : logger.color = false) (now : Number) (level : Level)
    {message : String} (h : IsPrintable message) : IsPrintable (logger.line now level message) := by
  have htag : IsPrintable level.tag := by cases level <;> exact isPrintable_of_all rfl
  have hhead : IsPrintable (timeStamp now ++ " ") := .append (isPrintable_timeStamp now) (isPrintable_of_all rfl)
  unfold Logger.line
  rw [hcolor]
  exact .append (.append (.append hhead htag) (isPrintable_of_all rfl)) h

/-- A printable message is logged in printable text. -/
theorem Scene.grows_log_printable {scene : Scene} (hcolor : scene.logger.color = false) (level : Level) {message : String}
    (h : IsPrintable message) : scene.Grows Effect.LogsPrintably (scene.log level message).2 := by
  have hgrows : scene.Grows (fun _ => True) (scene.log level message).2 := scene.grows_log level message fun _ _ => trivial
  refine hgrows.of_added (scene.log_trace level message) fun entry hmem => ?_
  unfold logged at hmem
  rcases List.mem_append.mp hmem with hwritten | hhanded
  · unfold written at hwritten
    split at hwritten
    · obtain rfl := List.mem_singleton.mp hwritten
      exact Logger.isPrintable_line hcolor _ level h
    · cases hwritten
  · split at hhanded
    case h_1 tag htag =>
      split at hhanded
      · cases hhanded
      · obtain rfl := List.mem_singleton.mp hhanded
        exact fun _ => ⟨["-t", tag, "-p", "user." ++ level.priority], message, rfl, h⟩
    case h_2 => cases hhanded

/-- What holds of all scripts holds of the next one and of those that are left. -/
theorem nextScript_of_forall {α : Type} {otherwise : α} {scripts : List α} {property : α → Prop}
    (hother : property otherwise) (h : ∀ script ∈ scripts, property script) :
    property (nextScript otherwise scripts).1 ∧ ∀ script ∈ (nextScript otherwise scripts).2, property script := by
  match scripts with
  | [] => exact ⟨hother, h⟩
  | [last] => exact ⟨h last (by simp), h⟩
  | script :: next :: rest => exact ⟨h script (by simp), fun later hmem => h later (List.mem_cons_of_mem _ hmem)⟩

namespace Rehearsal

/-- Whether the texts that a rehearsal gets from outside are printable: the addresses that answer and the messages of
failures, of queries and of the clock setter. -/
structure HearsPlainly (r : Rehearsal) : Prop where
  replies : ∀ reply ∈ r.replies, Reply.IsPlain reply
  setter : ∀ (later : Rehearsal) (timeMs : Int) (failure : Failure), r.Keeps later →
    (later.setClock timeMs).1 = some (.error failure) → IsPrintable failure.message

/-- How a later rehearsal comes from one in which nothing but printable text is logged. -/
structure KeepsPrintable (r later : Rehearsal) : Prop where
  keeps : r.Keeps later
  logged : r.scene.Grows Effect.LogsPrintably later.scene
  replies : ∀ reply ∈ later.replies, Reply.IsPlain reply

variable {r later : Rehearsal}

/-- A rehearsal stays printable through an action that logs printable text and leaves plain answers. -/
theorem KeepsPrintable.of_step (h : r.KeepsPrintable later) {action : Action}
    (hlogged : later.scene.Grows Effect.LogsPrintably (world action later).2.scene)
    (hreplies : ∀ reply ∈ (world action later).2.replies, Reply.IsPlain reply) :
    r.KeepsPrintable (world action later).2 where
  keeps := h.keeps.trans _ _ _ (later.keeps_world action)
  logged := h.logged.trans hlogged
  replies := hreplies

/-- Noting an effect that logs printable text continues the scene. -/
theorem grows_record_printable (r : Rehearsal) (effect : Effect) (hkind : effect.LogsPrintably)
    (hcommand : ∀ name, ¬ effect.IsRunOf name) : r.scene.Grows Effect.LogsPrintably (r.record effect).scene :=
  r.scene.grows_record hkind hcommand

/-- The command that sets the clock is not the one that writes to the system log. -/
theorem grows_setClock_printable (r : Rehearsal) (ms : Number) :
    r.scene.Grows Effect.LogsPrintably (r.setClock ms).2.scene := by
  unfold setClock
  cases r.setter with
  | actor method behaviour => exact r.grows_record_printable (.setClock ms) trivial fun _ h => h
  | real setter =>
    simp only []
    cases setter.command ms with
    | error failure => exact .refl _ _
    | ok arguments =>
      have hother : ClockSetter.dateCommandName ≠ "logger" := by decide
      exact r.scene.grows_runCommand _ arguments fun hname => absurd hname hother

/-- Setting the clock uses up no answers. -/
theorem replies_setClock (r : Rehearsal) (ms : Number) : (r.setClock ms).2.replies = r.replies := by
  unfold setClock
  cases r.setter with
  | actor method behaviour => rfl
  | real setter =>
    simp only []
    cases setter.command ms with
    | error failure => rfl
    | ok arguments => rfl

/-- Each action that logs printably leaves it at printable text, and is answered with printable text. -/
theorem KeepsPrintable.world_step (hcolor : r.scene.logger.color = false) (hplain : r.HearsPlainly)
    (hlog : ∀ failure, r.scene.RefusesLog failure → failure.IsTellable) (h : r.KeepsPrintable later) {action : Action}
    (haction : action.LogsPrintably) :
    r.KeepsPrintable (world action later).2 ∧
      ∀ answer, (world action later).1 = some answer → action.IsAnsweredPlainly answer := by
  cases action with
  | log level message =>
    rw [← h.keeps.scene_grows.logger_eq] at hcolor
    constructor
    · exact h.of_step (Scene.grows_log_printable hcolor level haction) h.replies
    · intro answer hanswer
      have hresult : (later.scene.log level message).1 = answer := Option.some.inj hanswer
      cases answer with
      | ok done => trivial
      | error failure =>
        apply hlog failure
        exact refusesLog_of_log h.keeps hresult
  | query server timeoutMs =>
    have hnone : Reply.IsPlain noReply := isPrintable_of_all rfl
    obtain ⟨hnext, hrest⟩ := nextScript_of_forall hnone h.replies
    constructor
    · exact h.of_step (later.grows_record_printable (.query server timeoutMs) trivial fun _ hrun => hrun) hrest
    · intro answer hanswer
      obtain rfl := Option.some.inj hanswer
      exact hnext
  | sleep ms =>
    have hgrows := later.grows_record_printable (.sleep ms) trivial fun _ hrun => hrun
    exact ⟨h.of_step hgrows h.replies, fun _ _ => trivial⟩
  | isPrivileged =>
    have hgrows := later.grows_record_printable .askPrivilege trivial fun _ hrun => hrun
    exact ⟨h.of_step hgrows h.replies, fun _ _ => trivial⟩
  | setClock timeMs =>
    have hreplies : ∀ reply ∈ (later.setClock timeMs).2.replies, Reply.IsPlain reply := by
      rw [later.replies_setClock timeMs]
      exact h.replies
    constructor
    · exact h.of_step (later.grows_setClock_printable timeMs) hreplies
    · intro answer hanswer
      cases answer with
      | ok done => trivial
      | error failure => exact hplain.setter later timeMs failure h.keeps hanswer

/-- Whatever the bytes of the responses are, a synchronization writes nothing but printable text to the console and to the
system log, if its server and the method of the clock setter have printable names, the log is without color, the rehearsal
hears printable texts, and a command of the system log that is refused with a fault is so with a printable one. -/
theorem synchronize_printable (config : Config) (hserver : IsPrintable config.server) {method : String}
    (hmethod : IsPrintable method) (hcolor : r.scene.logger.color = false) (hplain : r.HearsPlainly)
    (hlog : ∀ failure, r.scene.RefusesLog failure → failure.IsTellable) :
    ∃ added, (Task.perform world (config.synchronize method) r).2.scene.trace = r.scene.trace ++ added ∧
      ∀ entry ∈ added, entry.2.LogsPrintably := by
  have hopening : r.KeepsPrintable r := ⟨.refl r, .refl _ _, hplain.replies⟩
  have hstep : ∀ action later, action.LogsPrintably → r.KeepsPrintable later →
      r.KeepsPrintable (world action later).2 ∧
        ∀ answer, (world action later).1 = some answer → action.IsAnsweredPlainly answer := by
    intro action later haction hkeeps
    exact hkeeps.world_step hcolor hplain hlog haction
  obtain ⟨hkeeps, -⟩ := (logsPrintably_synchronize hserver hmethod).run_keeps r.KeepsPrintable hstep hopening
  obtain ⟨added, htrace, hadded, -⟩ := hkeeps.logged.added
  exact ⟨added, htrace, hadded⟩

/-- A stand-in for a clock setter fails with nothing but the failure that it was given. -/
theorem setClock_standIn (hkeeps : r.Keeps later) {method : String} {given : Option Failure}
    (hsetter : r.setter = .standIn method given) {ms : Number} {failure : Failure}
    (h : (later.setClock ms).1 = some (.error failure)) : given = some failure := by
  unfold setClock at h
  rw [hkeeps.setter_eq, hsetter] at h
  cases given with
  | none => cases h
  | some own =>
    obtain rfl := Except.error.inj (Option.some.inj h)
    rfl

/-- A rehearsal in which a kiss of death comes first, whose code has a line break and the start of an escape sequence, and
in which later the clock setter fails, and then the command of the system log. -/
def forged : Rehearsal where
  scene := Scene.opening { verbose := true, color := false } (.fixed 0) (some "timesync")
    [(systemLogCommand, [.success, .refused (.fault (.overflow "+" (ofInt 1) (ofInt 2)))])]
  privileged := true
  setter := .standIn "date" (some (.system .ordinary "date: cannot set date"))
  replies :=
    [ .ok { lateExchange with
        response := [0x24, 0, 0, 0] ++ List.replicate 8 0 ++ [0x0A, 0x1B, 0x5B, 0x41] ++ List.replicate 32 0 },
      .ok lateExchange ]

/-- All that it hears of addresses and of the clock setter is printable. -/
theorem hearsPlainly_forged : forged.HearsPlainly where
  replies := by
    have haddress : IsPrintable lateExchange.address := isPrintable_of_all rfl
    intro reply hmem
    simp only [forged, List.mem_cons, List.not_mem_nil, or_false] at hmem
    rcases hmem with rfl | rfl
    · exact haddress
    · exact haddress
  setter later timeMs failure hkeeps h := by
    obtain rfl := Option.some.inj (setClock_standIn hkeeps rfl h)
    exact isPrintable_of_all rfl

/-- What its system log refuses with can be told printably. -/
theorem isTellable_forged {failure : Failure} (h : forged.scene.RefusesLog failure) : failure.IsTellable := by
  obtain ⟨-, number, hscript⟩ := h
  match number with
  | 0 => cases hscript
  | 1 =>
    obtain rfl := CommandScript.refused.inj hscript
    exact isTellable_overflow (isPrintable_of_all rfl) _ _
  | _ + 2 =>
    obtain rfl := CommandScript.refused.inj hscript
    exact isTellable_overflow (isPrintable_of_all rfl) _ _

/-- There everything that is logged is printable, and so is what is told of the code. -/
theorem synchronize_printable_forged :
    forged.HearsPlainly ∧ (∃ failure, forged.scene.RefusesLog failure) ∧
      (∀ failure, forged.scene.RefusesLog failure → failure.IsTellable) ∧
      ∃ added, (Task.perform world ({ threeAttempts with useSystemLog := true }.synchronize "date") forged).2.scene.trace =
          forged.scene.trace ++ added ∧
        (0, .line ("1970-01-01 00:00:00 DEBUG Attempt (1) failed: " ++
          "Invalid stratum in NTP response (kiss of death: [A)")) ∈ added ∧
        ∀ entry ∈ added, entry.2.LogsPrintably := by
  have hserver : IsPrintable threeAttempts.server := isPrintable_of_all rfl
  have hmethod : IsPrintable "date" := isPrintable_of_all rfl
  have htellable : ∀ failure, forged.scene.RefusesLog failure → failure.IsTellable := fun _ => isTellable_forged
  have hrefused : forged.scene.RefusesLog (.fault (.overflow "+" (ofInt 1) (ofInt 2))) := ⟨by decide, 1, rfl⟩
  have hmem : (0, .line ("1970-01-01 00:00:00 DEBUG Attempt (1) failed: " ++
      "Invalid stratum in NTP response (kiss of death: [A)")) ∈
      (Task.perform world ({ threeAttempts with useSystemLog := true }.synchronize "date") forged).2.scene.trace := by
    decide +kernel
  obtain ⟨added, htrace, hadded⟩ := synchronize_printable { threeAttempts with useSystemLog := true } hserver hmethod rfl
    hearsPlainly_forged htellable
  have hopening : forged.scene.trace = [] := rfl
  rw [htrace, hopening, List.nil_append] at hmem
  exact ⟨hearsPlainly_forged, ⟨_, hrefused⟩, htellable, added, htrace, hmem, hadded⟩

/-- A rehearsal in which the first command of the system log is refused with a fault whose message has a line break. -/
def brokenLine : Rehearsal where
  scene := Scene.opening { verbose := false, color := false } (.fixed 0) (some "timesync")
    [(systemLogCommand, [.refused (.fault (.usage "first\nsecond")), .success])]
  privileged := true
  setter := .standIn "date" none
  replies := [.ok lateExchange]

/-- There it is logged with its line break, though all texts are printable that come with replies and from the clock
setter. -/
theorem synchronize_unprintable :
    IsPrintable threeAttempts.server ∧ IsPrintable brokenLine.setter.method ∧ brokenLine.scene.logger.color = false ∧
      brokenLine.HearsPlainly ∧
      ∃ entry ∈ (Task.perform world ({ threeAttempts with useSystemLog := true }.synchronize brokenLine.setter.method)
        brokenLine).2.scene.trace, ¬ entry.2.LogsPrintably := by
  have hplain : brokenLine.HearsPlainly := by
    refine ⟨fun reply hmem => ?_, fun later timeMs failure hkeeps h => ?_⟩
    · obtain rfl := List.mem_singleton.mp hmem
      exact isPrintable_of_all rfl
    · have hsetter : brokenLine.setter = .standIn "date" none := rfl
      cases setClock_standIn hkeeps hsetter h
  have hmem : (0, .line "1970-01-01 00:00:00 ERROR first\nsecond") ∈
      (Task.perform world ({ threeAttempts with useSystemLog := true }.synchronize brokenLine.setter.method)
        brokenLine).2.scene.trace := by decide +kernel
  refine ⟨isPrintable_of_all rfl, isPrintable_of_all rfl, rfl, hplain, _, hmem, fun h => ?_⟩
  have hbreak : 0x20 ≤ ('\n').toNat ∧ ('\n').toNat ≤ 0x7E := isPrintable_ofList.mp h '\n' (by decide)
  exact absurd hbreak.1 (by decide)

end Rehearsal

end Sntp
