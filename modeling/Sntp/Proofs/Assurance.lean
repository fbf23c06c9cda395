import Sntp.Proofs.Run

/-!
# What a run can be relied on for

A program answers for what it does as long as the answers that it gets are what it may rely on: then its actions are of
one kind, and the value that it comes to fits (`Program.Assures`). Unlike the kinds of `Program.Only`, what is known of an
answer is known to all that follows, which is how the wording of a message comes to depend on what was read before it.

The assurance of a task is put together from those of its parts (`Task.Assures.bind`), and it holds in every world that
answers reliably (`Program.Assures.run_keeps`).
-/

set_option autoImplicit false

namespace Sntp

variable {α β σ : Type} {rely : (action : Action) → action.Answer → Prop} {kind : Action → Prop}

namespace Program

/-- Whether a program performs actions of one kind only and comes to a value that fits, as long as what it is answered
can be relied on. -/
def Assures (rely : (action : Action) → action.Answer → Prop) (kind : Action → Prop) (fits : α → Prop) :
    Program α → Prop
  | .done value => fits value
  | .perform action next => kind action ∧ ∀ answer, rely action answer → (next answer).Assures rely kind fits

/-- Two programs in a row come to what the second one assures, for every value that fits after the first. -/
theorem Assures.bind {fits : α → Prop} {last : β → Prop} {program : Program α} {next : α → Program β}
    (hprogram : program.Assures rely kind fits) (hnext : ∀ value, fits value → (next value).Assures rely kind last) :
    (program >>= next).Assures rely kind last := by
  induction program with
  | done value => exact hnext value hprogram
  | perform action rest ih =>
    obtain ⟨hkind, hrest⟩ := hprogram
    exact ⟨hkind, fun answer hanswer => ih answer (hrest answer hanswer)⟩

/-- An action is answered with what can be relied on. -/
theorem assures_ofAction {action : Action} (h : kind action) : (ofAction action).Assures rely kind (rely action) :=
  ⟨h, fun _ hanswer => hanswer⟩

/-- What actions of a kind keep, answering reliably, a run keeps, and its value fits. -/
theorem Assures.run_keeps (Inv : σ → Prop) {world : World σ}
    (hworld : ∀ action state, kind action → Inv state →
      Inv (world action state).2 ∧ ∀ answer, (world action state).1 = some answer → rely action answer)
    {fits : α → Prop} {program : Program α} (hprogram : program.Assures rely kind fits) {state : σ} (hstate : Inv state) :
    Inv (program.run world state).2 ∧ ∀ value, (program.run world state).1 = some value → fits value := by
  induction program generalizing state with
  | done value =>
    refine ⟨hstate, fun _ h => ?_⟩
    obtain rfl := Option.some.inj h
    exact hprogram
  | perform action rest ih =>
    obtain ⟨hkind, hrest⟩ := hprogram
    obtain ⟨hafter, hanswer⟩ := hworld action state hkind hstate
    simp only [run]
    cases hrun : world action state with
    | mk answer? after =>
      rw [hrun] at hafter hanswer
      cases answer? with
      | none => exact ⟨hafter, by simp⟩
      | some answer => exact ih answer (hrest answer (hanswer answer rfl)) hafter

end Program

namespace Task

/-- Whether a result is what is expected of it: a value that fits, or a failure that may be. -/
def Meets (fits : α → Prop) (fails : Failure → Prop) : Except Failure α → Prop
  | .ok value => fits value
  | .error failure => fails failure

/-- A result is still what is expected when its value is told in other words that fit. -/
theorem Meets.map {fits : α → Prop} {last : β → Prop} {fails : Failure → Prop} {result : Except Failure α}
    (h : Meets fits fails result) {told : α → β} (htold : ∀ value, fits value → last (told value)) :
    Meets last fails (result.map told) := by
  cases result with
  | ok value => exact htold value h
  | error failure => exact h

/-- Whether a task performs actions of one kind only and comes to a value that fits, or to a failure that may be, as long as
what it is answered can be relied on. -/
def Assures (rely : (action : Action) → action.Answer → Prop) (kind : Action → Prop) (fits : α → Prop)
    (fails : Failure → Prop) (task : Task α) : Prop :=
  task.run.Assures rely kind (Meets fits fails)

variable {fits : α → Prop} {fails : Failure → Prop}

/-- A value that fits is assured by returning it. -/
theorem assures_pure {value : α} (h : fits value) : Assures rely kind fits fails (pure value : Task α) := h

/-- A failure that may be is assured by failing with it. -/
theorem assures_throw {failure : Failure} (h : fails failure) :
    Assures rely kind fits fails (throw failure : Task α) := h

/-- A result that is what is expected is assured by passing it on. -/
theorem assures_ofExcept {result : Except Failure α} (h : Meets fits fails result) :
    Assures rely kind fits fails (ofExcept result) := by
  cases result with
  | ok value => exact h
  | error failure => exact h

/-- A task in two parts does what its parts do, the second one for the values that the first one comes to. -/
theorem Assures.bind {last : β → Prop} {task : Task α} {next : α → Task β} (htask : Assures rely kind fits fails task)
    (hnext : ∀ value, fits value → Assures rely kind last fails (next value)) :
    Assures rely kind last fails (task >>= next) := by
  unfold Assures
  rw [ExceptT.run_bind]
  refine Program.Assures.bind htask fun result hresult => ?_
  cases result with
  | ok value => exact hnext value hresult
  | error failure => exact hresult

/-- A program that cannot fail is a task that does not. -/
theorem assures_lift {program : Program α} (h : program.Assures rely kind fits) :
    Assures rely kind fits fails (ExceptT.lift program) := by
  unfold Assures
  rw [ExceptT.run_lift, map_eq_pure_bind]
  exact h.bind fun value hvalue => hvalue

/-- Logging assures no more than that it fails as the log may fail. -/
theorem assures_log {level : Level} {message : String} (hkind : kind (.log level message))
    (hanswer : ∀ answer, rely (.log level message) answer → Meets (fun _ => True) fails answer) :
    Assures rely kind (fun _ => True) fails (log level message) := ⟨hkind, hanswer⟩

/-- A query assures what its answer can be relied on for. -/
theorem assures_query {server : String} {timeoutMs : Int} {fits : Exchange → Prop} (hkind : kind (.query server timeoutMs))
    (hanswer : ∀ answer, rely (.query server timeoutMs) answer → Meets fits fails answer) :
    Assures rely kind fits fails (query server timeoutMs) := ⟨hkind, hanswer⟩

/-- A sleep assures what its answer can be relied on for. -/
theorem assures_sleep {ms : Nat} (h : kind (.sleep ms)) : Assures rely kind (rely (.sleep ms)) fails (sleep ms) :=
  assures_lift (Program.assures_ofAction h)

/-- The question for privilege assures what its answer can be relied on for. -/
theorem assures_isPrivileged (h : kind .isPrivileged) : Assures rely kind (rely .isPrivileged) fails isPrivileged :=
  assures_lift (Program.assures_ofAction h)

/-- An attempt to set the clock assures what its answer can be relied on for, and never fails itself. -/
theorem assures_trySetClock {timeMs : Int} (h : kind (.setClock timeMs)) :
    Assures rely kind (rely (.setClock timeMs)) fails (trySetClock timeMs) :=
  assures_lift (Program.assures_ofAction h)

/-- What a task comes to, its failures included, is at hand after an attempt at it. -/
theorem Assures.attempt {last : Failure → Prop} {task : Task α} (h : Assures rely kind fits fails task) :
    Assures rely kind (Meets fits fails) last (attempt task) := assures_lift h

end Task

end Sntp
