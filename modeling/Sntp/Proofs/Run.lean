import Sntp.Program

/-!
# Runs

A run is followed in two ways: by the result and the state of the world that it leaves
(`Task.perform`), and by the actions that it performs, in order (`Task.actions`). Both split over
the parts of a task (`perform_bind`, `actions_bind`).

Two facts about all runs of a program need no more than the kinds of action that it can perform
(`Program.Only`). A run relates the states before and after it as these actions do (`run_relates`,
`run_keeps`), and two worlds that answer these actions alike see the same run (`run_alike`), in the
same course (`history_alike`).
-/

set_option autoImplicit false

namespace Sntp

variable {α β σ τ : Type}

namespace Program

/-- The actions that a program performs in a world, in order. One that is never answered is the
last. -/
def actions (world : World σ) : Program α → σ → List Action
  | .done _, _ => []
  | .perform action next, state =>
    match world action state with
    | (none, _) => [action]
    | (some answer, after) => action :: (next answer).actions world after

/-- The actions that a program performs in a world, in order, each with what is observed of the state in which it
is performed. -/
def history {γ : Type} (observe : σ → γ) (world : World σ) : Program α → σ → List (γ × Action)
  | .done _, _ => []
  | .perform action next, state =>
    (observe state, action) ::
      match world action state with
      | (none, _) => []
      | (some answer, after) => (next answer).history observe world after

/-- Whether a program performs actions of one kind only, whatever they are answered. -/
def Only (kind : Action → Prop) : Program α → Prop
  | .done _ => True
  | .perform action next => kind action ∧ ∀ answer, (next answer).Only kind

/-- The actions of two programs in a row are those of the first, and then those of the second if it
comes to that. -/
theorem actions_bind (world : World σ) (program : Program α) (next : α → Program β) (state : σ) :
    (program >>= next).actions world state =
      program.actions world state ++
        match program.run world state with
        | (none, _) => []
        | (some value, after) => (next value).actions world after := by
  induction program generalizing state with
  | done value => rfl
  | perform action rest ih =>
    simp only [perform_bind, actions, run]
    cases world action state with
    | mk answer? after =>
      cases answer? with
      | none => rfl
      | some answer =>
        simp only [List.cons_append]
        rw [ih answer after]

/-- What is observed of the states aside, a history is the actions. -/
theorem map_snd_history {γ : Type} (observe : σ → γ) (world : World σ) (program : Program α) (state : σ) :
    (program.history observe world state).map (·.2) = program.actions world state := by
  induction program generalizing state with
  | done value => rfl
  | perform action next ih =>
    simp only [history, actions, List.map_cons]
    match world action state with
    | (none, after) => rfl
    | (some answer, after) => exact congrArg (List.cons action) (ih answer after)

/-- Two programs in a row keep to one kind of actions if each of them does. -/
theorem Only.bind {kind : Action → Prop} {program : Program α} {next : α → Program β}
    (hprogram : program.Only kind) (hnext : ∀ value, (next value).Only kind) :
    (program >>= next).Only kind := by
  induction program with
  | done value => exact hnext value
  | perform action rest ih => exact ⟨hprogram.1, fun answer => ih answer (hprogram.2 answer)⟩

/-- Actions of one kind are also of a wider one. -/
theorem Only.mono {kind wider : Action → Prop} (hkind : ∀ action, kind action → wider action)
    {program : Program α} (hprogram : program.Only kind) : program.Only wider := by
  induction program with
  | done value => trivial
  | perform action rest ih =>
    exact ⟨hkind action hprogram.1, fun answer => ih answer (hprogram.2 answer)⟩

/-- Every program keeps to actions of any kind. -/
theorem only_true (program : Program α) : program.Only fun _ => True := by
  induction program with
  | done value => trivial
  | perform action rest ih => exact ⟨trivial, ih⟩

/-- Every action of a run is of the kind that its program keeps to. -/
theorem Only.of_mem_actions {kind : Action → Prop} {program : Program α} (hprogram : program.Only kind)
    (world : World σ) (state : σ) {action : Action} (hmem : action ∈ program.actions world state) :
    kind action := by
  induction program generalizing state with
  | done value => simp [actions] at hmem
  | perform first rest ih =>
    simp only [actions] at hmem
    match hworld : world first state with
    | (none, after) =>
      rw [hworld, List.mem_singleton] at hmem
      exact hmem ▸ hprogram.1
    | (some answer, after) =>
      rw [hworld, List.mem_cons] at hmem
      rcases hmem with rfl | hmem
      · exact hprogram.1
      · exact ih answer (hprogram.2 answer) after hmem

/-- What can be picked from none of the actions that a program keeps to, is picked from none of a run. -/
theorem Only.filterMap_actions {γ : Type} {kind : Action → Prop} {pick : Action → Option γ}
    (hkind : ∀ action, kind action → pick action = none) {program : Program α} (hprogram : program.Only kind)
    (world : World σ) (state : σ) : (program.actions world state).filterMap pick = [] := by
  rw [List.filterMap_eq_nil_iff]
  intro action hmem
  exact hkind action (hprogram.of_mem_actions world state hmem)

/-- A run relates the states before and after it as its actions do. An action that is never answered
ends the run. -/
theorem run_relates {kind : Action → Prop} (Rel : σ → σ → Prop) (hrefl : ∀ state, Rel state state)
    (htrans : ∀ first second third, Rel first second → Rel second third → Rel first third)
    {world : World σ} (hworld : ∀ action state, kind action → Rel state (world action state).2)
    {program : Program α} (hprogram : program.Only kind) (state : σ) :
    Rel state (program.run world state).2 := by
  induction program generalizing state with
  | done value => exact hrefl state
  | perform action rest ih =>
    have hstep := hworld action state hprogram.1
    simp only [run]
    cases hanswer : world action state with
    | mk answer? after =>
      rw [hanswer] at hstep
      cases answer? with
      | none => exact hstep
      | some answer => exact htrans _ _ _ hstep (ih answer (hprogram.2 answer) after)

/-- What every action of one kind raises by one at most, and no other action raises, a run raises by no
more than the number of these actions. -/
theorem run_raises (measure : σ → Nat) (raises : Action → Bool) {world : World σ}
    (hworld : ∀ action state, measure (world action state).2 ≤ measure state + if raises action then 1 else 0)
    (program : Program α) (state : σ) :
    measure (program.run world state).2 ≤ measure state + (program.actions world state).countP raises := by
  induction program generalizing state with
  | done value => exact Nat.le_add_right _ _
  | perform action rest ih =>
    have hstep := hworld action state
    simp only [run, actions]
    cases hanswer : world action state with
    | mk answer? after =>
      rw [hanswer] at hstep
      cases answer? with
      | none => simpa using hstep
      | some answer =>
        have hrest := ih answer after
        rw [List.countP_cons]
        simp only [] at hstep ⊢
        omega

/-- A run that ends keeps what every action keeps that is answered. -/
theorem run_keeps {kind : Action → Prop} (Inv : σ → Prop) {world : World σ}
    (hworld : ∀ action state, kind action → Inv state → (world action state).1.isSome →
      Inv (world action state).2)
    {program : Program α} (hprogram : program.Only kind) {state : σ} (hstate : Inv state)
    (hends : (program.run world state).1.isSome) : Inv (program.run world state).2 := by
  induction program generalizing state with
  | done value => exact hstate
  | perform action rest ih =>
    have hstep := hworld action state hprogram.1 hstate
    simp only [run] at hends ⊢
    cases hanswer : world action state with
    | mk answer? after =>
      rw [hanswer] at hstep hends
      cases answer? with
      | none => cases hends
      | some answer => exact ih answer (hprogram.2 answer) (hstep rfl) hends

/-- A run that never ends is stuck at an action that is never answered. -/
theorem run_stalls (Inv Stuck : σ → Prop) {world : World σ}
    (hworld : ∀ action state, Inv state → (world action state).1.isSome → Inv (world action state).2)
    (hstuck : ∀ action state, Inv state → (world action state).1 = none → Stuck (world action state).2)
    (program : Program α) {state : σ} (hstate : Inv state) (hstalls : (program.run world state).1 = none) :
    Stuck (program.run world state).2 := by
  induction program generalizing state with
  | done value => cases hstalls
  | perform action rest ih =>
    have hstep := hworld action state hstate
    have hstop := hstuck action state hstate
    simp only [run] at hstalls ⊢
    cases hanswer : world action state with
    | mk answer? after =>
      rw [hanswer] at hstep hstop hstalls
      cases answer? with
      | none => exact hstop rfl
      | some answer => exact ih answer (hstep rfl) hstalls

/-- Two worlds that answer alike, and stay related, see the same run. -/
theorem run_alike {kind : Action → Prop} {Rel : σ → τ → Prop} {world : World σ} {other : World τ}
    (hworld : ∀ action state twin, kind action → Rel state twin →
      (world action state).1 = (other action twin).1 ∧ Rel (world action state).2 (other action twin).2)
    {program : Program α} (hprogram : program.Only kind) {state : σ} {twin : τ} (hstate : Rel state twin) :
    (program.run world state).1 = (program.run other twin).1 ∧
      program.actions world state = program.actions other twin ∧
      Rel (program.run world state).2 (program.run other twin).2 := by
  induction program generalizing state twin with
  | done value => exact ⟨rfl, rfl, hstate⟩
  | perform action rest ih =>
    obtain ⟨hanswer, hafter⟩ := hworld action state twin hprogram.1 hstate
    simp only [run, actions]
    cases hfirst : world action state with
    | mk answer? after =>
      cases hsecond : other action twin with
      | mk answer' later =>
        rw [hfirst, hsecond] at hanswer hafter
        obtain rfl : answer? = answer' := hanswer
        cases answer? with
        | none => exact ⟨rfl, rfl, hafter⟩
        | some answer =>
          obtain ⟨hvalue, hactions, hrel⟩ := ih answer (hprogram.2 answer) hafter
          exact ⟨hvalue, congrArg (List.cons action) hactions, hrel⟩

/-- They also see it in the same course, where what is observed of related states is the same. -/
theorem history_alike {γ : Type} {kind : Action → Prop} {Rel : σ → τ → Prop} {world : World σ} {other : World τ}
    {observe : σ → γ} {observe' : τ → γ}
    (hworld : ∀ action state twin, kind action → Rel state twin →
      (world action state).1 = (other action twin).1 ∧ Rel (world action state).2 (other action twin).2)
    (hobserve : ∀ state twin, Rel state twin → observe state = observe' twin)
    {program : Program α} (hprogram : program.Only kind) {state : σ} {twin : τ} (hstate : Rel state twin) :
    program.history observe world state = program.history observe' other twin := by
  induction program generalizing state twin with
  | done value => rfl
  | perform action rest ih =>
    obtain ⟨hanswer, hafter⟩ := hworld action state twin hprogram.1 hstate
    simp only [history, hobserve state twin hstate]
    cases hfirst : world action state with
    | mk answer? after =>
      cases hsecond : other action twin with
      | mk answer' later =>
        rw [hfirst, hsecond] at hanswer hafter
        obtain rfl : answer? = answer' := hanswer
        cases answer? with
        | none => rfl
        | some answer => exact congrArg (List.cons _) (ih answer (hprogram.2 answer) hafter)

end Program

namespace Task

/-- Carries out a task in a world. -/
def perform (world : World σ) (task : Task α) (state : σ) : Option (Except Failure α) × σ :=
  task.run.run world state

/-- The actions that a task performs in a world, in order. -/
def actions (world : World σ) (task : Task α) (state : σ) : List Action :=
  task.run.actions world state

/-- Whether a task performs actions of one kind only, whatever they are answered. -/
def Only (kind : Action → Prop) (task : Task α) : Prop := task.run.Only kind

section Parts

variable (world : World σ) (state : σ)

/-- A task that only returns a value leaves the world as it is. -/
@[simp] theorem perform_pure (value : α) :
    perform world (pure value : Task α) state = (some (.ok value), state) := rfl

/-- A task that only fails leaves the world as it is. -/
@[simp] theorem perform_throw (failure : Failure) :
    perform world (throw failure : Task α) state = (some (.error failure), state) := rfl

/-- A task in two parts goes on with the value of the first one, unless that fails or never ends. -/
theorem perform_bind (task : Task α) (next : α → Task β) :
    perform world (task >>= next) state =
      match perform world task state with
      | (none, after) => (none, after)
      | (some (.error failure), after) => (some (.error failure), after)
      | (some (.ok value), after) => perform world (next value) after := by
  simp only [perform, ExceptT.run_bind, Program.run_bind]
  match task.run.run world state with
  | (none, after) => rfl
  | (some (.error failure), after) => rfl
  | (some (.ok value), after) => rfl

/-- A task whose first part ends goes on with its value, or fails as it does. -/
theorem perform_bind_fst {task : Task α} (result : Except Failure α) (next : α → Task β) :
    (perform world task state).1 = some result → (perform world (task >>= next) state).1 =
      match result with
      | .error failure => some (.error failure)
      | .ok value => (perform world (next value) (perform world task state).2).1 := by
  intro h
  rw [perform_bind]
  match hrun : perform world task state with
  | (answer, after) =>
    rw [hrun] at h
    obtain rfl : answer = some result := h
    cases result with
    | error failure => rfl
    | ok value => rfl

/-- A message is logged as the world logs it. -/
@[simp] theorem perform_log (level : Level) (message : String) :
    perform world (log level message) state = world (.log level message) state := by
  simp only [perform, log, ExceptT.run_mk, Program.ofAction, Program.run]
  cases world (.log level message) state with
  | mk answer? after => cases answer? <;> rfl

/-- A query comes to what the world answers to it. -/
@[simp] theorem perform_query (server : String) (timeoutMs : Int) :
    perform world (query server timeoutMs) state = world (.query server timeoutMs) state := by
  simp only [perform, query, ExceptT.run_mk, Program.ofAction, Program.run]
  cases world (.query server timeoutMs) state with
  | mk answer? after => cases answer? <;> rfl

/-- A program that cannot fail is carried out as a task that returns what it comes to. -/
theorem perform_lift (program : Program α) :
    perform world (ExceptT.lift program) state =
      ((program.run world state).1.map Except.ok, (program.run world state).2) := by
  simp only [perform, ExceptT.run_lift, map_eq_pure_bind, Program.run_bind]
  match program.run world state with
  | (none, after) => rfl
  | (some value, after) => rfl

/-- An attempt never fails: it comes to the result of the task, failures included. -/
@[simp] theorem perform_attempt (task : Task α) :
    perform world (attempt task) state =
      ((perform world task state).1.map Except.ok, (perform world task state).2) :=
  perform_lift world state task.run

/-- A sleep takes what the world makes of it, and does not fail. -/
@[simp] theorem perform_sleep (ms : Nat) :
    perform world (sleep ms) state = ((world (.sleep ms) state).1.map Except.ok, (world (.sleep ms) state).2) := by
  simp only [sleep, perform_lift, Program.ofAction, Program.run]
  cases world (.sleep ms) state with
  | mk answer? after => cases answer? <;> rfl

/-- The question for privilege comes to what the world answers to it. -/
@[simp] theorem perform_isPrivileged :
    perform world isPrivileged state =
      ((world .isPrivileged state).1.map Except.ok, (world .isPrivileged state).2) := by
  simp only [isPrivileged, perform_lift, Program.ofAction, Program.run]
  cases world .isPrivileged state with
  | mk answer? after => cases answer? <;> rfl

/-- An attempt to set the clock comes to what the world answers to it, failures included. -/
@[simp] theorem perform_trySetClock (timeMs : Int) :
    perform world (trySetClock timeMs) state =
      ((world (.setClock timeMs) state).1.map Except.ok, (world (.setClock timeMs) state).2) := by
  simp only [trySetClock, perform_lift, Program.ofAction, Program.run]
  cases world (.setClock timeMs) state with
  | mk answer? after => cases answer? <;> rfl

/-- A result is passed on without a change to the world. -/
@[simp] theorem perform_ofExcept (result : Except Failure α) :
    perform world (ofExcept result) state = (some result, state) := by
  cases result with
  | ok value => rfl
  | error failure => rfl

/-- The actions of a task in two parts are those of the first one, and then those of the second if
it comes to that. -/
theorem actions_bind (task : Task α) (next : α → Task β) :
    actions world (task >>= next) state =
      actions world task state ++
        match perform world task state with
        | (some (.ok value), after) => actions world (next value) after
        | _ => [] := by
  simp only [actions, perform, ExceptT.run_bind, Program.actions_bind]
  match task.run.run world state with
  | (none, after) => rfl
  | (some (.error failure), after) => rfl
  | (some (.ok value), after) => rfl

/-- What is picked from the actions of a task in two parts is picked from those of the first one, and then
from those of the second if it comes to that. -/
theorem filterMap_actions_bind {γ : Type} (pick : Action → Option γ) (task : Task α) (next : α → Task β) :
    (actions world (task >>= next) state).filterMap pick =
      (actions world task state).filterMap pick ++
        match perform world task state with
        | (some (.ok value), after) => (actions world (next value) after).filterMap pick
        | _ => [] := by
  rw [actions_bind, List.filterMap_append]
  match perform world task state with
  | (none, after) => rfl
  | (some (.error failure), after) => rfl
  | (some (.ok value), after) => rfl

/-- Returning a value takes no action. -/
@[simp] theorem actions_pure (value : α) : actions world (pure value : Task α) state = [] := rfl

/-- Failing takes no action. -/
@[simp] theorem actions_throw (failure : Failure) : actions world (throw failure : Task α) state = [] := rfl

/-- Logging is one action. -/
@[simp] theorem actions_log (level : Level) (message : String) :
    actions world (log level message) state = [.log level message] := by
  simp only [actions, log, ExceptT.run_mk, Program.ofAction, Program.actions]
  cases world (.log level message) state with
  | mk answer? after => cases answer? <;> rfl

/-- A query is one action. -/
@[simp] theorem actions_query (server : String) (timeoutMs : Int) :
    actions world (query server timeoutMs) state = [.query server timeoutMs] := by
  simp only [actions, query, ExceptT.run_mk, Program.ofAction, Program.actions]
  cases world (.query server timeoutMs) state with
  | mk answer? after => cases answer? <;> rfl

/-- Logging and then returning a value is one action, even if the log fails. -/
theorem actions_log_pure (level : Level) (message : String) (value : α) :
    actions world (do log level message; return value) state = [.log level message] := by
  rw [actions_bind, actions_log]
  match perform world (log level message) state with
  | (none, after) => rfl
  | (some (.error failure), after) => rfl
  | (some (.ok done), after) => rfl

/-- A program that cannot fail performs the same actions as a task. -/
theorem actions_lift (program : Program α) :
    actions world (ExceptT.lift program) state = program.actions world state := by
  simp only [actions, ExceptT.run_lift, map_eq_pure_bind, Program.actions_bind]
  match program.run world state with
  | (none, after) => exact List.append_nil _
  | (some value, after) => exact List.append_nil _

/-- An attempt performs the actions of the task, failed or not. -/
@[simp] theorem actions_attempt (task : Task α) : actions world (attempt task) state = actions world task state :=
  actions_lift world state task.run

/-- A sleep is one action. -/
@[simp] theorem actions_sleep (ms : Nat) : actions world (sleep ms) state = [.sleep ms] := by
  simp only [sleep, actions_lift, Program.ofAction, Program.actions]
  cases world (.sleep ms) state with
  | mk answer? after => cases answer? <;> rfl

/-- The question for privilege is one action. -/
@[simp] theorem actions_isPrivileged : actions world isPrivileged state = [.isPrivileged] := by
  simp only [isPrivileged, actions_lift, Program.ofAction, Program.actions]
  cases world .isPrivileged state with
  | mk answer? after => cases answer? <;> rfl

/-- An attempt to set the clock is one action. -/
@[simp] theorem actions_trySetClock (timeMs : Int) :
    actions world (trySetClock timeMs) state = [.setClock timeMs] := by
  simp only [trySetClock, actions_lift, Program.ofAction, Program.actions]
  cases world (.setClock timeMs) state with
  | mk answer? after => cases answer? <;> rfl

/-- Passing a result on takes no action. -/
@[simp] theorem actions_ofExcept (result : Except Failure α) : actions world (ofExcept result) state = [] := by
  cases result with
  | ok value => rfl
  | error failure => rfl

end Parts

section Kinds

variable {kind : Action → Prop}

/-- Returning a value keeps to any kind of actions. -/
theorem only_pure (value : α) : Only kind (pure value : Task α) := trivial

/-- Failing keeps to any kind of actions. -/
theorem only_throw (failure : Failure) : Only kind (throw failure : Task α) := trivial

/-- Logging keeps to a kind of actions that has the message. -/
theorem only_log {level : Level} {message : String} (h : kind (.log level message)) :
    Only kind (log level message) := ⟨h, fun _ => trivial⟩

/-- A query keeps to a kind of actions that has it. -/
theorem only_query {server : String} {timeoutMs : Int} (h : kind (.query server timeoutMs)) :
    Only kind (query server timeoutMs) := ⟨h, fun _ => trivial⟩

/-- Passing a result on keeps to any kind of actions. -/
theorem only_ofExcept (result : Except Failure α) : Only kind (ofExcept result) := by
  cases result with
  | ok value => trivial
  | error failure => trivial

/-- Two tasks in a row keep to one kind of actions if each of them does. -/
theorem Only.bind {task : Task α} {next : α → Task β} (htask : Only kind task)
    (hnext : ∀ value, Only kind (next value)) : Only kind (task >>= next) := by
  unfold Only
  rw [ExceptT.run_bind]
  refine Program.Only.bind htask fun result => ?_
  cases result with
  | ok value => exact hnext value
  | error failure => trivial

/-- A program that keeps to a kind of actions does so as a task. -/
theorem only_lift {program : Program α} (h : program.Only kind) : Only kind (ExceptT.lift program) := by
  unfold Only
  rw [ExceptT.run_lift, map_eq_pure_bind]
  exact h.bind fun _ => trivial

/-- A sleep keeps to a kind of actions that has it. -/
theorem only_sleep {ms : Nat} (h : kind (.sleep ms)) : Only kind (sleep ms) :=
  only_lift ⟨h, fun _ => trivial⟩

/-- The question for privilege keeps to a kind of actions that has it. -/
theorem only_isPrivileged (h : kind .isPrivileged) : Only kind isPrivileged :=
  only_lift ⟨h, fun _ => trivial⟩

/-- An attempt to set the clock keeps to a kind of actions that has it. -/
theorem only_trySetClock {timeMs : Int} (h : kind (.setClock timeMs)) : Only kind (trySetClock timeMs) :=
  only_lift ⟨h, fun _ => trivial⟩

/-- A task that keeps to one kind of actions also keeps to a wider one. -/
theorem Only.mono {wider : Action → Prop} {task : Task α} (htask : Only kind task)
    (hkind : ∀ action, kind action → wider action) : Only wider task :=
  Program.Only.mono hkind htask

/-- An attempt keeps to the actions that the task keeps to. -/
theorem Only.attempt {task : Task α} (h : Only kind task) : Only kind (attempt task) := only_lift h

end Kinds

end Task

end Sntp
