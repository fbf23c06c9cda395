import Sntp.Number.Basic
import Sntp.Failure
import Sntp.Text.Utf8

/-!
# Programs

What a run does to the world is a sequence of actions, each of which the world answers. A `Program`
is such a run before it meets any world: either it is done, or it performs an action and goes on
with the answer. `Program.run` carries it out in a world given as a function of actions; the world
may leave an action without an answer, and the run then never ends.

`Task` is a program that may fail.
-/

set_option autoImplicit false

namespace Sntp

/-- The importance of a log message. -/
inductive Level where
  | debug
  | info
  | warning
  | error
  deriving DecidableEq, Repr, Inhabited

/-- A response as it came from the socket, and the local clock when the request left and when the
response came. -/
structure Exchange where
  localSendMs : Number
  localRecvMs : Number
  response : Bytes
  /-- The address that answered. -/
  address : String
  deriving DecidableEq, Repr, Inhabited

/-- What a run asks of the world. -/
inductive Action where
  | log (level : Level) (message : String)
  | query (server : String) (timeoutMs : Int)
  | sleep (ms : Nat)
  | isPrivileged
  | setClock (timeMs : Int)
  deriving DecidableEq, Repr

/-- What the world answers to an action. -/
abbrev Action.Answer : Action → Type
  | .log _ _ => Except Failure Unit
  | .query _ _ => Except Failure Exchange
  | .sleep _ => Unit
  | .isPrivileged => Bool
  | .setClock _ => Except Failure Unit

/-- A run that has yet to meet the world. -/
inductive Program (α : Type) where
  | done (value : α)
  | perform (action : Action) (next : action.Answer → Program α)

/-- A world with states `σ`: how it answers an action, if it ever does, and how it is left. -/
abbrev World (σ : Type) := (action : Action) → σ → Option action.Answer × σ

namespace Program

variable {α β σ : Type}

/-- One program after another, which begins with the value of the first. -/
def bind : Program α → (α → Program β) → Program β
  | .done value, next => next value
  | .perform action rest, next => .perform action fun answer => (rest answer).bind next

/-- Programs follow one another. -/
instance : Monad Program where
  pure := .done
  bind := bind

/-- Carries a program out in a world. There is no value if the world leaves an action without an
answer. -/
def run (world : World σ) : Program α → σ → Option α × σ
  | .done value, state => (some value, state)
  | .perform action next, state =>
    match world action state with
    | (none, after) => (none, after)
    | (some answer, after) => (next answer).run world after

/-- The program that performs one action and returns the answer. -/
def ofAction (action : Action) : Program action.Answer := .perform action .done

/-- The program that only returns a value is done. -/
@[simp] theorem pure_eq (value : α) : (pure value : Program α) = .done value := rfl

/-- A program that is done hands its value on. -/
@[simp] theorem done_bind (value : α) (next : α → Program β) : (Program.done value >>= next) = next value := rfl

/-- An action stays the first one, whatever follows the program that it begins. -/
@[simp] theorem perform_bind (action : Action) (rest : action.Answer → Program α) (next : α → Program β) :
    (Program.perform action rest >>= next) = .perform action fun answer => rest answer >>= next := rfl

/-- Going on with nothing leaves a program as it is. -/
theorem bind_done (program : Program α) : (program >>= Program.done) = program := by
  induction program with
  | done value => rfl
  | perform action next ih => simp [ih]

/-- Three programs in a row can be taken together from either end. -/
theorem bind_bind {γ : Type} (program : Program α) (next : α → Program β) (last : β → Program γ) :
    (program >>= next >>= last) = program >>= fun value => next value >>= last := by
  induction program with
  | done value => rfl
  | perform action next ih => simp [ih]

/-- Programs in a row mean the same however they are taken together. -/
instance : LawfulMonad Program :=
  LawfulMonad.mk' Program (fun program => bind_done program) (fun _ _ => rfl)
    (fun program next last => bind_bind program next last)

/-- A program that is done leaves the world as it is. -/
@[simp] theorem run_done (world : World σ) (value : α) (state : σ) :
    (Program.done value).run world state = (some value, state) := rfl

/-- A run goes on with the value of its first part, in the world that this leaves, unless that never ends. -/
theorem run_bind (world : World σ) (program : Program α) (next : α → Program β) (state : σ) :
    (program >>= next).run world state =
      match program.run world state with
      | (none, after) => (none, after)
      | (some value, after) => (next value).run world after := by
  induction program generalizing state with
  | done value => rfl
  | perform action rest ih =>
    simp only [perform_bind, run]
    match world action state with
    | (none, after) => rfl
    | (some answer, after) => exact ih answer after

end Program

/-- A program that may fail. -/
abbrev Task (α : Type) := ExceptT Failure Program α

namespace Task

/-- Writes a message to the logs. -/
def log (level : Level) (message : String) : Task Unit := ExceptT.mk (Program.ofAction (.log level message))

/-- Asks a server for the time, and fails as the exchange does. -/
def query (server : String) (timeoutMs : Int) : Task Exchange :=
  ExceptT.mk (Program.ofAction (.query server timeoutMs))

/-- Waits for a number of milliseconds. -/
def sleep (ms : Nat) : Task Unit := ExceptT.lift (Program.ofAction (.sleep ms))

/-- Asks whether the clock may be set. -/
def isPrivileged : Task Bool := ExceptT.lift (Program.ofAction .isPrivileged)

/-- Tries to set the clock, and returns how that went. -/
def trySetClock (timeMs : Int) : Task (Except Failure Unit) := ExceptT.lift (Program.ofAction (.setClock timeMs))

/-- Runs a task and returns how it went. -/
def attempt {α : Type} (task : Task α) : Task (Except Failure α) := ExceptT.lift task.run

/-- Continues with a result that is at hand. -/
def ofExcept {α : Type} : Except Failure α → Task α
  | .ok value => pure value
  | .error failure => throw failure

end Task

end Sntp
