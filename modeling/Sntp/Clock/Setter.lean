import Sntp.Calendar.Moment
import Sntp.Failure

/-!
# Setting the clock

The clock is set by the system's `date` command, whose arguments come in three forms. Only the first
one can express milliseconds; the others name the second that the time lies in. A platform without a
known form has no way to set the clock.
-/

set_option autoImplicit false

namespace Sntp

/-- A form of the arguments of `date`. -/
inductive DateForm where
  /-- Seconds since 1970-01-01 with three places, after an at sign. -/
  | seconds
  /-- Year, month, day, hour and minute, then a point and the second. -/
  | yearFirst
  /-- Month, day, hour, minute and year, then a point and the second. -/
  | yearLast
  deriving DecidableEq, Repr, Inhabited

namespace DateForm

/-- The argument that names a time. -/
def timeArgument (form : DateForm) (ms : Number) : String :=
  let moment := Moment.ofNumber? ms
  let field := Moment.fieldText moment
  let year := Moment.yearText moment
  match form with
  | seconds => "@" ++ ms.thousandth.fixedThree
  | yearFirst =>
    String.ofList (year ++ field (·.date.month) ++ field (·.date.day) ++ field (·.hour) ++ field (·.minute)
      ++ '.' :: field (·.second))
  | yearLast =>
    String.ofList (field (·.date.month) ++ field (·.date.day) ++ field (·.hour) ++ field (·.minute) ++ year
      ++ '.' :: field (·.second))

/-- The arguments that set the clock to a time. -/
def arguments (form : DateForm) (ms : Number) : List String :=
  match form with
  | seconds => ["-u", "-s", form.timeArgument ms]
  | yearFirst | yearLast => ["-u", form.timeArgument ms]

end DateForm

/-- A way to set the clock. -/
inductive ClockSetter where
  | dateCommand (form : DateForm)
  | unsupported (platform : String)
  deriving DecidableEq, Repr, Inhabited

namespace ClockSetter

/-- How the clock is set on a platform. -/
def ofPlatform (platform : String) : ClockSetter :=
  if platform = "linux" ∨ platform = "android" ∨ platform = "cygwin" then .dateCommand .seconds
  else if platform = "freebsd" ∨ platform = "openbsd" ∨ platform = "netbsd" then .dateCommand .yearFirst
  else if platform = "darwin" then .dateCommand .yearLast
  else .unsupported platform

/-- The command that sets the clock. -/
def dateCommandName : String := "date"

/-- What the clock is said to be set with. -/
def method : ClockSetter → String
  | dateCommand _ => dateCommandName
  | unsupported platform => platform

/-- Why a platform without a known form fails. -/
def unsupportedReason : Failure := .datum (.text "setting the clock is not supported on this platform")

/-- The fault of a clock setter that failed for a reason. -/
def failed (setter : ClockSetter) (reason : Failure) : Failure := .faultFrom (.clockNotSet setter.method) reason

/-- The arguments to run the command with, or the failure where there is no command. -/
def command (setter : ClockSetter) (ms : Number) : Except Failure (List String) :=
  match setter with
  | dateCommand form => .ok (form.arguments ms)
  | unsupported _ => .error (setter.failed unsupportedReason)

/-- How setting the clock ends when the command has ended. -/
def conclude {α : Type} (setter : ClockSetter) : Except Failure α → Except Failure Unit
  | .ok _ => .ok ()
  | .error reason => .error (setter.failed reason)

end ClockSetter

/-- Whether the effective user may set the clock; a platform may have no user numbers. -/
def isPrivilegedUser (euid : Option Int) : Bool := euid = some 0

end Sntp
