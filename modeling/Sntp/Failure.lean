import Sntp.Number.Decimal
import Sntp.Text.Blank

/-!
# Failures

A `Fault` is a failure that the program itself tells apart; its kind fixes the exit code, whether
another attempt may help, and the words of its message. A `Failure` is whatever an operation failed
with: a fault, on its own or brought about by another failure, an error of the system, or a bare
value given in the place of an error.

Messages of faults that something else brought about end with the summary of it. A bare value that
is empty (`Failure.isEmpty`) counts as a cause but has nothing to say.
-/

set_option autoImplicit false

namespace Sntp

/-- How a run of the program ends. -/
inductive ExitCode where
  | success
  | invalidResponse
  | networkFailure
  | clockNotSet
  deriving DecidableEq, Repr, Inhabited

/-- The number that the process exits with. -/
def ExitCode.toNat : ExitCode → Nat
  | success => 0
  | invalidResponse => 1
  | networkFailure => 2
  | clockNotSet => 10

/-- A failure that the program tells apart from others. -/
inductive Fault where
  | usage (message : String)
  /-- No address was found for a host. -/
  | unresolved (host : String)
  /-- The request did not leave for an address, or its socket broke. -/
  | unsent (address : String)
  | noResponse (address : String) (timeoutMs : Int)
  | shortPacket (length : Nat)
  | wrongMode (mode : Nat)
  /-- The server sent a code in the place of a time. -/
  | kissOfDeath (code : String)
  | wrongVersion (version : Nat)
  | unsynchronized
  /-- The server's time lies before 1970. -/
  | earlyTimestamp (seconds : Nat)
  | retriesExhausted (server : String) (attempts : Int)
  /-- An addition or subtraction left the integers that are held exactly. -/
  | overflow (operation : String) (left right : Number)
  | roundTripOutOfRange (rttMs : Number)
  | implausibleYear (year : Int)
  | privilegeDenied
  | clockNotSet (method : String)
  deriving DecidableEq, Repr, Inhabited

namespace Fault

/-- The exit code of a run that ends with a fault. -/
def exitCode : Fault → ExitCode
  | usage _ => .invalidResponse
  | unresolved _ => .networkFailure
  | unsent _ => .networkFailure
  | noResponse _ _ => .networkFailure
  | shortPacket _ => .networkFailure
  | wrongMode _ => .invalidResponse
  | kissOfDeath _ => .invalidResponse
  | wrongVersion _ => .invalidResponse
  | unsynchronized => .invalidResponse
  | earlyTimestamp _ => .invalidResponse
  | retriesExhausted _ _ => .networkFailure
  | overflow _ _ _ => .invalidResponse
  | roundTripOutOfRange _ => .invalidResponse
  | implausibleYear _ => .invalidResponse
  | privilegeDenied => .clockNotSet
  | clockNotSet _ => .clockNotSet

/-- Whether a fault lies in the contents of a response. -/
def isMalformedResponse : Fault → Bool
  | wrongMode _ | kissOfDeath _ | wrongVersion _ | unsynchronized | earlyTimestamp _ => true
  | _ => false

/-- Whether another attempt may succeed: no response came, or one that cannot be used. -/
def isRetryable : Fault → Bool
  | noResponse _ _ | shortPacket _ => true
  | fault => fault.isMalformedResponse

/-- The words after a message that name what brought it about. -/
def causeSuffix : Option String → String
  | some summary => ": " ++ summary
  | none => ""

/-- The message of a fault; `cause` is the summary of what brought it about, if that has anything to
say. -/
def message (cause : Option String) : Fault → String
  | usage message => message
  | unresolved host => "Could not resolve " ++ host ++ causeSuffix cause
  | unsent address => "Failed to send NTP request to " ++ address ++ causeSuffix cause
  | noResponse address timeoutMs =>
    "No response from " ++ address ++ " within " ++ Number.integerText timeoutMs ++ " ms"
  | shortPacket length => "NTP response too short: " ++ Number.integerText length ++ " bytes"
  | wrongMode mode => "Invalid mode in NTP response: " ++ Number.integerText mode
  | kissOfDeath code =>
    "Invalid stratum in NTP response (kiss of death: " ++ (if code = "" then "none" else code) ++ ")"
  | wrongVersion version => "Invalid version in NTP response: " ++ Number.integerText version
  | unsynchronized => "NTP server reports an unsynchronized clock"
  | earlyTimestamp seconds => "Invalid transmit timestamp in NTP response: " ++ Number.integerText seconds
  | retriesExhausted server attempts =>
    "Failed to contact NTP server " ++ server ++ " after " ++ Number.integerText attempts
      ++ (if attempts = 1 then " attempt" else " attempts")
  | overflow operation left right =>
    "Arithmetic overflow: " ++ left.text ++ " " ++ operation ++ " " ++ right.text
  | roundTripOutOfRange rttMs => "Invalid roundtrip time: " ++ rttMs.text ++ " ms"
  | implausibleYear year => "Remote year is out of valid range (2025-2200): " ++ Number.integerText year
  | privilegeDenied => "Not root, not setting system time"
  | clockNotSet method => "Failed to adjust system time with " ++ method ++ causeSuffix cause

end Fault

/-- The kinds of errors that the system reports. -/
inductive SystemErrorKind where
  | ordinary
  | outOfRange
  | wrongType
  deriving DecidableEq, Repr, Inhabited

/-- A bare value. -/
inductive Datum where
  | null
  | truth (value : Bool)
  | number (value : Number)
  | text (value : String)
  /-- A value with parts, as the text that it is shown as and as it was given. -/
  | compound (shown given : String)
  deriving DecidableEq, Repr, Inhabited

namespace Datum

/-- The text that a value is shown as. -/
def shown : Datum → String
  | null => "null"
  | truth value => if value then "true" else "false"
  | number value => value.text
  | text value => value
  | compound shown _ => shown

/-- Whether a value is one of the empty ones: nothing, false, zero, the undefined number, the empty
text. -/
def isEmpty : Datum → Bool
  | null => true
  | truth value => !value
  | number value => value == 0 || value == .nan
  | text value => value == ""
  | compound _ _ => false

end Datum

/-- Whatever an operation failed with. -/
inductive Failure where
  | fault (fault : Fault)
  /-- A fault that another failure brought about. -/
  | faultFrom (fault : Fault) (cause : Failure)
  | system (kind : SystemErrorKind) (message : String)
  | datum (value : Datum)
  deriving DecidableEq, Repr, Inhabited

/-- A message without a leading `Error:` and without the blanks around it. -/
def withoutLabel (message : String) : String :=
  let text := message.toList
  String.ofList <|
    match Text.afterWord? "error:".toList (Text.trimLeft text) with
    | some rest => Text.trim rest
    | none => Text.trim text

namespace Failure

/-- Whether a failure is a bare value with nothing to say. -/
def isEmpty : Failure → Bool
  | datum value => value.isEmpty
  | _ => false

/-- The message of a failure; a bare value is its own message. -/
def message : Failure → String
  | fault f => f.message none
  | faultFrom f cause => f.message (if cause.isEmpty then none else some (withoutLabel cause.message))
  | system _ message => message
  | datum value => value.shown

/-- The message of a failure as it is quoted in other messages. -/
def summary (failure : Failure) : String := withoutLabel failure.message

/-- The program's own fault that a failure is. -/
def fault? : Failure → Option Fault
  | fault f => some f
  | faultFrom f _ => some f
  | _ => none

/-- Whether a failure is a fault after which another attempt may succeed. -/
def isRetryable (failure : Failure) : Bool := failure.fault?.any Fault.isRetryable

/-- A time that names no moment cannot be written. -/
def invalidTime : Failure := .system .outOfRange "Invalid time value"

/-- The year of a time that the calendar does not reach cannot be read. -/
def noYear : Failure := .system .wrongType "Cannot read properties of undefined (reading 'y')"

end Failure

end Sntp
