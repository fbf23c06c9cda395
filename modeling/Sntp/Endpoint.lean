import Sntp.Number.Rounding
import Sntp.Packet.Response

/-!
# Endpoints

A server is written as a host with an optional port. A host that holds colons is an address whose
last group could be taken for a port, so it needs brackets to have one.
-/

set_option autoImplicit false

namespace Sntp

open Text

/-- A host and the port that it is asked on. A port with many digits is rounded like every number.
-/
structure Endpoint where
  host : String
  port : Number
  deriving DecidableEq, Repr

namespace Endpoint

/-- The server that is asked when none is named. -/
def defaultServer : String := "pool.ntp.org"

/-- Splits a colon and digits off the end of a text. -/
def portSuffix? (text : Chars) : Option (Chars × Chars) :=
  match text.reverse.dropWhile Char.isDigit with
  | ':' :: front =>
    let digits := (text.reverse.takeWhile Char.isDigit).reverse
    if digits = [] then none else some (front.reverse, digits)
  | _ => none

/-- The host between the brackets that a text begins and ends with: not empty and on one line. -/
def bracketed? : Chars → Option Chars
  | '[' :: inner =>
    match inner.reverse with
    | ']' :: host => if host ≠ [] ∧ host.all (!isLineEnd ·) then some host.reverse else none
    | _ => none
  | _ => none

/-- A host that may stand before a port without brackets. -/
def isPlainHost (host : Chars) : Bool := host ≠ [] ∧ host.all fun c => c != '[' && c != ':'

/-- Splits a text into host and written port: a bracketed host with a port, a plain host with a
port, a bracketed host, and otherwise the text itself is the host. -/
def split (text : Chars) : Chars × Option Chars :=
  let hostOnly := match bracketed? text with
    | some host => (host, none)
    | none => (text, none)
  match portSuffix? text with
  | some (front, digits) =>
    match bracketed? front with
    | some host => (host, some digits)
    | none => if isPlainHost front then (front, some digits) else hostOnly
  | none => hostOnly

/-- The endpoint that a text names; the default port stands where none is written. -/
def ofText (text : String) (defaultPort : Number) : Endpoint :=
  let (host, port) := split text.toList
  { host := String.ofList host
    port := match port with
      | some digits => Number.ofDecimal (Nat.ofDigitChars 10 digits 0) 0
      | none => defaultPort }

end Endpoint

end Sntp
