import Sntp.Failure
import Sntp.Text.Complaint
import Sntp.Text.Utf8

/-!
# Watching a command

A command is watched until it closes or reports an error. It has succeeded if it closed without an
exit code other than zero, wrote nothing visible to its error stream, and no chunk of its output
complains. Otherwise the failure is what it said, formatting of the error stream aside, or its exit
code if it said nothing.

Chunks are read on their own: a character, a formatting sequence or a phrase that is cut in two is
not put together again.
-/

set_option autoImplicit false

namespace Sntp

open Text

/-- One of the streams that a command writes to. -/
inductive Stream where
  | output
  | errors
  deriving DecidableEq, Repr

/-- What a running command does. -/
inductive ProcessEvent where
  | chunk (stream : Stream) (bytes : Bytes)
  /-- It closed, with an exit code unless a signal ended it. -/
  | closed (code : Option Int)
  | failed (failure : Failure)
  deriving DecidableEq, Repr

/-- What was seen of a command so far. -/
structure Monitor where
  output : Chars
  /-- What the command said about errors. -/
  complaints : Chars
  deriving DecidableEq, Repr

namespace Monitor

/-- A monitor that has seen nothing. -/
def start : Monitor := ⟨[], []⟩

/-- A chunk of output that complains joins the complaints, on a line of its own. -/
def addComplaint (complaints chunk : Chars) : Chars :=
  if complaints = [] then chunk else complaints ++ '\n' :: chunk

/-- Takes in a chunk. -/
def take (m : Monitor) (stream : Stream) (bytes : Bytes) : Monitor :=
  let chunk := ofUtf8 bytes
  match stream with
  | .errors => { m with complaints := m.complaints ++ stripFormatting chunk }
  | .output =>
    { output := m.output ++ chunk
      complaints := if isComplaint chunk then addComplaint m.complaints chunk else m.complaints }

/-- The failure of a command that closed, with what it said as the message. -/
def complaint (text : Chars) : Failure := .system .ordinary (String.ofList text)

/-- How a command that closed has ended: with its output, or with a failure. -/
def conclude (m : Monitor) (command : String) (code : Option Int) : Except Failure String :=
  match code.filter (· ≠ 0) with
  | some n =>
    let said := trim m.complaints
    .error (complaint
      (if said = [] then command.toList ++ " exited with code ".toList ++ Number.integerChars n else said))
  | none =>
    if m.complaints = [] then .ok (String.ofList m.output) else .error (complaint (trim m.complaints))

end Monitor

/-- Watches a command through events in the order in which they happen, each with its time: when and
how it ended, if it did. -/
def watchFrom (command : String) (m : Monitor) : List (Int × ProcessEvent) → Option (Int × Except Failure String)
  | [] => none
  | (_, .chunk stream bytes) :: rest => watchFrom command (m.take stream bytes) rest
  | (time, .closed code) :: _ => some (time, m.conclude command code)
  | (time, .failed failure) :: _ => some (time, .error failure)

/-- Watches a command from its start. -/
def watch (command : String) (events : List (Int × ProcessEvent)) : Option (Int × Except Failure String) :=
  watchFrom command Monitor.start events

end Sntp
