import Sntp.Sync.Acquire
import Sntp.Sync.Policy

/-!
# Reports

The messages that tell about a measurement, line by line, and about the decision that follows from
it.
-/

set_option autoImplicit false

namespace Sntp

/-- A time of the 16.16 fixed-point format, in seconds, as milliseconds with three places. Neither
the product nor the quotient is ever rounded. -/
def fixedPointText (value : Nat) : String := Number.fixedThree (.finite (mkRat (value * 1000) 65536))

/-- A time in its announced form; one that names no moment fails. -/
def isoTime (ms : Number) : Except Failure String :=
  match isoTime? ms with
  | some text => .ok text
  | none => .error .invalidTime

/-- The lines about a measurement, in order. A line about a time that names no moment cannot be
written. -/
def Measurement.lines (m : Measurement) (config : Config) (estimate : Estimate) : List (Except Failure String) :=
  let r := m.response
  [ .ok ("Server: " ++ config.server ++ " (" ++ m.exchange.address ++ "), stratum " ++ Number.integerText r.stratum
      ++ ", version " ++ Number.integerText r.version
      ++ (if r.reference = "" then "" else ", reference " ++ r.reference)),
    .ok ("Leap indicator " ++ Number.integerText r.leap ++ ", mode " ++ Number.integerText r.mode ++ ", poll 2^"
      ++ Number.integerText r.poll ++ " s, precision 2^" ++ Number.integerText r.precision ++ " s"),
    .ok ("Root delay(ms): " ++ fixedPointText r.rootDelay ++ ", root dispersion(ms): "
      ++ fixedPointText r.rootDispersion),
    .ok ("Transmit timestamp: " ++ Number.integerText r.seconds ++ " s + " ++ Number.integerText r.fraction ++ "/2^32"),
    (isoTime m.sample.localRecvMs).map ("Local time: " ++ ·),
    (isoTime m.sample.remoteMs).map ("Remote time: " ++ ·),
    .ok ("Local before(ms): " ++ m.sample.localSendMs.text),
    .ok ("Local after(ms): " ++ m.sample.localRecvMs.text),
    .ok ("Estimated roundtrip(ms): " ++ estimate.rttMs.text),
    .ok ("Estimated offset remote - local(ms): " ++ estimate.offsetMs.text) ]

/-- Writes lines to the log until one cannot be written. -/
def writeLines : List (Except Failure String) → Task Unit
  | [] => pure ()
  | line :: rest => do
    Task.log .debug (← Task.ofExcept line)
    writeLines rest

/-- The line for the system log that tells about a measurement. -/
def Measurement.systemLogLine (m : Measurement) (config : Config) (estimate : Estimate) : String :=
  "NTP server=" ++ config.server ++ " addr=" ++ m.exchange.address ++ " offset_ms=" ++ estimate.offsetMs.text
    ++ " rtt_ms=" ++ estimate.rttMs.text

/-- The level and the text of the message that announces a decision. -/
def Decision.announcement (method : String) : Decision → Except Failure (Level × String)
  | .skip offsetMs => .ok (.debug, "Delta " ++ offsetMs.text ++ " ms < 500 ms, not setting system time")
  | .reject diagnosis => .ok (.error, diagnosis.message)
  | .testOnly timeMs => (isoTime timeMs).map fun time => (.info, "Test mode, would set system time to " ++ time)
  | .deny _ => .ok (.warning, Diagnosis.denied.message)
  | .apply timeMs =>
    (isoTime timeMs).map fun time => (.info, "System time set using " ++ method ++ " (" ++ time ++ ")")

end Sntp
