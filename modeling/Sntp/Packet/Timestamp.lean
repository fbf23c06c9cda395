import Sntp.Failure

/-!
# Wire timestamps

A timestamp on the wire is a count of seconds since 1900-01-01 and a binary fraction of 32 bits. The
program counts in whole milliseconds since 1970-01-01 and refuses times before that.
-/

set_option autoImplicit false

namespace Sntp.Packet

/-- The seconds from 1900-01-01 to 1970-01-01. -/
def epochSeconds : Nat := 2208988800

/-- The number of parts that a second has in the fraction of a timestamp. -/
def fractionScale : Nat := 4294967296

/-- The milliseconds since 1970-01-01 of a timestamp, rounded down. -/
def unixMillis (seconds fraction : Nat) : Except Fault Int :=
  if seconds < epochSeconds then .error (.earlyTimestamp seconds)
  else .ok ((seconds - epochSeconds) * 1000 + fraction * 1000 / fractionScale : Nat)

end Sntp.Packet
