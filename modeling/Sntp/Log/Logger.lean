import Sntp.Calendar.Moment
import Sntp.Program

/-!
# Log lines

A log line is the time, the tag of its level and the message. Debug messages are written only by a
verbose logger, and never go to the system log. In color the tag is wrapped in terminal formatting,
except that of an ordinary message.
-/

set_option autoImplicit false

namespace Sntp

namespace Level

/-- The word that marks a level in a log line. -/
def tag : Level → String
  | debug => "DEBUG"
  | info => "INFO"
  | warning => "WARNING"
  | error => "ERROR"

/-- The tag as a terminal shows it in color. -/
def coloredTag : Level → String
  | debug => "\x1b[90mDEBUG\x1b[39m"
  | info => "INFO"
  | warning => "\x1b[33mWARNING\x1b[39m"
  | error => "\x1b[91mERROR\x1b[39m"

/-- The priority of a level in the system log. -/
def priority : Level → String
  | debug => "debug"
  | info => "info"
  | warning => "warning"
  | error => "err"

end Level

/-- How log lines are written. -/
structure Logger where
  verbose : Bool
  color : Bool
  deriving DecidableEq, Repr, Inhabited

namespace Logger

/-- A message as a line of the log: the time, the tag of its level, and the message. -/
def line (logger : Logger) (now : Number) (level : Level) (message : String) : String :=
  timeStamp now ++ " " ++ (if logger.color then level.coloredTag else level.tag) ++ " " ++ message

/-- Whether messages of a level are written at all. -/
def writes (logger : Logger) (level : Level) : Bool := level != .debug || logger.verbose

end Logger

/-- The command that writes to the system log. -/
def systemLogCommand : String := "logger"

/-- What the program is called in the system log. -/
def systemLogTag : String := "timesync"

/-- The arguments that write a message to the system log under a tag. -/
def systemLogArguments (tag : String) (level : Level) (message : String) : List String :=
  ["-t", tag, "-p", "user." ++ level.priority, "--", message]

/-- The message about a system log that failed. -/
def systemLogFailed (failure : Failure) : String := "Syslog write failed: " ++ failure.summary

end Sntp
