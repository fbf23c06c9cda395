import Sntp.Log.Logger
import Sntp.Log.SystemLog
import Sntp.Simulation.Command
import Sntp.Simulation.Effect

/-!
# Scenes

A scene is the state of a simulated world: virtual time, what has been done to the world so far, how
its commands go, and the log. Log lines are written at once. Writes to the system log run in the
background, and virtual time passes only where something is waited for: a command in the foreground,
a pause, or the end of all writes to the system log (`Scene.closeSystemLog`).
-/

set_option autoImplicit false

namespace Sntp

/-- The clock that log lines are stamped with. -/
inductive LogClock where
  | fixed (now : Number)
  | running (clock : LocalClock)
  deriving DecidableEq, Repr, Inhabited

/-- What a log clock shows at a virtual time. -/
def LogClock.read (clock : LogClock) (time : Int) : Number :=
  match clock with
  | fixed now => now
  | running clock => clock.read time

/-- The state of a simulated world. -/
structure Scene where
  time : Int
  trace : Trace
  /-- How the next runs of each command go. -/
  scripts : List (String × List CommandScript)
  logger : Logger
  logClock : LogClock
  /-- The tag of the system log, if it is used. -/
  systemLogTag : Option String
  systemLog : SystemLog
  /-- The writes and closes of the system log so far. -/
  issued : Nat
  /-- The ends of writes that are still to come. -/
  endings : Agenda (Nat × Except Failure Unit)

namespace Scene

/-- The scene in which nothing has happened yet. -/
def opening (logger : Logger) (logClock : LogClock) (systemLogTag : Option String)
    (scripts : List (String × List CommandScript)) : Scene where
  time := 0
  trace := []
  scripts := scripts
  logger := logger
  logClock := logClock
  systemLogTag := systemLogTag
  systemLog := SystemLog.idle
  issued := 0
  endings := []

/-- Notes an effect, at the time that it is now. -/
def record (scene : Scene) (effect : Effect) : Scene :=
  { scene with trace := scene.trace ++ [(scene.time, effect)] }

/-- Writes a line to the log, whatever its level. -/
def writeLine (scene : Scene) (level : Level) (message : String) : Scene :=
  scene.record (.line (scene.logger.line (scene.logClock.read scene.time) level message))

/-- Lets time pass up to a moment; writes that end until then end. -/
def waitUntil (scene : Scene) (time : Int) : Scene :=
  let (ended, later) := scene.endings.span (·.1 ≤ time)
  { scene with
    time := max scene.time time
    systemLog := ended.foldl (fun log (_, run, result) => log.settle run result) scene.systemLog
    endings := later }

/-- Starts a command, which follows the next of the scripts for its name. -/
def launch (scene : Scene) (name : String) (arguments : List String) : Launch × Scene :=
  let (script, rest) := nextScript .success ((scene.scripts.lookup name).getD [])
  let scripts := (name, rest) :: scene.scripts.filter (·.1 != name)
  (script.launch name, { scene.record (.command name arguments) with scripts })

/-- Starts a command and waits for its end. There is no result if it never ends. -/
def runCommand (scene : Scene) (name : String) (arguments : List String) : Option (Except Failure Unit) × Scene :=
  match scene.launch name arguments with
  | (.refused failure, after) => (some (.error failure), after)
  | (.endedAtOnce result, after) => (some result, after)
  | (.ends delay result, after) => (some result, after.waitUntil (after.time + delay))
  | (.neverEnds, after) => (none, after)

/-- Issues a write to the system log, and gives its number. -/
def issueWrite (scene : Scene) : Nat × Scene :=
  (scene.issued, { scene with issued := scene.issued + 1, systemLog := scene.systemLog.write scene.issued })

/-- Writes a message to the system log. It fails only if the command is refused; how the command
ends shows at a close. -/
def writeSystemLog (scene : Scene) (tag : String) (level : Level) (message : String) :
    Except Failure Unit × Scene :=
  match scene.launch systemLogCommand (systemLogArguments tag level message) with
  | (.refused failure, after) => (.error failure, after)
  | (.endedAtOnce result, after) =>
    let (run, after) := after.issueWrite
    (.ok (), { after with systemLog := after.systemLog.settle run result })
  | (.ends delay result, after) =>
    let (run, after) := after.issueWrite
    (.ok (), { after with endings := after.endings.enter (after.time + delay) (run, result) })
  | (.neverEnds, after) => (.ok (), after.issueWrite.2)

/-- Waits, through the ends of writes that are to come, until a close returns. -/
def awaitClose (close : Nat) (log : SystemLog) (time : Int) :
    Agenda (Nat × Except Failure Unit) →
      Option (Option Failure × SystemLog × Int × Agenda (Nat × Except Failure Unit))
  | [] => (log.wake? close).map fun (failure, log) => (failure, log, time, [])
  | (due, run, result) :: rest =>
    match log.wake? close with
    | some (failure, log) => some (failure, log, time, (due, run, result) :: rest)
    | none => awaitClose close (log.settle run result) (max time due) rest

/-- Closes the system log: waits for the writes, and returns the first failure. There is no answer
if a write never ends. -/
def closeSystemLog (scene : Scene) : Option (Option Failure) × Scene :=
  let close := scene.issued
  match awaitClose close (scene.systemLog.close close) scene.time scene.endings with
  | some (failure, systemLog, time, endings) =>
    (some failure, { scene with issued := close + 1, systemLog, time, endings })
  | none => (none, { scene with issued := close + 1, systemLog := scene.systemLog.close close })

/-- Logs a message: a line is written if the logger writes its level, and all but debug messages go
to the system log. -/
def log (scene : Scene) (level : Level) (message : String) : Except Failure Unit × Scene :=
  let written := if scene.logger.writes level then scene.writeLine level message else scene
  match scene.systemLogTag with
  | some tag => if level = .debug then (.ok (), written) else written.writeSystemLog tag level message
  | none => (.ok (), written)

/-- Waits for the system log, and warns of its first failure unless that has nothing to say. There
is no answer if a write never ends. -/
def flush (scene : Scene) : Option Unit × Scene :=
  match scene.systemLogTag with
  | none => (some (), scene)
  | some _ =>
    match scene.closeSystemLog with
    | (none, after) => (none, after)
    | (some none, after) => (some (), after)
    | (some (some failure), after) =>
      (some (), if failure.isEmpty then after else after.writeLine .warning (systemLogFailed failure))

end Scene

end Sntp
