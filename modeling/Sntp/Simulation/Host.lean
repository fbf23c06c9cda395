import Sntp.Options.Arguments
import Sntp.Simulation.Exchange
import Sntp.Simulation.Scene
import Sntp.Sync.Synchronize

/-!
# The program on a simulated host

A host has a network, commands, a local clock, a user and a console. `Host.execute` is the whole
program on it: it reads the arguments, synchronizes, waits for the system log and exits. A failure
that is no fault is told as unexpected, after the system log has been waited for and without writing
to it.
-/

set_option autoImplicit false

namespace Sntp

/-- A host before the program is started. -/
structure Host where
  clock : LocalClock
  /-- The exchanges of the queries, one after the other; the last one stays. -/
  exchanges : List ExchangeScript
  /-- The runs of each command. -/
  scripts : List (String × List CommandScript)
  platform : String
  euid : Option Int
  isTerminal : Bool

/-- A host on which a run is under way. -/
structure HostState where
  scene : Scene
  exchanges : List ExchangeScript

namespace Host

/-- An exchange for which there is no script: the name service does not answer for the host. -/
def noExchange : ExchangeScript where
  lookup := .error (.datum .null)
  events := []
  send := .reported 0 none

/-- Plays the next exchange with a server, which ends at a later time. -/
def query (host : Host) (state : HostState) (server : String) (timeoutMs : Int) :
    Except Failure Exchange × HostState :=
  let (script, exchanges) := nextScript noExchange state.exchanges
  let endpoint := Endpoint.ofText server (Number.ofInt Packet.port)
  let played := script.play host.clock state.scene.time endpoint timeoutMs
  let scene := { state.scene with trace := state.scene.trace ++ played.trace }
  (played.result, { scene := scene.waitUntil played.endTime, exchanges })

/-- Sets the clock with the command of the platform, if there is one. -/
def setClock (host : Host) (state : HostState) (ms : Number) : Option (Except Failure Unit) × HostState :=
  let setter := ClockSetter.ofPlatform host.platform
  match setter.command ms with
  | .error failure => (some (.error failure), state)
  | .ok arguments =>
    let (result, scene) := state.scene.runCommand ClockSetter.dateCommandName arguments
    (result.map setter.conclude, { state with scene })

/-- The host as the world of a run: it answers from its scripts, and time passes with every answer. -/
def world (host : Host) : World HostState
  | .log level message, state =>
    let (result, scene) := state.scene.log level message
    (some result, { state with scene })
  | .query server timeoutMs, state =>
    let (result, after) := host.query state server timeoutMs
    (some result, after)
  | .sleep ms, state => (some (), { state with scene := state.scene.waitUntil (state.scene.time + ms) })
  | .isPrivileged, state => (some (isPrivilegedUser host.euid), state)
  | .setClock timeMs, state => host.setClock state timeMs

/-- The state in which a run starts that logs in a certain way. -/
def start (host : Host) (verbose useSystemLog : Bool) : HostState where
  scene := Scene.opening { verbose, color := host.isTerminal } (.running host.clock)
    (if useSystemLog then some systemLogTag else none) host.scripts
  exchanges := host.exchanges

/-- The exit code of a run that ended unexpectedly. -/
def unexpectedExit : ExitCode := .invalidResponse

/-- The words about a failure that is no fault. -/
def unexpected (failure : Failure) : String := "Unexpected error: " ++ failure.summary

/-- Ends a run: waits for the system log and gives the exit code. -/
def finish (state : HostState) (outcome : Except Failure Outcome) : Option ExitCode × Scene :=
  match state.scene.flush with
  | (none, scene) => (none, scene)
  | (some (), scene) =>
    match outcome with
    | .ok outcome => (some outcome.exitCode, scene)
    | .error failure => (some unexpectedExit, scene.writeLine .error (unexpected failure))

/-- Runs the synchronization with a configuration, up to the waiting for the system log. -/
def synchronize (host : Host) (config : Config) : Option (Except Failure Outcome) × HostState :=
  (config.synchronize (ClockSetter.ofPlatform host.platform).method).run.run host.world
    (host.start config.verbose config.useSystemLog)

/-- Runs the program with a configuration. -/
def runConfig (host : Host) (config : Config) : Option ExitCode × Scene :=
  match host.synchronize config with
  | (none, state) => (none, state.scene)
  | (some outcome, state) => finish state outcome

/-- Runs the program: the exit code, unless the run never ends, and the scene that it leaves. -/
def execute (host : Host) (env : Environment) (arguments : List String) : Option ExitCode × Scene :=
  let plain := (host.start false false).scene
  match Request.ofArguments env arguments with
  | .error fault =>
    (some fault.exitCode, (plain.writeLine .error (Failure.fault fault).message).record (.text usage))
  | .ok .help => (some .success, plain.record (.text usage))
  | .ok (.run config) => host.runConfig config

end Host

end Sntp
