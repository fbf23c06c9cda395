import Mathlib.Data.List.Chain
import Sntp.Proofs.Network.Race
import Sntp.Proofs.Scene.Logging
import Sntp.Proofs.Sync.Acquisition
import Sntp.Simulation.Host

/-!
# The attempts of a run

An attempt on a host looks up the server and, if that succeeds, opens a socket, sends one request on
it and closes it, all before anything else happens (`play_shape`). What a run does to the network is
one attempt after the other, each beginning a pause after the one before, which must have failed with
a failure that calls for another (`perform_attempts_network`).
-/

set_option autoImplicit false

namespace Sntp

/-- Whether an effect has to do with the network. -/
def Effect.isNetwork : Effect → Bool
  | .lookup _ => true
  | .openSocket _ => true
  | .send _ _ _ => true
  | .closeSocket => true
  | _ => false

/-- The effects of a trace that have to do with the network. -/
def Trace.network (trace : Trace) : Trace := trace.filter fun entry => entry.2.isNetwork

/-- What two traces in a row have to do with the network is what each of them has. -/
@[simp] theorem Trace.network_append (first second : Trace) :
    Trace.network (first ++ second) = Trace.network first ++ Trace.network second := List.filter_append ..

namespace ExchangeScript

/-- What an attempt does to the network: a lookup and, if that succeeds, a socket that is opened, used
for one request and closed. -/
def Shapes (script : ExchangeScript) (start : Int) (run : QueryRun) : Prop :=
  match script.lookup with
  | .error _ => ∃ host, run.trace = [(start, .lookup host)] ∧ run.endTime = start
  | .ok resolved => ∃ host port,
      run.trace = [
        (start, .lookup host),
        (start, .openSocket (resolved.family = 6)),
        (start, .send Packet.request port resolved.address),
        (run.endTime, .closeSocket)] ∧ start ≤ run.endTime

/-- Every exchange has the shape of an attempt. -/
theorem play_shape (script : ExchangeScript) (clock : LocalClock) (start : Int) (endpoint : Endpoint)
    (timeoutMs : Int) : script.Shapes start (script.play clock start endpoint timeoutMs) := by
  unfold Shapes play
  cases script.lookup with
  | error cause => exact ⟨endpoint.host, rfl, rfl⟩
  | ok resolved => exact ⟨endpoint.host, endpoint.port, rfl, script.le_settle clock _ start⟩

example : Packet.request.length = 48 := rfl

/-- An attempt does not end before it starts. -/
theorem Shapes.le_endTime {script : ExchangeScript} {start : Int} {run : QueryRun} (h : script.Shapes start run) :
    start ≤ run.endTime := by
  unfold Shapes at h
  cases hlookup : script.lookup with
  | error cause =>
    rw [hlookup] at h
    obtain ⟨host, -, hend⟩ := h
    exact Int.le_of_eq hend.symm
  | ok resolved =>
    rw [hlookup] at h
    obtain ⟨host, port, -, hend⟩ := h
    exact hend

/-- All that an attempt does has to do with the network. -/
theorem Shapes.network_eq {script : ExchangeScript} {start : Int} {run : QueryRun} (h : script.Shapes start run) :
    Trace.network run.trace = run.trace := by
  unfold Shapes at h
  cases hlookup : script.lookup with
  | error cause =>
    rw [hlookup] at h
    obtain ⟨host, htrace, -⟩ := h
    rw [htrace]
    rfl
  | ok resolved =>
    rw [hlookup] at h
    obtain ⟨host, port, htrace, -⟩ := h
    rw [htrace]
    rfl

end ExchangeScript

/-- An attempt at a query: how many attempts were made before it, and when it starts. -/
structure Attempt where
  number : Nat
  start : Int

namespace Host

/-- The script of an attempt that a number of others precede. -/
def exchange (host : Host) (number : Nat) : ExchangeScript := scriptAfter noExchange host.exchanges number

/-- How an attempt goes. -/
def attempted (host : Host) (config : Config) (attempt : Attempt) : QueryRun :=
  (host.exchange attempt.number).play host.clock attempt.start
    (Endpoint.ofText config.server (Number.ofInt Packet.port)) config.timeoutMs

/-- Whether an attempt is the next one after another: it starts 200 milliseconds after that one ended
with a failure that calls for another attempt. -/
def Follows (host : Host) (config : Config) (earlier later : Attempt) : Prop :=
  later.number = earlier.number + 1 ∧ Reply.IsRetryable (host.attempted config earlier).result ∧
    later.start = (host.attempted config earlier).endTime + 200

/-- Whether an attempt is the next thing to be done on the network. -/
def Awaits (host : Host) (state : HostState) (attempt : Attempt) : Prop :=
  state.scene.time = attempt.start ∧
    ∀ number, scriptAfter noExchange state.exchanges number = host.exchange (attempt.number + number)

/-- Every attempt on a host has the shape of its script. -/
theorem attempted_shape (host : Host) (config : Config) (attempt : Attempt) :
    (host.exchange attempt.number).Shapes attempt.start (host.attempted config attempt) :=
  ExchangeScript.play_shape ..

/-- A host always answers to debug messages, which are not mirrored. -/
theorem attends_world (host : Host) : World.Attends host.world where
  debug message state := congrArg some (state.scene.log_eq_ok_of_local message (.inr rfl))
  query _ _ _ := rfl
  sleep _ _ := rfl

/-- A query plays the next exchange from the present time on. -/
theorem world_query (host : Host) (state : HostState) (server : String) (timeoutMs : Int) :
    host.world (.query server timeoutMs) state =
      let run := (nextScript noExchange state.exchanges).1.play host.clock state.scene.time
        (Endpoint.ofText server (Number.ofInt Packet.port)) timeoutMs
      (some run.result,
        { scene := { state.scene with trace := state.scene.trace ++ run.trace }.waitUntil run.endTime
          exchanges := (nextScript noExchange state.exchanges).2 }) := rfl

section

variable {host : Host} {config : Config} {state : HostState} {attempt : Attempt}

/-- A debug message adds to the console only. -/
theorem debugged_scene (message : String) (state : HostState) :
    state.scene.Grows Effect.IsConsole (host.world.debugged message state).scene :=
  state.scene.grows_log_debug message fun _ => trivial

/-- A debug message takes no time. -/
theorem debugged_time (message : String) (state : HostState) :
    (host.world.debugged message state).scene.time = state.scene.time := by
  show (state.scene.log .debug message).2.time = state.scene.time
  unfold Scene.log
  cases state.scene.systemLogTag <;> cases state.scene.logger.writes .debug <;> rfl

/-- What is added to the console leaves the network as it is. -/
theorem network_of_grows {scene later : Scene} (h : scene.Grows Effect.IsConsole later) :
    Trace.network later.trace = Trace.network scene.trace := by
  obtain ⟨added, htrace, hkind, -⟩ := h.added
  have hnone : Trace.network added = [] := by
    unfold Trace.network
    rw [List.filter_eq_nil_iff]
    intro entry hmem
    have hconsole := hkind entry hmem
    cases heffect : entry.2 <;> rw [heffect] at hconsole <;> first | exact hconsole.elim | simp [Effect.isNetwork]
  rw [htrace, Trace.network_append, hnone, List.append_nil]

/-- An attempt that is the next thing to be done is so after a debug message. -/
theorem Awaits.debugged (h : host.Awaits state attempt) (message : String) :
    host.Awaits (host.world.debugged message state) attempt :=
  ⟨(debugged_time message state).trans h.1, h.2⟩

/-- The next query is the attempt that is awaited, and leaves the one after it to be made at once. -/
theorem Awaits.query (h : host.Awaits state attempt) (config : Config) :
    ∃ after, host.world (.query config.server config.timeoutMs) state =
        (some (host.attempted config attempt).result, after) ∧
      after.scene.trace = state.scene.trace ++ (host.attempted config attempt).trace ∧
      host.Awaits after ⟨attempt.number + 1, (host.attempted config attempt).endTime⟩ := by
  have hscript : (nextScript noExchange state.exchanges).1 = host.exchange attempt.number :=
    (nextScript_fst noExchange state.exchanges).trans (h.2 0)
  have hquery : host.world (.query config.server config.timeoutMs) state =
      (some (host.attempted config attempt).result,
        { scene := { state.scene with trace := state.scene.trace ++ (host.attempted config attempt).trace }.waitUntil
            (host.attempted config attempt).endTime
          exchanges := (nextScript noExchange state.exchanges).2 }) := by
    rw [world_query, hscript, h.1]
    rfl
  refine ⟨_, hquery, rfl, ?_, fun number => ?_⟩
  · show max state.scene.time (host.attempted config attempt).endTime = _
    rw [h.1]
    exact Int.max_eq_right (host.attempted_shape config attempt).le_endTime
  · rw [scriptAfter_nextScript, h.2, Nat.add_right_comm]
    rfl

/-- A rest puts the next attempt off by 200 milliseconds. -/
theorem Awaits.sleep (h : host.Awaits state attempt) :
    host.Awaits (host.world (.sleep retryDelay) state).2 ⟨attempt.number, attempt.start + 200⟩ := by
  refine ⟨?_, h.2⟩
  show max state.scene.time (state.scene.time + 200) = _
  rw [h.1]
  exact Int.max_eq_right (by omega)

/-- The next attempt is put off only if one is left. -/
theorem Awaits.rested (h : host.Awaits state attempt) (left : Nat) :
    ∃ next, host.Awaits (host.world.rested left state) next ∧
      (left ≠ 0 → next = ⟨attempt.number, attempt.start + 200⟩) := by
  unfold World.rested
  by_cases hleft : left = 0
  · rw [if_pos hleft]
    exact ⟨attempt, h, fun hne => absurd hleft hne⟩
  · rw [if_neg hleft]
    exact ⟨_, h.sleep, fun _ => rfl⟩

/-- A rest leaves the network as it is. -/
theorem rested_network (left : Nat) (state : HostState) :
    Trace.network (host.world.rested left state).scene.trace = Trace.network state.scene.trace := by
  unfold World.rested
  by_cases hleft : left = 0
  · rw [if_pos hleft]
  · rw [if_neg hleft]
    rfl

/-- What the attempts do to the network is a number of attempts that follow each other, the first being
the one that is awaited. -/
theorem perform_attempts_network (config : Config) (last : Option Failure) (number left : Nat) (h : host.Awaits state attempt) :
    ∃ attempts : List Attempt, attempts.length ≤ left ∧ (∀ first ∈ attempts.head?, first = attempt) ∧
      attempts.IsChain (host.Follows config) ∧
      Trace.network (Task.perform host.world (config.attempts last number left) state).2.scene.trace =
        Trace.network state.scene.trace ++ attempts.flatMap fun attempt => (host.attempted config attempt).trace := by
  induction left generalizing last number state attempt with
  | zero => exact ⟨[], Nat.le_refl 0, by simp, .nil, by simp [Config.attempts]⟩
  | succ left ih =>
    obtain ⟨after, hquery, htrace, hawaits⟩ := (h.debugged (config.attemptLine number)).query config
    have hnetwork : Trace.network after.scene.trace =
        Trace.network state.scene.trace ++ (host.attempted config attempt).trace := by
      rw [htrace, Trace.network_append, network_of_grows (debugged_scene _ state),
        (host.attempted_shape config attempt).network_eq]
    rw [config.perform_attempts host.attends_world last number left state after _ hquery]
    cases hmeasured : Reply.measurement (host.attempted config attempt).result with
    | ok m => exact ⟨[attempt], by simp, by simp, by simp, by simpa using hnetwork⟩
    | error failure =>
      by_cases hretry : failure.isRetryable
      · have hfailed : Reply.IsRetryable (host.attempted config attempt).result :=
          (Reply.isRetryable_iff _).mpr ⟨failure, hmeasured, hretry⟩
        obtain ⟨later, hlater, hpause⟩ := (hawaits.debugged (attemptFailedLine number failure)).rested left
        obtain ⟨rest, hlength, hhead, hchain, htraces⟩ := ih (some failure) (number + 1) hlater
        have hfirst : ∀ first ∈ rest.head?, host.Follows config attempt first := by
          intro first hmem
          -- There is a next attempt only if one was left, and then there was the pause before it.
          have hleft : left ≠ 0 := by
            rintro rfl
            obtain rfl := List.length_eq_zero_iff.mp (Nat.le_zero.mp hlength)
            cases hmem
          rw [hhead first hmem, hpause hleft]
          exact ⟨rfl, hfailed, rfl⟩
        simp only [hretry, if_true]
        refine ⟨attempt :: rest, Nat.succ_le_succ hlength, by simp, ?_, ?_⟩
        · cases rest with
          | nil => exact .singleton attempt
          | cons first tail => exact .cons_cons (hfirst first (by simp)) hchain
        · rw [htraces, rested_network, network_of_grows (debugged_scene _ after), hnetwork, List.append_assoc,
            List.flatMap_cons]
      · simp only [hretry]
        exact ⟨[attempt], by simp, by simp, by simp, by simpa using hnetwork⟩

end

end Host

end Sntp
