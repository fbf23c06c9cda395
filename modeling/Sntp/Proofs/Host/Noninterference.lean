import Sntp.Proofs.Host.Discipline
import Sntp.Proofs.Network.Foreign
import Sntp.Proofs.Sync.Parts

/-!
# Foreign datagrams do not interfere

A run asks one port, whatever it is answered (`only_asks`). Two hosts whose exchanges differ in datagrams that are
foreign to that port answer every action of it alike, and go on differing in no more (`StatesAlike.world`), so that the
run goes the same way on both: it does the same to the world at the same times, and ends in the same way
(`execute_undisturbed`).
-/

set_option autoImplicit false

namespace Sntp

/-- The port that a run with a configuration asks. -/
def Config.port (config : Config) : Number := (Endpoint.ofText config.server (Number.ofInt Packet.port)).port

/-- Whether an action, if it asks a server, asks a certain one. -/
def Action.Asks (server : String) : Action → Prop
  | .query other _ => other = server
  | _ => True

/-- A synchronization asks the server of its configuration and no other. -/
theorem only_asks (config : Config) (method : String) :
    Task.Only (Action.Asks config.server) (config.synchronize method) := by
  refine only_synchronize config method (fun action hlog => ?_) rfl trivial fun sample estimate => ?_
  · cases action with
    | log level message => trivial
    | _ => exact hlog.elim
  · exact only_make sample estimate config.testOnly method trivial fun _ => trivial

namespace Host

variable (host : Host)

/-- The actions of a run, each with the time at which it is performed; nothing is performed unless the arguments are
accepted. -/
def timeline (env : Environment) (arguments : List String) : List (Int × Action) :=
  match Request.ofArguments env arguments with
  | .ok (.run config) =>
    (config.synchronize (ClockSetter.ofPlatform host.platform).method).run.history (fun state => state.scene.time)
      host.world (host.start config.verbose config.useSystemLog)
  | _ => []

/-- Whether two states are the same but for foreign datagrams in the exchanges that are to come. -/
structure StatesAlike (port : Number) (state twin : HostState) : Prop where
  scene_eq : twin.scene = state.scene
  exchanges : ∀ number, (scriptAfter noExchange state.exchanges number).Alike port
    (scriptAfter noExchange twin.exchanges number)

/-- Every action is answered alike in states that differ in foreign datagrams only, and leaves such states. -/
theorem StatesAlike.world {config : Config} {action : Action} {state twin : HostState}
    (h : StatesAlike config.port state twin) (hasks : action.Asks config.server) :
    (host.world action state).1 = (host.world action twin).1 ∧
      StatesAlike config.port (host.world action state).2 (host.world action twin).2 := by
  obtain ⟨scene, exchanges⟩ := state
  obtain ⟨scene', exchanges'⟩ := twin
  obtain ⟨hscene, hexchanges⟩ := h
  obtain rfl : scene' = scene := hscene
  cases action with
  | log level message => exact ⟨rfl, rfl, hexchanges⟩
  | query server timeoutMs =>
    -- The only action that hears of datagrams; the exchanges that are left are alike, too.
    obtain rfl : server = config.server := hasks
    have hplay : (nextScript noExchange exchanges').1.play host.clock scene'.time
        (Endpoint.ofText config.server (Number.ofInt Packet.port)) timeoutMs =
          (nextScript noExchange exchanges).1.play host.clock scene'.time
            (Endpoint.ofText config.server (Number.ofInt Packet.port)) timeoutMs := by
      rw [nextScript_fst, nextScript_fst]
      exact (hexchanges 0).play_eq host.clock scene'.time timeoutMs
    rw [world_query, world_query]
    simp only [hplay, true_and]
    refine ⟨rfl, fun number => ?_⟩
    rw [scriptAfter_nextScript, scriptAfter_nextScript]
    exact hexchanges (number + 1)
  | sleep ms => exact ⟨rfl, rfl, hexchanges⟩
  | isPrivileged => exact ⟨rfl, rfl, hexchanges⟩
  | setClock timeMs =>
    show (host.setClock _ timeMs).1 = (host.setClock _ timeMs).1 ∧
      StatesAlike config.port (host.setClock _ timeMs).2 (host.setClock _ timeMs).2
    unfold Host.setClock
    simp only []
    cases (ClockSetter.ofPlatform host.platform).command timeMs with
    | error failure => exact ⟨rfl, rfl, hexchanges⟩
    | ok arguments => exact ⟨rfl, rfl, hexchanges⟩

/-- How a run ends depends on the result of its synchronization and on the scene that this leaves. -/
theorem runConfig_eq_of_synchronize {host twin : Host} {config : Config}
    (hresult : (twin.synchronize config).1 = (host.synchronize config).1)
    (hscene : (twin.synchronize config).2.scene = (host.synchronize config).2.scene) :
    twin.runConfig config = host.runConfig config := by
  unfold runConfig
  match hfirst : host.synchronize config, hsecond : twin.synchronize config with
  | (none, state), (other, later) =>
    rw [hfirst, hsecond] at hresult hscene
    obtain rfl : other = none := hresult
    exact congrArg (Prod.mk none) hscene
  | (some outcome, state), (other, later) =>
    rw [hfirst, hsecond] at hresult hscene
    obtain rfl : other = some outcome := hresult
    show finish later outcome = finish state outcome
    unfold finish
    rw [show later.scene = state.scene from hscene]

/-- Foreign datagrams do not interfere with a run. Where the exchanges of a host are replaced by others that differ
from them in datagrams only that do not come from the address found for the server or not from the port asked, in
any number, of any contents and at any times, the run has the same exit code and leaves the same scene: all that it
does to the network, the commands and the console it does at the same times. It performs the same actions at the
same times too, its pauses among them. -/
theorem execute_undisturbed (env : Environment) (arguments : List String) (exchanges : List ExchangeScript)
    (halike : ∀ config, Request.ofArguments env arguments = .ok (.run config) →
      ∀ number, (host.exchange number).Alike config.port (scriptAfter noExchange exchanges number)) :
    { host with exchanges }.execute env arguments = host.execute env arguments ∧
      { host with exchanges }.timeline env arguments = host.timeline env arguments := by
  cases hrequest : Request.ofArguments env arguments with
  | error fault =>
    unfold execute timeline
    rw [hrequest]
    exact ⟨rfl, rfl⟩
  | ok request =>
    cases request with
    | help =>
      unfold execute timeline
      rw [hrequest]
      exact ⟨rfl, rfl⟩
    | run config =>
      have hstart : StatesAlike config.port (host.start config.verbose config.useSystemLog)
          ({ host with exchanges }.start config.verbose config.useSystemLog) := ⟨rfl, halike config hrequest⟩
      -- What a host answers does not depend on the exchanges that it was set up with.
      have hworld : ∀ action (state twin : HostState), action.Asks config.server → StatesAlike config.port state twin →
          (host.world action state).1 = ({ host with exchanges }.world action twin).1 ∧
            StatesAlike config.port (host.world action state).2 ({ host with exchanges }.world action twin).2 :=
        fun action state twin hasks hsame => hsame.world host hasks
      have honly := only_asks config (ClockSetter.ofPlatform host.platform).method
      constructor
      · obtain ⟨hresult, -, hsame⟩ := Program.run_alike hworld honly hstart
        rw [host.execute_eq hrequest, execute_eq _ hrequest]
        exact runConfig_eq_of_synchronize hresult.symm hsame.scene_eq
      · unfold timeline
        rw [hrequest]
        exact (Program.history_alike hworld (fun state twin hsame => congrArg Scene.time hsame.scene_eq.symm)
          honly hstart).symm

/-- Datagrams that no exchange of the host below asks for: an empty one from another address, and one from another
port of the server at the time of its response. -/
def intruders : List (Int × Occurrence) := [
  (0, .datagram [] "203.0.113.9" (Number.ofInt 123)),
  (100, .datagram (List.replicate 48 0xFF) "192.0.2.1" (Number.ofInt 124))]

/-- A host whose server is found at the second attempt sets its clock, whatever else comes in before the response. -/
theorem execute_undisturbed_late :
    let exchanges := (late [.success]).exchanges.map fun script => { script with events := intruders ++ script.events }
    { late [.success] with exchanges }.execute ⟨none, none, none, none⟩ [] =
        (late [.success]).execute ⟨none, none, none, none⟩ [] ∧
      ((late [.success]).execute ⟨none, none, none, none⟩ []).1 = some .success := by
  intro exchanges
  have halike : ∀ config, Request.ofArguments ⟨none, none, none, none⟩ [] = .ok (.run config) →
      ∀ number, ((late [.success]).exchange number).Alike config.port (scriptAfter noExchange exchanges number) := by
    intro config hconfig number
    obtain rfl : (⟨"pool.ntp.org", 2000, 3, false, false, false⟩ : Config) = config :=
      Request.run.inj (Except.ok.inj hconfig)
    have hinsert : ∀ script : ExchangeScript, (∀ event ∈ intruders, script.isForeign (Number.ofInt 123) event.2 = true) →
        script.Alike (Number.ofInt 123) { script with events := intruders ++ script.events } :=
      fun script hforeign => ExchangeScript.alike_of_insert [] rfl hforeign
    have hport : Config.port ⟨"pool.ntp.org", 2000, 3, false, false, false⟩ = Number.ofInt 123 := by decide
    rw [hport]
    match number with
    | 0 => exact hinsert ((late [.success]).exchange 0) (by decide)
    | 1 => exact hinsert ((late [.success]).exchange 1) (by decide)
    | _ + 2 => exact hinsert ((late [.success]).exchange 1) (by decide)
  exact ⟨(execute_undisturbed (late [.success]) ⟨none, none, none, none⟩ [] exchanges halike).1, by decide +kernel⟩

end Host

end Sntp
