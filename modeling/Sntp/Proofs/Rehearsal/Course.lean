import Sntp.Proofs.Scene.Logging
import Sntp.Proofs.Sync.Settings
import Sntp.Simulation.Rehearsal

/-!
# The course of a rehearsal

A rehearsal answers every query, pause and debug message (`attends_world`), and the answers to its
queries are a sequence (`Rehearsal.reply`). What getting the time comes to is therefore computed from
the first of them alone (`perform_acquire`). Privilege and clock setter stay as they are through a
whole run, and so does the freedom to log (`keeps_perform`).
-/

set_option autoImplicit false

namespace Sntp

namespace Rehearsal

/-- The answer to a query, a number of queries from now. -/
def reply (r : Rehearsal) (number : Nat) : Reply := scriptAfter noReply r.replies number

/-- The answers to a number of next queries. -/
def nextReplies (r : Rehearsal) (count : Nat) : List Reply := (List.range count).map r.reply

/-- The first of the next answers comes before those that are left after it. -/
theorem nextReplies_succ (r : Rehearsal) (count : Nat) :
    r.nextReplies (count + 1) = r.reply 0 :: { r with replies := (nextScript noReply r.replies).2 }.nextReplies count := by
  unfold nextReplies
  rw [List.range_succ_eq_map, List.map_cons, List.map_map]
  congr 1
  refine List.map_congr_left fun number _ => ?_
  exact (scriptAfter_nextScript noReply r.replies number).symm

/-- Rehearsals with the same answers have the same next answers. -/
theorem nextReplies_congr {r other : Rehearsal} (h : r.replies = other.replies) (count : Nat) :
    r.nextReplies count = other.nextReplies count := by
  unfold nextReplies reply
  rw [h]

/-- What holds of every answer to a number of next queries holds of each of their list. -/
theorem forall_mem_nextReplies {r : Rehearsal} {count : Nat} {property : Reply → Prop}
    (h : ∀ number, number < count → property (r.reply number)) : ∀ reply ∈ r.nextReplies count, property reply := by
  intro reply hmem
  obtain ⟨number, hnumber, rfl⟩ := List.mem_map.mp hmem
  exact h number (List.mem_range.mp hnumber)

/-- How a later rehearsal comes from one: nothing but its scene and its answers change. -/
structure Keeps (r later : Rehearsal) : Prop where
  privileged_eq : later.privileged = r.privileged
  setter_eq : later.setter = r.setter
  scene_grows : r.scene.Grows (fun _ => True) later.scene

/-- A rehearsal comes from itself. -/
theorem Keeps.refl (r : Rehearsal) : r.Keeps r := ⟨rfl, rfl, .refl _ _⟩

/-- What comes from a later rehearsal comes from the first one. -/
theorem Keeps.trans (r later last : Rehearsal) (first : r.Keeps later) (second : later.Keeps last) : r.Keeps last :=
  ⟨second.privileged_eq.trans first.privileged_eq, second.setter_eq.trans first.setter_eq,
    first.scene_grows.trans second.scene_grows⟩

/-- Noting an effect changes nothing but the scene. -/
theorem keeps_record (r : Rehearsal) {effect : Effect} (hcommand : ∀ name, ¬ effect.IsRunOf name) :
    r.Keeps (r.record effect) := ⟨rfl, rfl, r.scene.grows_record trivial hcommand⟩

/-- Setting the clock changes nothing but the scene. -/
theorem keeps_setClock (r : Rehearsal) (ms : Number) : r.Keeps (r.setClock ms).2 := by
  unfold setClock
  cases hsetter : r.setter with
  | actor method behaviour => exact r.keeps_record fun _ h => h
  | real setter =>
    simp only []
    cases setter.command ms with
    | error failure => exact .refl r
    | ok arguments => exact ⟨rfl, hsetter.symm, r.scene.grows_runCommand _ arguments trivial⟩

/-- An answer changes nothing but the scene and the answers that are left. -/
theorem keeps_world (action : Action) (r : Rehearsal) : r.Keeps (world action r).2 := by
  cases action with
  | log level message => exact ⟨rfl, rfl, r.scene.grows_log level message fun _ _ => trivial⟩
  | query server timeoutMs =>
    have hrecord : r.Keeps (r.record (.query server timeoutMs)) := r.keeps_record fun _ h => h
    exact ⟨hrecord.privileged_eq, hrecord.setter_eq, hrecord.scene_grows⟩
  | sleep ms => exact r.keeps_record fun _ h => h
  | isPrivileged => exact r.keeps_record fun _ h => h
  | setClock timeMs => exact r.keeps_setClock timeMs

/-- No run changes who may set the clock, and with what. -/
theorem keeps_perform {α : Type} (task : Task α) (r : Rehearsal) : r.Keeps (Task.perform world task r).2 := by
  have hany : task.run.Only fun _ => True := Program.only_true task.run
  exact Program.run_relates Keeps Keeps.refl Keeps.trans (fun action r _ => keeps_world action r) hany r

/-- A rehearsal always answers to queries, pauses and debug messages. -/
theorem attends_world : World.Attends world where
  debug message r := congrArg some (r.scene.log_eq_ok_of_local message (.inr rfl))
  query _ _ _ := rfl
  sleep _ _ := rfl

/-- A query, as an attempt makes it, brings the next answer. -/
theorem world_query_debugged (server : String) (timeoutMs : Int) (message : String) (r : Rehearsal) :
    world (.query server timeoutMs) (world.debugged message r) =
      (some (r.reply 0), (world (.query server timeoutMs) (world.debugged message r)).2) :=
  congrArg (fun reply => (some reply, _)) (nextScript_fst noReply r.replies)

/-- A rest uses up no answers. -/
theorem rested_replies (left : Nat) (r : Rehearsal) : (world.rested left r).replies = r.replies := by
  unfold World.rested
  by_cases hleft : left = 0
  · rw [if_pos hleft]
  · rw [if_neg hleft]
    rfl

/-- The attempts come to what is got from as many answers. -/
theorem perform_attempts (config : Config) (last : Option Failure) (number left : Nat) (r : Rehearsal) :
    (Task.perform world (config.attempts last number left) r).1 = some (config.acquired last (r.nextReplies left)) := by
  induction left generalizing last number r with
  | zero => rfl
  | succ left ih =>
    have hquery := world_query_debugged config.server config.timeoutMs (config.attemptLine number) r
    rw [config.perform_attempts attends_world last number left r _ _ hquery, nextReplies_succ]
    simp only [Config.acquired]
    cases (r.reply 0).measurement with
    | ok m => rfl
    | error failure =>
      by_cases hretry : failure.isRetryable
      · simp only [hretry, if_true]
        rw [ih]
        rw [nextReplies_congr (rested_replies left _)]
        rfl
      · simp [hretry]

/-- Getting the time comes to what is got from as many answers as attempts are allowed. -/
theorem perform_acquire (config : Config) (r : Rehearsal) :
    (Task.perform world config.acquire r).1 = some (config.acquired none (r.nextReplies config.retries.toNat)) :=
  perform_attempts config none 1 config.retries.toNat r

/-- The failure of a query that no one answers. -/
def silence : Reply := .error (.fault (.noResponse "192.0.2.1" 2000))

/-- An exchange with a server that tells 2025-06-15, by a local clock that is ten seconds behind. -/
def lateExchange : Exchange where
  localSendMs := Number.ofInt 1749999990000
  localRecvMs := Number.ofInt 1749999990100
  response := [0x24, 1, 0, 0] ++ List.replicate 36 0 ++ [0xEB, 0xF9, 0x60, 0x00, 0, 0, 0, 0]
  address := "192.0.2.1"

/-- A rehearsal in which the first query is not answered and the second one is. -/
def silentAtFirst (privileged : Bool) : Rehearsal where
  scene := Scene.opening { verbose := false, color := false } (.fixed 0) none []
  privileged := privileged
  setter := .standIn "date" none
  replies := [silence, .ok lateExchange]

/-- A configuration with three attempts and nothing switched on. -/
def threeAttempts : Config where
  server := "pool.ntp.org"
  timeoutMs := 2000
  retries := 3
  verbose := false
  testOnly := false
  useSystemLog := false

end Rehearsal

end Sntp
