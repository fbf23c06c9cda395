import Sntp.Proofs.Clock.Gates
import Sntp.Proofs.Rehearsal.Foresight

/-!
# When a rehearsal sets the clock

A run sets the clock at most once, and exactly if the first reply that calls for no other attempt
brings a response whose times pass every gate, outside of test mode and with privilege
(`settings_synchronize_iff`). For that the way to the decision must be clear: every message can be
logged, and the local times name moments, so that the report can be written
(`linesWritten_of_isoTime_ok`).
-/

set_option autoImplicit false

namespace Sntp

open Number

/-- Whether the local times of a reply are whole milliseconds that name moments. -/
def Reply.IsTimed : Reply → Prop
  | .ok exchange => ∃ sent received : Int, exchange.localSendMs = ofInt sent ∧ exchange.localRecvMs = ofInt received ∧
      sent.natAbs ≤ 8640000000000000 ∧ received.natAbs ≤ 8640000000000000
  | .error _ => True

namespace Rehearsal

/-- A measurement of a timed exchange is made of whole milliseconds, and its times can be written. -/
theorem isoTime_ok_of_isTimed {exchange : Exchange} {response : Response} {m : Measurement}
    (htimed : Reply.IsTimed (.ok exchange)) (hresponse : Response.ofBytes exchange.response = .ok response)
    (hm : m = ⟨exchange, response, ⟨exchange.localSendMs, exchange.localRecvMs, response.transmitMs⟩⟩) :
    (∃ text, isoTime m.sample.localRecvMs = .ok text) ∧ ∃ text, isoTime m.sample.remoteMs = .ok text := by
  subst hm
  obtain ⟨sent, received, -, hreceived, -, hbound⟩ := htimed
  obtain ⟨hlow, hhigh⟩ := Response.transmitMs_bounds hresponse
  unfold Packet.lastMillis at hhigh
  constructor
  · simp only [hreceived]
    exact isoTime_ofInt (by omega) (by omega)
  · exact isoTime_ofInt (by omega) (by omega)

/-- The lines about a measurement can be written if its two times can be told. -/
theorem linesWritten_of_isoTime_ok (config : Config) {m : Measurement} (estimate : Estimate)
    (hlocal : ∃ text, isoTime m.sample.localRecvMs = .ok text)
    (hremote : ∃ text, isoTime m.sample.remoteMs = .ok text) : linesWritten (m.lines config estimate) = .ok () := by
  obtain ⟨localText, hlocal⟩ := hlocal
  obtain ⟨remoteText, hremote⟩ := hremote
  unfold Measurement.lines
  rw [hlocal, hremote]
  rfl

/-- The first reply that calls for no other attempt is an exchange whose times pass the gates exactly
if the replies leave a time to set. -/
theorem decisive_iff (config : Config) (r : Rehearsal) (timeMs : Int)
    (htimed : ∀ number, number < config.retries.toNat → (r.reply number).IsTimed) :
    (∃ number exchange response offset trip,
      number < config.retries.toNat ∧ (∀ earlier, earlier < number → (r.reply earlier).IsRetryable) ∧
      r.reply number = .ok exchange ∧ Response.ofBytes exchange.response = .ok response ∧
      Sample.estimate ⟨exchange.localSendMs, exchange.localRecvMs, response.transmitMs⟩ =
        .ok { offsetMs := ofInt offset, rttMs := ofInt trip } ∧
      PassesGates response.transmitMs offset trip ∧ timeMs = response.transmitMs + trip.tdiv 2) ↔
    ∃ m estimate, config.Leaves (r.nextReplies config.retries.toNat) m estimate timeMs := by
  constructor
  · rintro ⟨number, exchange, response, offset, trip, hnumber, hretry, hreply, hresponse, hestimate, hpasses, htime⟩
    let m : Measurement := ⟨exchange, response, ⟨exchange.localSendMs, exchange.localRecvMs, response.transmitMs⟩⟩
    have hmeasured : (r.reply number).measurement = .ok m :=
      ((r.reply number).measurement_ok_iff m).mpr ⟨exchange, response, hreply, hresponse, rfl⟩
    have hgot := (config.acquired_eq_ok_iff none r.reply _ m).mpr ⟨number, hnumber, hretry, hmeasured⟩
    obtain ⟨hlow, hhigh⟩ := Response.transmitMs_bounds hresponse
    obtain ⟨hlocal, hremote⟩ := isoTime_ok_of_isTimed (m := m) (hreply ▸ htimed number hnumber) hresponse rfl
    exact ⟨m, _, hgot, hestimate, linesWritten_of_isoTime_ok config _ hlocal hremote,
      (assess_eq_inr_iff timeMs rfl hlow hhigh rfl).mpr ⟨hpasses, htime⟩⟩
  · rintro ⟨m, estimate, hleaves⟩
    obtain ⟨number, hnumber, hretry, hmeasured⟩ := (config.acquired_eq_ok_iff none r.reply _ m).mp hleaves.acquired
    obtain ⟨exchange, response, hreply, hresponse, rfl⟩ := ((r.reply number).measurement_ok_iff m).mp hmeasured
    obtain ⟨hlow, hhigh⟩ := Response.transmitMs_bounds hresponse
    have hestimate := hleaves.estimated
    obtain ⟨sent, received, remote, -, rfl⟩ := (Sample.estimate_eq_ok_iff _ estimate).mp hestimate
    obtain ⟨hpasses, htime⟩ := (assess_eq_inr_iff timeMs rfl hlow hhigh rfl).mp hleaves.assessed
    exact ⟨number, exchange, response, _, _, hnumber, hretry, hreply, hresponse, hestimate, hpasses, htime⟩

/-- A run sets the clock at most once. It does so exactly if the first of the allowed replies that
calls for no other attempt is an exchange whose response is read, an estimate is formed of its times,
the gates are passed, and neither test mode nor a lack of privilege stands in the way; and it sets the
clock to the server's time and half of the round trip. -/
theorem settings_synchronize_iff (config : Config) (method : String) (r : Rehearsal) (hfree : r.scene.LogsFreely)
    (htimed : ∀ number, number < config.retries.toNat → (r.reply number).IsTimed) :
    (settings (Task.actions world (config.synchronize method) r)).length ≤ 1 ∧
      ∀ timeMs, timeMs ∈ settings (Task.actions world (config.synchronize method) r) ↔
        (∃ number exchange response offset trip,
          number < config.retries.toNat ∧ (∀ earlier, earlier < number → (r.reply earlier).IsRetryable) ∧
          r.reply number = .ok exchange ∧ Response.ofBytes exchange.response = .ok response ∧
          Sample.estimate ⟨exchange.localSendMs, exchange.localRecvMs, response.transmitMs⟩ =
            .ok { offsetMs := ofInt offset, rttMs := ofInt trip } ∧
          PassesGates response.transmitMs offset trip ∧ timeMs = response.transmitMs + trip.tdiv 2) ∧
        config.testOnly = false ∧ r.privileged = true := by
  by_cases hleaves : ∃ m estimate timeMs, config.Leaves (r.nextReplies config.retries.toNat) m estimate timeMs
  · obtain ⟨m, estimate, settled, hleaves⟩ := hleaves
    rw [settings_of_leaves method hfree hleaves]
    constructor
    · split
      all_goals simp
    · intro timeMs
      rw [decisive_iff config r timeMs htimed]
      by_cases hallowed : config.testOnly = false ∧ r.privileged = true
      · rw [if_pos hallowed, List.mem_singleton]
        constructor
        · rintro rfl
          exact ⟨⟨m, estimate, hleaves⟩, hallowed⟩
        · -- No two times are left of the same replies.
          rintro ⟨⟨m', estimate', hleaves'⟩, -⟩
          exact hleaves'.unique hleaves
      · simp [hallowed]
  · have hnone : ∀ m estimate timeMs, ¬ config.Leaves (r.nextReplies config.retries.toNat) m estimate timeMs :=
      fun m estimate timeMs h => hleaves ⟨m, estimate, timeMs, h⟩
    rw [settings_of_not_leaves method hfree hnone]
    refine ⟨Nat.zero_le 1, fun timeMs => ?_⟩
    rw [decisive_iff config r timeMs htimed]
    simp [hnone]

set_option maxRecDepth 4000 in
/-- After an attempt without an answer the clock is set by the second one. -/
theorem settings_silentAtFirst :
    (settings (Task.actions world (threeAttempts.synchronize "date") (silentAtFirst true))).length ≤ 1 ∧
      1750000000050 ∈ settings (Task.actions world (threeAttempts.synchronize "date") (silentAtFirst true)) := by
  have htimed : ∀ number, number < threeAttempts.retries.toNat → ((silentAtFirst true).reply number).IsTimed := by
    intro number _
    match number with
    | 0 => trivial
    | 1 => exact ⟨_, _, rfl, rfl, by decide, by decide⟩
    | _ + 2 => exact ⟨_, _, rfl, rfl, by decide, by decide⟩
  have hiff := settings_synchronize_iff threeAttempts "date" (silentAtFirst true) (.inl rfl) htimed
  have hretry : ∀ earlier, earlier < 1 → ((silentAtFirst true).reply earlier).IsRetryable := by
    intro earlier hearlier
    obtain rfl : earlier = 0 := by omega
    rfl
  have hresponse : Response.ofBytes lateExchange.response = .ok
      { leap := 0, version := 4, mode := 4, stratum := 1, poll := 0, precision := 0, rootDelay := 0,
        rootDispersion := 0, reference := "", seconds := 3958988800, fraction := 0, transmitMs := 1750000000000 } := rfl
  have hyear : utcYear? (ofInt 1750000000000) = some 2025 := by decide +kernel
  have hpasses : PassesGates 1750000000000 9950 100 :=
    ⟨by decide, by decide, by decide, 2025, hyear, by decide, by decide⟩
  exact ⟨hiff.1, (hiff.2 _).mpr ⟨⟨1, lateExchange, _, 9950, 100, by decide, hretry, rfl, hresponse, rfl, hpasses, rfl⟩,
    rfl, rfl⟩⟩

end Rehearsal

end Sntp
