import Sntp.Packet.Timestamp
import Sntp.Proofs.Number.Products

/-!
# Timestamps in milliseconds

The milliseconds of a timestamp are the exact time in milliseconds, rounded down (`unixMillis_eq`). Doubles come to the
same number (`roundedMillis_eq`): the seconds and the fraction stay integers of at most 53 bits when they are multiplied
by a thousand, and the fraction is then divided by a power of two. So a later timestamp is never read as an earlier time
(`unixMillis_mono`), and with its fraction rounded up a timestamp writes any millisecond that it can reach
(`unixMillis_timestampOf`).
-/

set_option autoImplicit false

namespace Sntp.Packet

open Number

/-- The milliseconds since 1970-01-01 of a timestamp, in double precision. -/
def roundedMillis (seconds fraction : Nat) : Except Fault Number :=
  if (ofInt seconds).lt (ofInt epochSeconds) then .error (.earlyTimestamp seconds)
  else
    .ok ((((ofInt seconds).sub (ofInt epochSeconds)).times 1000).add
      (((ofInt fraction).times 1000).dividedBy fractionScale).floored)

/-- The seconds and the fraction of the timestamp that is written for a time in milliseconds since 1970-01-01; the fraction
is rounded up. -/
def timestampOf (ms : Nat) : Nat × Nat :=
  (epochSeconds + ms / 1000, ⌈((ms % 1000 * fractionScale : Int) : Rat) / (1000 : Nat)⌉.toNat)

section

variable {seconds fraction : Nat}

/-- Doubles come to the same milliseconds as exact integers. -/
theorem roundedMillis_eq (hseconds : seconds < 2 ^ 32) (hfraction : fraction < 2 ^ 32) :
    roundedMillis seconds fraction = (unixMillis seconds fraction).map ofInt := by
  unfold roundedMillis unixMillis
  rw [lt_ofInt]
  by_cases hearly : seconds < epochSeconds
  · rw [if_pos (decide_eq_true (Int.ofNat_lt.mpr hearly)), if_pos hearly]
    rfl
  rw [if_neg (by simpa using hearly), if_neg hearly]
  have hsince : (ofInt seconds).sub (ofInt epochSeconds) = ofInt (seconds - epochSeconds) := by
    rw [sub_ofInt, Number.round_intCast (by unfold epochSeconds at *; omega)]
  have hwhole : (ofInt (seconds - epochSeconds)).times 1000 = ofInt ((seconds - epochSeconds) * 1000) := by
    rw [times_ofInt]
    exact Number.round_intCast (by unfold epochSeconds at *; omega)
  have hparts : (ofInt fraction).times 1000 = ofInt (fraction * 1000) := by
    rw [times_ofInt]
    exact Number.round_intCast (by omega)
  have hrest : ((ofInt (fraction * 1000)).dividedBy fractionScale).floored = ofInt (fraction * 1000 / fractionScale) := by
    have hquotient : (ofInt (fraction * 1000)).dividedBy fractionScale = _ :=
      dividedBy_two_pow (n := fraction * 1000) (k := 32) (by omega) (by decide)
    rw [hquotient]
    exact congrArg ofInt (Rat.floor_intCast_div_natCast (fraction * 1000) fractionScale)
  rw [hsince, hwhole, hparts, hrest, add_ofInt, Number.round_intCast (by unfold epochSeconds fractionScale at *; omega)]
  show Except.ok _ = Except.ok _
  congr 2
  unfold epochSeconds fractionScale at *
  omega

/-- The milliseconds of a timestamp of `fractionScale` parts a second, by one division. -/
theorem unixMillis_eq (hepoch : epochSeconds ≤ seconds) :
    unixMillis seconds fraction = .ok (((seconds - epochSeconds) * fractionScale + fraction) * 1000 / fractionScale : Nat) := by
  unfold unixMillis
  rw [if_neg (by omega), Nat.add_mul, Nat.mul_right_comm, Nat.add_comm, Nat.add_comm (_ * 1000 * _),
    Nat.add_mul_div_right _ _ (by decide)]

/-- A time before 1970 is refused. -/
theorem unixMillis_early (hearly : seconds < epochSeconds) : unixMillis seconds fraction = .error (.earlyTimestamp seconds) :=
  if_pos hearly

/-- A time that is converted is not before 1970. -/
theorem epochSeconds_le_of_unixMillis {ms : Int} (h : unixMillis seconds fraction = .ok ms) : epochSeconds ≤ seconds := by
  by_contra hearly
  rw [unixMillis_early (by omega)] at h
  cases h

/-- A later timestamp is a later time, or the same one. -/
theorem unixMillis_mono {seconds' fraction' : Nat} {ms ms' : Int}
    (hle : seconds * fractionScale + fraction ≤ seconds' * fractionScale + fraction') (h : unixMillis seconds fraction = .ok ms)
    (h' : unixMillis seconds' fraction' = .ok ms') : ms ≤ ms' := by
  have hepoch := epochSeconds_le_of_unixMillis h
  have hepoch' := epochSeconds_le_of_unixMillis h'
  rw [unixMillis_eq hepoch] at h
  rw [unixMillis_eq hepoch'] at h'
  cases h
  cases h'
  apply Int.ofNat_le.mpr
  apply Nat.div_le_div_right
  apply Nat.mul_le_mul_right
  rw [Nat.sub_mul, Nat.sub_mul]
  have hepochParts := Nat.mul_le_mul_right fractionScale hepoch
  have hepochParts' := Nat.mul_le_mul_right fractionScale hepoch'
  omega

end

/-- The timestamp of a number of milliseconds has its full seconds, and a fraction that is rounded up. -/
theorem timestampOf_eq (ms : Nat) :
    timestampOf ms = (epochSeconds + ms / 1000, (ms % 1000 * fractionScale + 999) / 1000) := by
  unfold timestampOf
  rw [Rat.ceil_intCast_div_natCast]
  congr 1
  unfold fractionScale
  omega

/-- A timestamp writes any millisecond that it can reach: read back, its fraction, which is rounded up, gives the same
millisecond. -/
theorem unixMillis_timestampOf (ms : Nat) : unixMillis (timestampOf ms).1 (timestampOf ms).2 = .ok ms := by
  rw [timestampOf_eq, unixMillis_eq (Nat.le_add_right _ _)]
  congr 2
  unfold fractionScale
  omega

/-- In double precision the milliseconds of a timestamp are those of its exact time, rounded down, and a time before 1970 is
refused. Where it is defined, the conversion is monotone in the seconds and the fraction together. Every millisecond until
the last one that a timestamp reaches has a timestamp that is converted to it. -/
theorem unixMillis_exact :
    (∀ seconds fraction, seconds < 2 ^ 32 → fraction < 2 ^ 32 →
      roundedMillis seconds fraction = (unixMillis seconds fraction).map ofInt ∧
      unixMillis seconds fraction =
        if 2208988800 ≤ seconds then
          .ok ⌊((((seconds - 2208988800) * 2 ^ 32 + fraction) * 1000 : Int) : Rat) / ((2 ^ 32 : Nat) : Rat)⌋
        else .error (.earlyTimestamp seconds)) ∧
    (∀ seconds fraction seconds' fraction' ms ms',
      seconds * 2 ^ 32 + fraction ≤ seconds' * 2 ^ 32 + fraction' →
      unixMillis seconds fraction = .ok ms → unixMillis seconds' fraction' = .ok ms' → ms ≤ ms') ∧
    (∀ ms, ms ≤ 2085978495999 →
      timestampOf ms = (2208988800 + ms / 1000, ⌈((ms % 1000 * 2 ^ 32 : Int) : Rat) / ((1000 : Nat) : Rat)⌉.toNat) ∧
      (timestampOf ms).1 < 2 ^ 32 ∧ (timestampOf ms).2 < 2 ^ 32 ∧
      unixMillis (timestampOf ms).1 (timestampOf ms).2 = .ok ms) := by
  refine ⟨fun seconds fraction hseconds hfraction => ⟨roundedMillis_eq hseconds hfraction, ?_⟩, ?_, ?_⟩
  · rw [Rat.floor_intCast_div_natCast]
    by_cases hepoch : 2208988800 ≤ seconds
    · rw [if_pos hepoch, unixMillis_eq hepoch]
      congr 1
      unfold epochSeconds fractionScale at *
      omega
    · rw [if_neg hepoch]
      exact unixMillis_early (Nat.lt_of_not_le hepoch)
  · intro seconds fraction seconds' fraction' ms ms' hle h h'
    exact unixMillis_mono hle h h'
  · intro ms hlast
    refine ⟨rfl, ?_, ?_, unixMillis_timestampOf ms⟩
    · rw [timestampOf_eq]
      unfold epochSeconds
      omega
    · rw [timestampOf_eq]
      unfold fractionScale
      omega

/-- The last millisecond of the last second has a timestamp that is converted to it. -/
theorem unixMillis_exact_lastMoment :
    2085978495999 ≤ 2085978495999 ∧ timestampOf 2085978495999 = (4294967295, 4290672329) ∧
      unixMillis 4294967295 4290672329 = .ok 2085978495999 ∧
      roundedMillis 4294967295 4290672329 = .ok (ofInt 2085978495999) := by
  have hparts : timestampOf 2085978495999 = (4294967295, 4290672329) := timestampOf_eq 2085978495999
  obtain ⟨hexact, -, hback⟩ := unixMillis_exact
  have hread := (hback 2085978495999 (Nat.le_refl _)).2.2.2
  rw [hparts] at hread
  refine ⟨Nat.le_refl _, hparts, hread, ?_⟩
  rw [(hexact 4294967295 4290672329 (by decide) (by decide)).1, hread]
  rfl

end Sntp.Packet
