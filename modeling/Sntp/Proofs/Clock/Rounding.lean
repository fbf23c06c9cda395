import Sntp.Proofs.Clock.Estimate
import Sntp.Proofs.Number.Sums

/-!
# Estimates in double precision

In double precision an operation has a result before the result is checked, and it is rounded (`checkedRounded`,
`Sample.roundedEstimate`). It passes the check exactly where the exact result is a safe integer, and is then that
integer. So doubles come to the estimate of exact integers, or to the same fault (`Sample.roundedEstimate_eq`), and what
is known of these holds of any three numbers (`Sample.estimate_verdict`).
-/

set_option autoImplicit false

namespace Sntp

open Number

/-- The result of an operation in double precision, if it is a safe integer and both numbers are. -/
def checkedRounded (operation : String) (a b result : Number) : Except Fault Number :=
  if a.safeInteger?.isSome ∧ b.safeInteger?.isSome ∧ result.safeInteger?.isSome then .ok result
  else .error (.overflow operation a b)

/-- The estimate in double precision: the two local times are added, the offset is the server's time less half of the
sum without its fraction, and the round trip is the difference of the local times. -/
def Sample.roundedEstimate (sample : Sample) : Except Fault Estimate := do
  let sum ← checkedRounded "+" sample.localSendMs sample.localRecvMs (sample.localSendMs.add sample.localRecvMs)
  let middle := sum.halfTruncated
  let offset ← checkedRounded "-" sample.remoteMs middle (sample.remoteMs.sub middle)
  let trip ← checkedRounded "-" sample.localRecvMs sample.localSendMs (sample.localRecvMs.sub sample.localSendMs)
  return { offsetMs := offset, rttMs := trip }

/-- Where the result of two integers is rounded, it passes the check exactly if it is a safe integer without rounding. -/
theorem checkedRounded_eq (operation : String) {apply : Int → Int → Int} {a b result : Number}
    (hresult : ∀ m n, a = ofInt m → b = ofInt n → result = Number.round ((apply m n : Int) : Rat)) :
    checkedRounded operation a b result = (checked operation apply a b).map ofInt := by
  unfold checkedRounded checked
  cases ha : a.safeInteger? with
  | none => simp [Except.map]
  | some m =>
    cases hb : b.safeInteger? with
    | none => simp [Except.map]
    | some n =>
      obtain ⟨rfl, -⟩ := (safeInteger?_eq_some_iff a m).mp ha
      obtain ⟨rfl, -⟩ := (safeInteger?_eq_some_iff b n).mp hb
      obtain rfl := hresult m n rfl rfl
      by_cases hsafe : IsSafe (apply m n)
      · have hkept := (safeInteger?_round (apply m n) (apply m n)).mpr ⟨rfl, hsafe⟩
        obtain ⟨hexact, -⟩ := (safeInteger?_eq_some_iff _ _).mp hkept
        rw [if_pos ⟨rfl, rfl, Option.isSome_iff_exists.mpr ⟨_, hkept⟩⟩, hexact]
        simp only [if_pos hsafe, Except.map]
      · have hlost : (Number.round ((apply m n : Int) : Rat)).safeInteger? = none := by
          refine Option.eq_none_iff_forall_ne_some.mpr fun k hk => ?_
          exact hsafe ((safeInteger?_round _ _).mp hk).2
        rw [if_neg (fun h => by simp [hlost] at h)]
        simp only [if_neg hsafe, Except.map]

/-- The checked sum is the rounded sum, checked as the program checks it. -/
theorem checkedRounded_add (a b : Number) : checkedRounded "+" a b (a.add b) = (checkedAdd a b).map ofInt :=
  checkedRounded_eq "+" fun m n ha hb => by rw [ha, hb, add_ofInt]

/-- The checked difference is the rounded difference, checked as the program checks it. -/
theorem checkedRounded_sub (a b : Number) : checkedRounded "-" a b (a.sub b) = (checkedSub a b).map ofInt :=
  checkedRounded_eq "-" fun m n ha hb => by rw [ha, hb, sub_ofInt]

/-- Doubles come to the estimate of exact integers, and to the same fault where there is none. -/
theorem Sample.roundedEstimate_eq (sample : Sample) : sample.roundedEstimate = sample.estimate := by
  unfold roundedEstimate estimate
  rw [checkedRounded_add]
  cases checkedAdd sample.localSendMs sample.localRecvMs with
  | error fault => rfl
  | ok sum =>
    simp only [Except.map, bind, Except.bind, halfTruncated_ofInt]
    rw [checkedRounded_sub, checkedRounded_sub]
    cases checkedSub sample.remoteMs (ofInt (sum.tdiv 2)) with
    | error fault => rfl
    | ok offset =>
      cases checkedSub sample.localRecvMs sample.localSendMs with
      | error fault => rfl
      | ok trip => rfl

/-- The estimate of any three numbers is the one that doubles come to. It is formed exactly of safe integers whose sum,
offset and round trip are safe integers too, and consists of these without rounding; otherwise the fault tells the first
operation that leaves the safe integers, and its operands. -/
theorem Sample.estimate_verdict (sample : Sample) :
    sample.roundedEstimate = sample.estimate ∧
      (∀ estimate, sample.estimate = .ok estimate ↔
        ∃ sent received remote, sample.IsExact sent received remote ∧
          estimate = { offsetMs := ofInt (remote - (sent + received).tdiv 2), rttMs := ofInt (received - sent) }) ∧
      ∀ fault, sample.estimate = .error fault ↔
        ∃ operation left right, sample.FirstOverflow operation left right ∧ fault = .overflow operation left right ∧
          fault.message none = "Arithmetic overflow: " ++ left.text ++ " " ++ operation ++ " " ++ right.text := by
  refine ⟨sample.roundedEstimate_eq, sample.estimate_eq_ok_iff, fun fault => ?_⟩
  rw [sample.estimate_eq_error_iff fault]
  constructor
  · rintro ⟨operation, left, right, hfirst, rfl⟩
    exact ⟨operation, left, right, hfirst, rfl, rfl⟩
  · rintro ⟨operation, left, right, hfirst, hfault, -⟩
    exact ⟨operation, left, right, hfirst, hfault⟩

end Sntp
