import Sntp.Proofs.Number.Digits
import Sntp.Proofs.Sync.SetterCalls
import Sntp.Simulation.Host

/-!
# Times in seconds and thousandths

The time that the clock is to be set to is divided by a thousand in double precision, and the quotient is written with
three places. For the times that have moments the quotient is off by less than half of a thousandth, so the places are the
milliseconds again (`fixedThree_thousandth`), and the text names the time exactly (`namedSeconds?_epochText`).
-/

set_option autoImplicit false

namespace Sntp

open Number Text

section Thousandths

/-- The size of a negative integer is its opposite. -/
theorem natAbs_of_neg {n : Int} (h : n < 0) : (n.natAbs : Rat) = -n := by
  rw [← Rat.intCast_natCast, Int.ofNat_natAbs_of_nonpos (Int.le_of_lt h), Rat.intCast_neg]

/-- The size of an integer that is not negative is the integer. -/
theorem natAbs_of_nonneg {n : Int} (h : 0 ≤ n) : (n.natAbs : Rat) = n := by
  rw [← Rat.intCast_natCast, Int.natAbs_of_nonneg h]

/-- A number that is nearest to a count of thousandths is written as that count. -/
theorem fixedThree_finite {q : Rat} {n : Nat} (hlow : (n : Rat) - 1 / 2 ≤ q.abs * 1000) (hhigh : q.abs * 1000 < n + 1 / 2)
    (hsmall : q.abs < tenPow 21) :
    (Number.finite q).fixedThree = String.ofList ((if q < 0 then ['-'] else []) ++ thousandthsText n) := by
  have hnearest : nearestUp (q.abs * 1000) = n := by
    rw [nearestUp_eq_iff, mkRat_half, Rat.intCast_natCast]
    grind
  unfold fixedThree
  simp only [if_neg (Rat.not_le.mpr hsmall), hnearest, Int.toNat_natCast]
  split <;> rfl

/-- A time that is divided by a thousand in double precision and then written with three places is written exactly. -/
theorem fixedThree_thousandth {ms : Int} (hms : ms.natAbs ≤ 8640000000000000) :
    (ofInt ms).thousandth.fixedThree = String.ofList ((if ms < 0 then ['-'] else []) ++ thousandthsText ms.natAbs) := by
  by_cases hzero : ms = 0
  · subst hzero
    decide +kernel
  have hlow : ((-8640000000000000 : Int) : Rat) ≤ ms := Rat.intCast_le_intCast.mpr (by omega)
  have hhigh : (ms : Rat) ≤ ((8640000000000000 : Int) : Rat) := Rat.intCast_le_intCast.mpr (by omega)
  have hpower : twoPow (-10 + 53) = 8796093022208 := by rfl
  have hunit : twoPow (-10) = 1 / 1024 := by decide +kernel
  have htop : (8640000000001 : Rat) ≤ tenPow 21 := by decide +kernel
  -- The quotient is below `2 ^ 43`, so it is off by `2 ^ -11` at most, which is less than half of a thousandth.
  obtain ⟨y, hy, hbelow, habove⟩ := dividedBy_near ms 1000 (e := -10) (by decide) (by decide)
    (by grind) (by grind)
  rw [hunit] at hbelow habove
  rw [thousandth_eq]
  show ((Number.finite ms).dividedBy 1000).fixedThree = _
  rw [hy]
  obtain hneg | hpos : ms < 0 ∨ 0 < ms := by omega
  · have hnat := natAbs_of_neg hneg
    have hms' : (ms : Rat) ≤ ((-1 : Int) : Rat) := Rat.intCast_le_intCast.mpr (by omega)
    have hy' : y < 0 := by grind
    have habs : y.abs = -y := Rat.abs_of_nonpos (Rat.le_of_lt hy')
    rw [fixedThree_finite (n := ms.natAbs) (by grind) (by grind) (by grind), if_pos hy', if_pos hneg]
  · have hnat := natAbs_of_nonneg (Int.le_of_lt hpos)
    have hms' : ((1 : Int) : Rat) ≤ ms := Rat.intCast_le_intCast.mpr (by omega)
    have hy' : 0 < y := by grind
    have habs : y.abs = y := Rat.abs_of_nonneg (Rat.le_of_lt hy')
    rw [fixedThree_finite (n := ms.natAbs) (by grind) (by grind) (by grind), if_neg (Rat.not_lt.mpr (Rat.le_of_lt hy')),
      if_neg (by omega)]

end Thousandths

section Reading

/-- The number that digits before and after a point write. -/
def decimalFraction? (text : Chars) : Option Rat :=
  match text.span Char.isDigit with
  | (whole, '.' :: places) =>
    if whole ≠ [] ∧ places ≠ [] ∧ places.all Char.isDigit = true then
      some (Nat.ofDigitChars 10 whole 0 + Nat.ofDigitChars 10 places 0 / (10 ^ places.length : Nat))
    else none
  | _ => none

/-- The time in seconds since 1970-01-01 that is named by a decimal fraction after an at sign and, before 1970, a minus
sign. -/
def namedSeconds? : Chars → Option Rat
  | '@' :: '-' :: fraction => (decimalFraction? fraction).map fun seconds => -seconds
  | '@' :: fraction => decimalFraction? fraction
  | _ => none

/-- A number of thousandths is read back from its three decimals. -/
theorem decimalFraction?_thousandthsText (n : Nat) : decimalFraction? (thousandthsText n) = some ((n : Rat) / 1000) := by
  have hspan : (thousandthsText n).span Char.isDigit = (digitsOf (n / 1000), '.' :: padZero 3 (n % 1000)) := by
    have hall : ∀ c ∈ digitsOf (n / 1000), c.isDigit = true := fun _ => isDigit_of_mem_digitsOf
    unfold thousandthsText
    rw [List.span_eq_takeWhile_dropWhile, List.takeWhile_append_of_pos hall, List.dropWhile_append_of_pos hall]
    simp
  have hlength : (padZero 3 (n % 1000)).length = 3 := length_padZero (by decide) (Nat.mod_lt n (by decide))
  have hplaces : padZero 3 (n % 1000) ≠ [] := List.ne_nil_of_length_pos (by omega)
  have hall : (padZero 3 (n % 1000)).all Char.isDigit = true := List.all_eq_true.mpr fun _ => isDigit_of_mem_padZero
  have hparts : (n : Rat) = 1000 * (n / 1000 : Nat) + (n % 1000 : Nat) := by
    rw [← Rat.natCast_ofNat, ← Rat.natCast_mul, ← Rat.natCast_add, Nat.div_add_mod]
  have hdigits : digitsOf (n / 1000) ≠ [] ∧ padZero 3 (n % 1000) ≠ [] ∧ (padZero 3 (n % 1000)).all Char.isDigit = true :=
    ⟨digitsOf_ne_nil (n / 1000), hplaces, hall⟩
  unfold decimalFraction?
  rw [hspan]
  simp only [if_pos hdigits, hlength, ofDigitChars_digitsOf, ofDigitChars_padZero]
  grind

/-- The text of a time in seconds since 1970-01-01: an at sign, a minus sign before 1970, the whole seconds, a point and the
milliseconds in three digits. -/
def epochText (ms : Int) : Chars :=
  '@' :: ((if ms < 0 then ['-'] else []) ++ (digitsOf (ms.natAbs / 1000) ++ '.' :: padZero 3 (ms.natAbs % 1000)))

/-- A time of the range of dates is handed over as the text of its seconds. -/
theorem timeArgument_seconds {ms : Int} (hms : ms.natAbs ≤ 8640000000000000) :
    DateForm.seconds.timeArgument (ofInt ms) = String.ofList (epochText ms) := by
  show "@" ++ (ofInt ms).thousandth.fixedThree = _
  rw [fixedThree_thousandth hms, ← String.toList_inj]
  simp [epochText, thousandthsText]

/-- Digits do not begin with a sign. -/
theorem namedSeconds?_digits {n : Nat} (rest : Chars) :
    namedSeconds? ('@' :: (digitsOf n ++ rest)) = decimalFraction? (digitsOf n ++ rest) := by
  obtain ⟨first, others, hdigits⟩ := List.exists_cons_of_ne_nil (digitsOf_ne_nil n)
  have hdigit : first.isDigit = true := isDigit_of_mem_digitsOf (by rw [hdigits]; exact List.mem_cons_self)
  have hsign : first ≠ '-' := by
    rintro rfl
    cases hdigit
  rw [hdigits]
  simp [namedSeconds?, hsign]

/-- The text names the time exactly. -/
theorem namedSeconds?_epochText (ms : Int) : namedSeconds? (epochText ms) = some ((ms : Rat) / 1000) := by
  have hfraction := decimalFraction?_thousandthsText ms.natAbs
  unfold epochText
  by_cases hneg : ms < 0
  · rw [natAbs_of_neg hneg] at hfraction
    rw [if_pos hneg]
    show (decimalFraction? (thousandthsText ms.natAbs)).map _ = _
    rw [hfraction]
    simp only [Option.map_some, Option.some.injEq]
    grind
  · rw [natAbs_of_nonneg (Int.not_lt.mp hneg)] at hfraction
    rw [if_neg hneg, List.nil_append, namedSeconds?_digits]
    exact hfraction

/-- Different times have different texts. -/
theorem epochText_inj {ms other : Int} : epochText ms = epochText other ↔ ms = other := by
  constructor
  · intro h
    have hnamed := namedSeconds?_epochText ms
    rw [h, namedSeconds?_epochText other] at hnamed
    have hquotient : (other : Rat) / 1000 = (ms : Rat) / 1000 := Option.some.inj hnamed
    exact Rat.intCast_inj.mp (by grind)
  · exact congrArg epochText

end Reading

section Running

/-- A setter of its own runs the command with the arguments that name the time. -/
theorem Rehearsal.setClock_trace (r : Rehearsal) {form : DateForm} (hsetter : r.setter = .real (.dateCommand form))
    (ms : Number) :
    (r.setClock ms).2.scene.trace = r.scene.trace ++ [(r.scene.time, .command "date" (form.arguments ms))] := by
  unfold setClock
  rw [hsetter]
  exact r.scene.runCommand_trace ClockSetter.dateCommandName (form.arguments ms)

/-- So does the setter of a platform. -/
theorem Host.setClock_trace (host : Host) {form : DateForm}
    (hplatform : ClockSetter.ofPlatform host.platform = .dateCommand form) (state : HostState) (ms : Number) :
    (host.setClock state ms).2.scene.trace =
      state.scene.trace ++ [(state.scene.time, .command "date" (form.arguments ms))] := by
  unfold setClock
  rw [hplatform]
  exact state.scene.runCommand_trace ClockSetter.dateCommandName (form.arguments ms)

/-- For every time that a decision can pass on, and for every other one of the moments, a host that sets its clock in seconds
runs `date -u -s` with the text of that very time, to the millisecond, and with another text for every other time. -/
theorem setClock_seconds_exact :
    (∀ ms : Int, ms.natAbs ≤ 8640000000000000 →
      epochText ms = '@' :: ((if ms < 0 then ['-'] else []) ++
        (digitsOf (ms.natAbs / 1000) ++ '.' :: padZero 3 (ms.natAbs % 1000))) ∧
      (padZero 3 (ms.natAbs % 1000)).length = 3 ∧
      namedSeconds? (epochText ms) = some ((ms : Rat) / 1000) ∧
      (∀ (host : Host) (state : HostState), ClockSetter.ofPlatform host.platform = .dateCommand .seconds →
        (host.setClock state (ofInt ms)).2.scene.trace =
          state.scene.trace ++ [(state.scene.time, .command "date" ["-u", "-s", String.ofList (epochText ms)])]) ∧
      ∀ r : Rehearsal, r.setter = .real (.dateCommand .seconds) →
        (r.setClock (ofInt ms)).2.scene.trace =
          r.scene.trace ++ [(r.scene.time, .command "date" ["-u", "-s", String.ofList (epochText ms)])]) ∧
    (∀ ms other : Int, ms.natAbs ≤ 8640000000000000 → other.natAbs ≤ 8640000000000000 → ms ≠ other →
      DateForm.seconds.arguments (ofInt ms) ≠ DateForm.seconds.arguments (ofInt other)) ∧
    ∀ {σ : Type} (world : World σ) (sample : Sample) (estimate : Estimate) (testOnly : Bool) (method : String) (state : σ),
      ∀ call ∈ setterCalls world (Decision.make sample estimate testOnly method) state,
        call.timeMs.natAbs ≤ 8640000000000000 := by
  have harguments : ∀ ms : Int, ms.natAbs ≤ 8640000000000000 →
      DateForm.seconds.arguments (ofInt ms) = ["-u", "-s", String.ofList (epochText ms)] := by
    intro ms hms
    rw [← timeArgument_seconds hms]
    rfl
  refine ⟨?_, ?_, ?_⟩
  · intro ms hms
    refine ⟨rfl, length_padZero (by decide) (Nat.mod_lt _ (by decide)), namedSeconds?_epochText ms, ?_, ?_⟩
    · intro host state hplatform
      rw [host.setClock_trace hplatform, harguments ms hms]
    · intro r hsetter
      rw [r.setClock_trace hsetter, harguments ms hms]
  · intro ms other hms hother hne hsame
    rw [harguments ms hms, harguments other hother] at hsame
    have htexts : String.ofList (epochText ms) = String.ofList (epochText other) := by simpa using hsame
    apply hne
    apply epochText_inj.mp
    exact String.ofList_injective htexts
  · intro σ world sample estimate testOnly method state call hmem
    obtain ⟨hassess, -⟩ := (mem_setterCalls_make_iff call).mp hmem
    obtain ⟨remote, trip, hcorrected⟩ := exists_isCorrected hassess
    exact hcorrected.natAbs_le

/-- A rehearsal in which the clock is set in seconds. -/
def Rehearsal.inSeconds : Rehearsal := { silentAtFirst true with setter := .real (.dateCommand .seconds) }

/-- A millisecond before 1970 it is set to that very millisecond. -/
theorem setClock_seconds_exact_justBefore :
    (-1 : Int).natAbs ≤ 8640000000000000 ∧ Rehearsal.inSeconds.setter = .real (.dateCommand .seconds) ∧
      namedSeconds? "@-0.001".toList = some (((-1 : Int) : Rat) / 1000) ∧
      (Rehearsal.inSeconds.setClock (ofInt (-1))).2.scene.trace = [(0, .command "date" ["-u", "-s", "@-0.001"])] := by
  have hbound : (-1 : Int).natAbs ≤ 8640000000000000 := by decide
  have htext : epochText (-1) = "@-0.001".toList := by decide +kernel
  obtain ⟨-, -, hnamed, -, hrun⟩ := setClock_seconds_exact.1 (-1) hbound
  have htrace := hrun Rehearsal.inSeconds rfl
  rw [htext] at hnamed htrace
  exact ⟨hbound, rfl, hnamed, htrace⟩

end Running

end Sntp
