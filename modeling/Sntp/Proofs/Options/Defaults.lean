import Sntp.Proofs.Number.Nearest
import Sntp.Proofs.Options.Integers

/-!
# What the environment says

The environment names a server unless there is nothing but blanks where it could (`Environment.Names`), and it turns
the system log on by a word or by a numeral (`SaysYes`, `saysYes_iff`). A numeral that is made of digits does so unless
all of them are zeros (`HoldsDigits.round_ne_zero_iff`), since only zero is rounded to zero among the integers.
-/

set_option autoImplicit false

namespace Sntp

open Text

/-- Whether a server is the one that is asked unless the arguments name one: what the environment holds without the
blanks around it, or the pool where that is nothing. -/
inductive Environment.Names (env : Environment) : String → Prop
  | given {text server : String} (held : env.server = some text) (trimmed : IsTrimmed text.toList server.toList)
    (nonempty : server ≠ "") : env.Names server
  | pool (blank : ∀ text, env.server = some text → ∀ c ∈ text.toList, isBlank c = true) : env.Names "pool.ntp.org"

/-- Whether a text is made of digits, with blanks around them at most. -/
def HoldsDigits (text digits : Chars) : Prop :=
  IsTrimmed text digits ∧ digits ≠ [] ∧ ∀ c ∈ digits, c.isDigit = true

/-- Whether a text says yes: as one of these words, in any case; with digits that are not all zeros; or as another
numeral, for a number that is not zero. -/
inductive SaysYes (text : Chars) : Prop
  | word (said : text.map Char.toLower ∈ ["true".toList, "t".toList, "yes".toList, "y".toList]) : SaysYes text
  | digits {digits : Chars} (held : HoldsDigits text digits) (nonzero : ∃ c ∈ digits, c ≠ '0') : SaysYes text
  | numeral (unsaid : text.map Char.toLower ∉ ["false".toList, "f".toList, "no".toList, "n".toList])
    (undigital : ∀ digits, ¬ HoldsDigits text digits) {value : Number} (read : Number.ofNumeral? text = some value)
    (nonzero : value ≠ 0) : SaysYes text

/-- The server of the environment is the one that it names. -/
theorem Environment.names_serverOrDefault (env : Environment) : env.Names env.serverOrDefault := by
  unfold serverOrDefault
  cases hheld : env.server with
  | none => exact .pool fun text htext => by rw [hheld] at htext; cases htext
  | some text =>
    have htrimmed := isTrimmed_trim text.toList
    rw [Option.map_some]
    split
    case h_1 hempty =>
      refine .pool fun other hother => ?_
      obtain rfl : text = other := Option.some.inj (hheld.symm.trans hother)
      have hnil : trim text.toList = [] := by
        rw [← String.toList_ofList (l := trim text.toList), Option.some.inj hempty]
        rfl
      obtain ⟨before, after, htext, hbefore, hafter, -⟩ := htrimmed
      intro c hmem
      rw [htext, hnil, List.append_nil] at hmem
      exact (List.mem_append.mp hmem).elim (hbefore c) (hafter c)
    case h_2 server hserver hsome =>
      obtain rfl := Option.some.inj hsome
      refine .given hheld ?_ fun hempty => ?_
      · rwa [String.toList_ofList]
      · exact hserver (by rw [hempty])
    case h_3 hnone => cases hnone

/-- Digits write zero exactly if all of them are zeros. -/
theorem ofDigitChars_eq_zero_iff (digits : Chars) (hall : ∀ c ∈ digits, c.isDigit = true) (value : Nat) :
    Nat.ofDigitChars 10 digits value = 0 ↔ value = 0 ∧ ∀ c ∈ digits, c = '0' := by
  induction digits generalizing value with
  | nil => simp [Nat.ofDigitChars]
  | cons c rest ih =>
    obtain ⟨hc, hrest⟩ := List.forall_mem_cons.mp hall
    have hrange := Number.toNat_bounds_of_isDigit hc
    have hzero : c.toNat = 48 ↔ c = '0' := by rw [← Char.toNat_inj]; rfl
    have hnext : 10 * value + (c.toNat - '0'.toNat) = 0 ↔ value = 0 ∧ c = '0' := by
      rw [← hzero]
      show 10 * value + (c.toNat - 48) = 0 ↔ _
      omega
    rw [Nat.ofDigitChars_cons, ih hrest, hnext, List.forall_mem_cons, and_assoc]

/-- No other natural number than zero is rounded to zero. -/
theorem Number.round_natCast_eq_zero_iff (n : Nat) : round (n : Rat) = 0 ↔ n = 0 := by
  constructor
  · intro hround
    have hnearest := isNearest_round n
    rw [hround] at hnearest
    obtain ⟨-, -, hnearest⟩ := hnearest
    apply Nat.eq_zero_of_not_pos
    intro hpos
    -- One is a double too, and it is nearer.
    have hone := hnearest _ (isDouble_intCast (k := 1) (by decide))
    have hle : ((1 : Nat) : Rat) ≤ n := Rat.natCast_le_natCast.mpr hpos
    have hfar : ((n : Rat) - ((0 : Int) : Rat)).abs = n := by
      rw [Rat.abs_of_nonneg (by grind)]
      grind
    have hnear : ((n : Rat) - ((1 : Int) : Rat)).abs = n - 1 := by
      rw [Rat.abs_of_nonneg (by grind)]
      grind
    grind
  · rintro rfl
    rfl

section Digits

variable {text digits : Chars}

/-- A text holds the same digits in every way to see it. -/
theorem HoldsDigits.eq {other : Chars} (h : HoldsDigits text digits) (hother : HoldsDigits text other) : other = digits :=
  hother.1.trim_eq.symm.trans h.1.trim_eq

/-- Nothing but a digit is among digits. -/
theorem not_mem_of_isDigit (hall : ∀ c ∈ digits, c.isDigit = true) {c : Char} (hc : c.isDigit = false) : c ∉ digits := by
  intro hmem
  rw [hall c hmem] at hc
  cases hc

/-- Digits are a decimal numeral without a fraction and an exponent. -/
theorem Number.ofDecimal?_of_isDigit (hdigits : digits ≠ []) (hall : ∀ c ∈ digits, c.isDigit = true) :
    ofDecimal? digits = some (round (Nat.ofDigitChars 10 digits 0)) := by
  have htake : digits.takeWhile Char.isDigit = digits := by
    rw [← List.append_nil digits, List.takeWhile_append_of_pos hall, List.takeWhile_nil]
  have hdrop : digits.dropWhile Char.isDigit = [] := by
    rw [← List.append_nil digits, List.dropWhile_append_of_pos hall, List.dropWhile_nil]
  unfold ofDecimal?
  simp [htake, hdrop, hdigits, exponent?, ofDecimal_natCast]

/-- Digits are a numeral without a sign. -/
theorem Number.ofSigned?_of_isDigit (hdigits : digits ≠ []) (hall : ∀ c ∈ digits, c.isDigit = true) :
    ofSigned? digits = some (round (Nat.ofDigitChars 10 digits 0)) := by
  have hinfinity : digits ≠ "Infinity".toList := by
    rintro rfl
    exact not_mem_of_isDigit hall (c := 'I') (by decide) (by decide)
  unfold ofSigned?
  simp only [if_neg hinfinity, ofDecimal?_of_isDigit hdigits hall]
  split
  · exact absurd List.mem_cons_self (not_mem_of_isDigit hall (c := '-') (by decide))
  · exact absurd List.mem_cons_self (not_mem_of_isDigit hall (c := '+') (by decide))
  · rfl

/-- Digits are read as the double nearest to the number that they write. -/
theorem HoldsDigits.ofNumeral?_eq (h : HoldsDigits text digits) :
    Number.ofNumeral? text = some (Number.round (Nat.ofDigitChars 10 digits 0)) := by
  obtain ⟨htrimmed, hdigits, hall⟩ := h
  -- No digit stands for another base.
  have hsecond {first mark : Char} {rest : Chars} (hcut : digits = first :: mark :: rest) : mark.isDigit = true :=
    hall mark (by simp [hcut])
  unfold Number.ofNumeral?
  rw [htrimmed.trim_eq]
  split
  case h_1 => exact absurd rfl hdigits
  case h_8 => exact Number.ofSigned?_of_isDigit hdigits hall
  all_goals exact absurd (hsecond rfl) (by decide)

/-- Digits are read as another number than zero exactly if one of them is no zero. -/
theorem HoldsDigits.round_ne_zero_iff (h : HoldsDigits text digits) :
    Number.round (Nat.ofDigitChars 10 digits 0) ≠ 0 ↔ ∃ c ∈ digits, c ≠ '0' := by
  rw [ne_eq, Number.round_natCast_eq_zero_iff, ofDigitChars_eq_zero_iff digits h.2.2 0]
  simp

/-- Digits are no word for yes or no. -/
theorem HoldsDigits.toLower_not_mem (h : HoldsDigits text digits) {words : List Chars}
    (hwords : ∀ word ∈ words, ∀ c ∈ word, c.isDigit = false) : text.map Char.toLower ∉ words := by
  obtain ⟨⟨before, after, rfl, -⟩, hdigits, hall⟩ := h
  obtain ⟨digit, rest, rfl⟩ := List.exists_cons_of_ne_nil hdigits
  have hdigit : digit.isDigit = true := hall digit List.mem_cons_self
  have hrange := Number.toNat_bounds_of_isDigit hdigit
  have hlower : digit.toLower = digit := by
    refine dif_neg fun hcapital => ?_
    have hcapital : 65 ≤ digit.toNat ∧ digit.toNat ≤ 90 := by simpa [UInt32.le_iff_toNat_le] using hcapital
    omega
  intro hmem
  have hnone := hwords _ hmem digit (by simp [hlower])
  rw [hdigit] at hnone
  cases hnone

end Digits

/-- What is taken for yes says it. -/
theorem saysYes_iff (text : Chars) : saysYes text = true ↔ SaysYes text := by
  have hcontains (words : List Chars) : words.contains (text.map Char.toLower) = true ↔ text.map Char.toLower ∈ words :=
    List.contains_iff_mem
  unfold saysYes
  simp only [hcontains]
  by_cases hyes : text.map Char.toLower ∈ wordsForYes
  · exact iff_of_true (by rw [if_pos hyes]) (.word hyes)
  rw [if_neg hyes]
  by_cases hno : text.map Char.toLower ∈ wordsForNo
  · rw [if_pos hno]
    refine iff_of_false Bool.false_ne_true ?_
    rintro (hsaid | ⟨hheld, -⟩ | ⟨hunsaid, -, -, -⟩)
    · exact hyes hsaid
    · exact hheld.toLower_not_mem (by simp [wordsForNo]) hno
    · exact hunsaid hno
  rw [if_neg hno]
  -- No word is said, so that the numeral decides.
  by_cases hdigits : ∃ digits, HoldsDigits text digits
  · obtain ⟨digits, hheld⟩ := hdigits
    rw [hheld.ofNumeral?_eq]
    simp only [bne_iff_ne, hheld.round_ne_zero_iff]
    constructor
    · exact .digits hheld
    · rintro (hsaid | ⟨hother, hnonzero⟩ | ⟨-, hundigital, -, -⟩)
      · exact absurd hsaid hyes
      · rwa [hheld.eq hother] at hnonzero
      · exact absurd hheld (hundigital digits)
  · rw [not_exists] at hdigits
    constructor
    · intro h
      split at h
      case h_1 value hread => exact .numeral hno hdigits hread (bne_iff_ne.mp h)
      case h_2 => cases h
    · rintro (hsaid | ⟨hheld, -⟩ | ⟨-, -, hread, hnonzero⟩)
      · exact absurd hsaid hyes
      · exact absurd hheld (hdigits _)
      · rw [hread]
        exact bne_iff_ne.mpr hnonzero

end Sntp
