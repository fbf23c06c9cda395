import Sntp.Calendar.Moment
import Sntp.Packet.Response
import Sntp.Proofs.Lists
import Sntp.Proofs.Number.Digits
import Sntp.Proofs.Text.Trimming

/-!
# Printable text

A text is printable if it has nothing but the characters of ASCII from the blank to the tilde (`IsPrintable`): no line
break, no escape sequence, no other script. Every number is written so, in each of the ways in which numbers are written
(`isPrintable_text`, `isPrintable_fixedThree`), and so is every date (`isPrintable_iso`, `isPrintable_timeStamp`). A message
stays printable when it is quoted in another one (`isPrintable_withoutLabel`).
-/

set_option autoImplicit false

namespace Sntp

open Text Number

namespace Text

/-- Whether all characters of a text are printable ASCII. -/
def ArePrintable (text : Chars) : Prop := ∀ c ∈ text, 0x20 ≤ c.toNat ∧ c.toNat ≤ 0x7E

/-- The empty text is printable. -/
@[simp] theorem arePrintable_nil : ArePrintable [] := by simp [ArePrintable]

/-- A text is printable if its first character and the others are. -/
@[simp] theorem arePrintable_cons {c : Char} {rest : Chars} :
    ArePrintable (c :: rest) ↔ (0x20 ≤ c.toNat ∧ c.toNat ≤ 0x7E) ∧ ArePrintable rest := List.forall_mem_cons

/-- Two printable texts in a row are one. -/
@[simp] theorem arePrintable_append {front back : Chars} :
    ArePrintable (front ++ back) ↔ ArePrintable front ∧ ArePrintable back := List.forall_mem_append

/-- A text of characters of a printable one is printable. -/
theorem ArePrintable.of_subset {text part : Chars} (h : ArePrintable text) (hpart : part ⊆ text) : ArePrintable part :=
  fun c hmem => h c (hpart hmem)

/-- A printable text is printable without the blanks before it. -/
theorem ArePrintable.trimLeft {text : Chars} (h : ArePrintable text) : ArePrintable (trimLeft text) :=
  h.of_subset (List.dropWhile_suffix isBlank).subset

/-- A printable text is printable without the blanks after it. -/
theorem ArePrintable.trimRight {text : Chars} (h : ArePrintable text) : ArePrintable (trimRight text) :=
  h.of_subset (reverse_dropWhile_reverse_subset isBlank text)

/-- A printable text is printable without the blanks around it. -/
theorem ArePrintable.trim {text : Chars} (h : ArePrintable text) : ArePrintable (trim text) := h.trimLeft.trimRight

/-- What follows a word is as printable as the whole. -/
theorem ArePrintable.afterWord {word text rest : Chars} (h : ArePrintable text) (hrest : afterWord? word text = some rest) :
    ArePrintable rest := by
  obtain ⟨said, rfl, -⟩ := (afterWord?_eq_some_iff word text rest).mp hrest
  exact (arePrintable_append.mp h).2

end Text

/-- Whether a text is printable ASCII, from the blank to the tilde. -/
def IsPrintable (text : String) : Prop := ArePrintable text.toList

/-- Characters are printable as a text if they are. -/
theorem isPrintable_ofList {text : Chars} : IsPrintable (String.ofList text) ↔ ArePrintable text := by
  unfold IsPrintable
  rw [String.toList_ofList]

/-- A text that is written out is checked character by character. -/
theorem isPrintable_of_all {text : Chars} (h : text.all Packet.isPrintable = true) : IsPrintable (String.ofList text) := by
  refine isPrintable_ofList.mpr fun c hmem => ?_
  simpa [Packet.isPrintable] using List.all_eq_true.mp h c hmem

/-- Two printable texts put together are printable. -/
theorem IsPrintable.append {front back : String} (hfront : IsPrintable front) (hback : IsPrintable back) :
    IsPrintable (front ++ back) := by
  unfold IsPrintable
  rw [String.toList_append]
  exact arePrintable_append.mpr ⟨hfront, hback⟩

/-- A message is quoted in printable text if it is printable. -/
theorem isPrintable_withoutLabel {message : String} (h : IsPrintable message) : IsPrintable (withoutLabel message) := by
  unfold withoutLabel
  simp only []
  rw [isPrintable_ofList]
  cases hafter : afterWord? "error:".toList (Text.trimLeft message.toList) with
  | some rest => exact (h.trimLeft.afterWord hafter).trim
  | none => exact ArePrintable.trim h

namespace Number

/-- Digits are printable. -/
theorem arePrintable_of_isDigit {digits : Chars} (h : ∀ c ∈ digits, c.isDigit = true) : ArePrintable digits := by
  intro c hmem
  have hrange := toNat_bounds_of_isDigit (h c hmem)
  omega

/-- The digits of a number are printable. -/
@[simp] theorem arePrintable_digitsOf (n : Nat) : ArePrintable (digitsOf n) :=
  arePrintable_of_isDigit fun _ => isDigit_of_mem_digitsOf

/-- A padded number is printable. -/
@[simp] theorem arePrintable_padZero (width n : Nat) : ArePrintable (padZero width n) :=
  arePrintable_of_isDigit fun _ => isDigit_of_mem_padZero

/-- Zeros are printable. -/
@[simp] theorem arePrintable_zeros (count : Nat) : ArePrintable (List.replicate count '0') :=
  arePrintable_of_isDigit fun c hmem => by rw [List.eq_of_mem_replicate hmem]; rfl

/-- An integer is written in printable characters. -/
@[simp] theorem arePrintable_integerChars (n : Int) : ArePrintable (integerChars n) := by
  unfold integerChars
  by_cases hsign : n < 0
  · simp [hsign]
  · simp [hsign]

/-- The text of an integer is printable. -/
theorem isPrintable_integerText (n : Int) : IsPrintable (integerText n) :=
  isPrintable_ofList.mpr (arePrintable_integerChars n)

/-- The shortest digits of a rational are printable. -/
theorem arePrintable_shortest (q : Rat) : ArePrintable (shortest q).1 := by
  unfold shortest
  simp only []
  exact (arePrintable_digitsOf _).of_subset (reverse_dropWhile_reverse_subset _ _)

/-- A positive double is written in printable characters. -/
theorem arePrintable_positiveText (q : Rat) : ArePrintable (positiveText q) := by
  have hdigits := arePrintable_shortest q
  unfold positiveText
  generalize shortest q = decimal at hdigits ⊢
  obtain ⟨digits, point⟩ := decimal
  simp only [] at hdigits ⊢
  have htake (count : Nat) : ArePrintable (digits.take count) := hdigits.of_subset (List.take_subset count digits)
  have hdrop (count : Nat) : ArePrintable (digits.drop count) := hdigits.of_subset (List.drop_subset count digits)
  split
  · simp [hdigits]
  split
  · simp [htake, hdrop]
  split
  · simp [hdigits]
  · refine arePrintable_append.mpr ⟨?_, ?_⟩
    · match digits, hdigits with
      | [], hnone => exact hnone
      | [d], hone => exact hone
      | d :: next :: rest, hmany =>
        obtain ⟨hfirst, hrest⟩ := arePrintable_cons.mp hmany
        exact arePrintable_cons.mpr ⟨hfirst, arePrintable_cons.mpr ⟨by decide, hrest⟩⟩
    · by_cases hsign : point - 1 < 0
      · simp [hsign]
      · simp [hsign]

/-- A finite double is written in printable characters. -/
theorem arePrintable_finiteText (q : Rat) : ArePrintable (finiteText q) := by
  unfold finiteText
  split
  · simp
  split
  · simpa using arePrintable_positiveText (-q)
  · exact arePrintable_positiveText q

/-- Every number is written in printable text. -/
theorem isPrintable_text (x : Number) : IsPrintable x.text := by
  cases x with
  | nan => exact isPrintable_of_all rfl
  | infinite negative =>
    cases negative with
    | true => exact isPrintable_of_all rfl
    | false => exact isPrintable_of_all rfl
  | finite q => exact isPrintable_ofList.mpr (arePrintable_finiteText q)

/-- So is every number with three places. -/
theorem isPrintable_fixedThree (x : Number) : IsPrintable x.fixedThree := by
  cases x with
  | nan => exact isPrintable_text nan
  | infinite negative => exact isPrintable_text (infinite negative)
  | finite q =>
    have hthousandths (n : Nat) : ArePrintable (thousandthsText n) := by simp [thousandthsText]
    simp only [fixedThree]
    split
    · exact isPrintable_text (finite q)
    · rw [isPrintable_ofList]
      split
      · simp [hthousandths]
      · exact hthousandths _

end Number

section Dates

/-- The international form of a moment is printable. -/
theorem isPrintable_iso (m : Moment) : IsPrintable m.iso := by
  have hyear : ArePrintable (Moment.isoYear m.date.year) := by
    unfold Moment.isoYear
    split
    · simp
    · split <;> simp
  unfold Moment.iso
  simp only []
  rw [isPrintable_ofList]
  simp [hyear]

/-- The time in front of a line is printable. -/
theorem isPrintable_timeStamp (ms : Number) : IsPrintable (timeStamp ms) := by
  unfold timeStamp Moment.stamp
  simp only []
  rw [isPrintable_ofList]
  cases Moment.ofNumber? ms with
  | none => simp [Moment.yearText, Moment.fieldText]
  | some m => simp [Moment.yearText, Moment.fieldText]

end Dates

end Sntp
