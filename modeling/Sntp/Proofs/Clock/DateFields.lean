import Sntp.Clock.Setter
import Sntp.Proofs.Calendar.Moments
import Sntp.Proofs.Number.Digits

/-!
# Dates in fields of digits

A layout says in which order the fields of a moment stand in a text, in how many digits, and with which marks between them.
What is written in a layout is read back from it (`Layout.read_text`), as long as every field has room for its number, which
it has in years of four digits (`Moment.IsValid.holds`).

The two forms of the arguments of `date` that name a date, and the announced form of a time, are texts of this kind
(`timeArgument_eq_text`, `isoTime?_ofInt`), so all three of them name the same second.
-/

set_option autoImplicit false

namespace Sntp

open Number Text

/-- A field of a moment. -/
inductive MomentField where
  | year
  | month
  | day
  | hour
  | minute
  | second
  | millisecond
  deriving DecidableEq, Repr

namespace MomentField

/-- The number of digits that a field is written in. -/
def width : MomentField → Nat
  | year => 4
  | millisecond => 3
  | _ => 2

/-- The number in a field of a moment. -/
def get (m : Moment) : MomentField → Nat
  | year => m.date.year.toNat
  | month => m.date.month
  | day => m.date.day
  | hour => m.hour
  | minute => m.minute
  | second => m.second
  | millisecond => m.millisecond

/-- A moment with another number in a field. -/
def set (m : Moment) (n : Nat) : MomentField → Moment
  | year => { m with date := { m.date with year := n } }
  | month => { m with date := { m.date with month := n } }
  | day => { m with date := { m.date with day := n } }
  | hour => { m with hour := n }
  | minute => { m with minute := n }
  | second => { m with second := n }
  | millisecond => { m with millisecond := n }

end MomentField

/-- A part of a text: a field of a moment, or a mark between fields. -/
inductive LayoutPart where
  | field (field : MomentField)
  | mark (c : Char)
  deriving DecidableEq, Repr

/-- The order in which the fields of a moment are written. -/
abbrev Layout := List LayoutPart

namespace Layout

/-- A moment in the fields of a layout. -/
def text (layout : Layout) (m : Moment) : Chars :=
  match layout with
  | [] => []
  | .field field :: rest => padZero field.width (field.get m) ++ text rest m
  | .mark c :: rest => c :: text rest m

/-- Reads a text in a layout: a moment gets the numbers of the fields, if the text is of the layout. -/
def read : Layout → Chars → Moment → Option Moment
  | [], [], m => some m
  | .field field :: rest, text, m =>
    let digits := text.take field.width
    if digits.length = field.width ∧ digits.all Char.isDigit = true then
      read rest (text.drop field.width) (field.set m (Nat.ofDigitChars 10 digits 0))
    else none
  | .mark c :: rest, first :: text, m => if first = c then read rest text m else none
  | _, _, _ => none

/-- A moment with the fields of a layout taken from another one. -/
def fill (layout : Layout) (source : Moment) (m : Moment) : Moment :=
  match layout with
  | [] => m
  | .field field :: rest => fill rest source (field.set m (field.get source))
  | .mark _ :: rest => fill rest source m

/-- Whether every field of a layout has room for its number. -/
def Holds (layout : Layout) (m : Moment) : Prop := ∀ field, .field field ∈ layout → field.get m < 10 ^ field.width

/-- The length of the texts of a layout. -/
def width (layout : Layout) : Nat :=
  match layout with
  | [] => 0
  | .field field :: rest => field.width + width rest
  | .mark _ :: rest => width rest + 1

section Texts

variable {m : Moment}

/-- A layout that begins with a field holds a moment if that field fits its width and the rest holds the moment. -/
theorem holds_cons_field {field : MomentField} {rest : Layout} (h : Holds (.field field :: rest) m) :
    (padZero field.width (field.get m)).length = field.width ∧ Holds rest m := by
  have hwidth : 0 < field.width := by cases field <;> decide
  exact ⟨length_padZero hwidth (h field List.mem_cons_self), fun other hmem => h other (List.mem_cons_of_mem _ hmem)⟩

/-- A layout that begins with a mark holds a moment if the rest does. -/
theorem holds_cons_mark {c : Char} {rest : Layout} (h : Holds (.mark c :: rest) m) : Holds rest m :=
  fun other hmem => h other (List.mem_cons_of_mem _ hmem)

/-- A moment that a layout holds is written as wide as the layout is. -/
theorem length_text (layout : Layout) (h : layout.Holds m) : (layout.text m).length = layout.width := by
  induction layout with
  | nil => rfl
  | cons part rest ih =>
    cases part with
    | field field =>
      obtain ⟨hlength, hrest⟩ := holds_cons_field h
      simp only [text, width, List.length_append, hlength, ih hrest]
    | mark c => simp only [text, width, List.length_cons, ih (holds_cons_mark h)]

/-- What is written in a layout is read back from it. -/
theorem read_text (layout : Layout) (h : layout.Holds m) (base : Moment) :
    layout.read (layout.text m) base = some (layout.fill m base) := by
  induction layout generalizing base with
  | nil => rfl
  | cons part rest ih =>
    cases part with
    | field field =>
      obtain ⟨hlength, hrest⟩ := holds_cons_field h
      have hdigits : (padZero field.width (field.get m)).all Char.isDigit = true :=
        List.all_eq_true.mpr fun _ => isDigit_of_mem_padZero
      simp only [text, read, fill, List.take_left' hlength, List.drop_left' hlength, if_pos (And.intro hlength hdigits),
        ofDigitChars_padZero]
      exact ih hrest _
    | mark c =>
      simp only [text, read, fill, if_true]
      exact ih (holds_cons_mark h) base

end Texts

end Layout

/-- No month has more than 31 days. -/
theorem Date.daysInMonth_le (year : Int) (month : Nat) : daysInMonth year month ≤ 31 := by
  unfold daysInMonth
  repeat' split
  all_goals decide

/-- In a year of at most four digits all fields have room for their numbers. -/
theorem Moment.IsValid.holds {m : Moment} (h : m.IsValid) (hyear : m.date.year ≤ 9999) (layout : Layout) : layout.Holds m := by
  obtain ⟨⟨-, hmonth, -, hday⟩, hhour, hminute, hsecond, hmillisecond⟩ := h
  have hlast := Date.daysInMonth_le m.date.year m.date.month
  intro field _
  cases field
  all_goals
    simp only [MomentField.get, MomentField.width]
    omega

section Forms

/-- The layout of the argument with the year first. -/
def yearFirstLayout : Layout :=
  [.field .year, .field .month, .field .day, .field .hour, .field .minute, .mark '.', .field .second]

/-- The layout of the argument with the year last. -/
def yearLastLayout : Layout :=
  [.field .month, .field .day, .field .hour, .field .minute, .field .year, .mark '.', .field .second]

/-- The layout of announced times. -/
def isoLayout : Layout :=
  [.field .year, .mark '-', .field .month, .mark '-', .field .day, .mark 'T', .field .hour, .mark ':', .field .minute,
    .mark ':', .field .second, .mark '.', .field .millisecond, .mark 'Z']

/-- The layout of the argument of a form, if it is one in fields. -/
def DateForm.layout? : DateForm → Option Layout
  | .seconds => none
  | .yearFirst => some yearFirstLayout
  | .yearLast => some yearLastLayout

/-- The moment that readings begin with, 1970-01-01T00:00:00.000Z. -/
def Moment.epoch : Moment := Moment.ofMillis 0

/-- A year of four digits is not padded. -/
theorem integerChars_fourDigits {year : Int} (hyear : 1000 ≤ year) : integerChars year = padZero 4 year.toNat := by
  have hdigits : padZero 4 year.toNat = digitsOf year.toNat := padZero_eq_digitsOf (by decide) (by omega)
  have hnat : year.natAbs = year.toNat := by omega
  unfold integerChars
  rw [if_neg (by omega), hdigits, hnat]

section Readings

variable {form : DateForm} {layout : Layout} {m : Moment}

/-- Each of the two layouts is fifteen characters wide. -/
theorem width_of_layout? (hform : form.layout? = some layout) : layout.width = 15 := by
  cases form with
  | seconds => cases hform
  | yearFirst =>
    cases hform
    rfl
  | yearLast =>
    cases hform
    rfl

/-- An argument in fields leaves the millisecond out. -/
theorem text_of_layout? (hform : form.layout? = some layout) (m : Moment) :
    layout.text { m with millisecond := 0 } = layout.text m := by
  cases form with
  | seconds => cases hform
  | yearFirst =>
    cases hform
    rfl
  | yearLast =>
    cases hform
    rfl

/-- A year that is not negative is kept as a natural number. -/
theorem date_toNat_year (hyear : 0 ≤ m.date.year) :
    Date.mk (m.date.year.toNat : Int) m.date.month m.date.day = m.date := by
  rw [Int.toNat_of_nonneg hyear]

/-- All other fields are read. -/
theorem fill_of_layout? (hform : form.layout? = some layout) (hyear : 0 ≤ m.date.year) :
    layout.fill m Moment.epoch = { m with millisecond := 0 } := by
  have hmoment : Moment.mk (Date.mk (m.date.year.toNat : Int) m.date.month m.date.day) m.hour m.minute m.second 0 =
      { m with millisecond := 0 } := by rw [date_toNat_year hyear]
  cases form with
  | seconds => cases hform
  | yearFirst =>
    cases hform
    exact hmoment
  | yearLast =>
    cases hform
    exact hmoment

/-- A moment is filled back, field by field, from the international form that was written of it. -/
theorem fill_isoLayout (hyear : 0 ≤ m.date.year) : isoLayout.fill m Moment.epoch = m := by
  show Moment.mk (Date.mk (m.date.year.toNat : Int) m.date.month m.date.day) m.hour m.minute m.second m.millisecond = m
  rw [date_toNat_year hyear]

end Readings

section Arguments

variable {ms : Int}

/-- The argument of a time is its moment in the layout of the form. -/
theorem timeArgument_eq_text {form : DateForm} {layout : Layout} (hform : form.layout? = some layout)
    (h : Moment.HasFourDigitYear ms) :
    form.timeArgument (ofInt ms) = String.ofList (layout.text (Moment.ofMillis ms)) := by
  obtain ⟨hlow, hhigh⟩ := (Moment.hasFourDigitYear_iff ms).mp h
  unfold DateForm.timeArgument
  rw [Moment.ofNumber?_ofInt (by omega)]
  simp only [Moment.fieldText, Moment.yearText, integerChars_fourDigits h.1]
  cases form with
  | seconds => cases hform
  | yearFirst =>
    cases hform
    simp [yearFirstLayout, Layout.text, MomentField.get, MomentField.width]
  | yearLast =>
    cases hform
    simp [yearLastLayout, Layout.text, MomentField.get, MomentField.width]

/-- A time whose year has four digits is written in the international form. -/
theorem isoTime?_ofInt (h : Moment.HasFourDigitYear ms) :
    isoTime? (ofInt ms) = some (String.ofList (isoLayout.text (Moment.ofMillis ms))) := by
  obtain ⟨hlow, hhigh⟩ := (Moment.hasFourDigitYear_iff ms).mp h
  obtain ⟨hfirst, hlast⟩ := h
  have hyear : Moment.isoYear (Moment.ofMillis ms).date.year = padZero 4 (Moment.ofMillis ms).date.year.toNat :=
    if_pos ⟨by omega, hlast⟩
  unfold isoTime?
  rw [Moment.ofNumber?_ofInt (by omega)]
  simp [Moment.iso, hyear, isoLayout, Layout.text, MomentField.get, MomentField.width]

/-- From the argument the moment is read that the second of the time begins with. -/
theorem read_timeArgument {form : DateForm} {layout : Layout} (hform : form.layout? = some layout)
    (h : Moment.HasFourDigitYear ms) :
    layout.read (form.timeArgument (ofInt ms)).toList Moment.epoch = some (Moment.ofMillis (ms / 1000 * 1000)) := by
  have hholds := (Moment.isValid_ofMillis ms).holds h.2 layout
  rw [timeArgument_eq_text hform h, String.toList_ofList, layout.read_text hholds,
    fill_of_layout? hform (Int.le_trans (by decide) h.1), Moment.ofMillis_second]

/-- From the announced form the same moment is read, and the millisecond besides. -/
theorem read_isoTime? (h : Moment.HasFourDigitYear ms) :
    ∃ announced, isoTime? (ofInt ms) = some announced ∧ isoLayout.read announced.toList Moment.epoch =
      some { Moment.ofMillis (ms / 1000 * 1000) with millisecond := (ms % 1000).toNat } := by
  have hholds := (Moment.isValid_ofMillis ms).holds h.2 isoLayout
  refine ⟨_, isoTime?_ofInt h, ?_⟩
  rw [String.toList_ofList, isoLayout.read_text hholds, fill_isoLayout (Int.le_trans (by decide) h.1),
    Moment.ofMillis_second, ← Moment.millisecond_ofMillis]

/-- The times of a second have the same argument, and times of different seconds have different ones. -/
theorem timeArgument_eq_iff {form : DateForm} {layout : Layout} (hform : form.layout? = some layout) {other : Int}
    (h : Moment.HasFourDigitYear ms) (hother : Moment.HasFourDigitYear other) :
    form.timeArgument (ofInt ms) = form.timeArgument (ofInt other) ↔ ms / 1000 = other / 1000 := by
  constructor
  · intro hsame
    have hmoments := read_timeArgument hform h
    rw [hsame, read_timeArgument hform hother] at hmoments
    have hmillis := congrArg Moment.millis (Option.some.inj hmoments)
    rw [Moment.millis_ofMillis, Moment.millis_ofMillis] at hmillis
    omega
  · intro hsecond
    rw [timeArgument_eq_text hform h, timeArgument_eq_text hform hother, ← text_of_layout? hform (Moment.ofMillis ms),
      ← text_of_layout? hform (Moment.ofMillis other), ← Moment.ofMillis_second, ← Moment.ofMillis_second, hsecond]

end Arguments

/-- A time in a year of four digits is given to `date` in fifteen characters, in either order of the fields, from which the
same valid moment is read: the beginning of the second that the time lies in. That second is also the one that is read from
the announced form of the time. So the arguments of two times are the same exactly if the times lie in one second. -/
theorem timeArgument_names_second :
    (∀ ms, Moment.HasFourDigitYear ms → ∃ m : Moment, m.IsValid ∧ m.millis = ms / 1000 * 1000 ∧
      (∀ (form : DateForm) (layout : Layout), form.layout? = some layout →
        (form.timeArgument (ofInt ms)).length = 15 ∧
        layout.read (form.timeArgument (ofInt ms)).toList Moment.epoch = some m) ∧
      ∃ announced, isoTime? (ofInt ms) = some announced ∧
        isoLayout.read announced.toList Moment.epoch = some { m with millisecond := (ms % 1000).toNat }) ∧
    ∀ ms other, Moment.HasFourDigitYear ms → Moment.HasFourDigitYear other →
      ∀ (form : DateForm) (layout : Layout), form.layout? = some layout →
      (form.timeArgument (ofInt ms) = form.timeArgument (ofInt other) ↔ ms / 1000 = other / 1000) := by
  constructor
  · intro ms h
    refine ⟨Moment.ofMillis (ms / 1000 * 1000), Moment.isValid_ofMillis _, Moment.millis_ofMillis _, ?_, read_isoTime? h⟩
    intro form layout hform
    have hholds := (Moment.isValid_ofMillis ms).holds h.2 layout
    refine ⟨?_, read_timeArgument hform h⟩
    rw [timeArgument_eq_text hform h, String.length_ofList, layout.length_text hholds, width_of_layout? hform]
  · intro ms other h hother form layout hform
    exact timeArgument_eq_iff hform h hother

/-- The last second but one of a leap day. -/
theorem timeArgument_names_second_leapDay :
    Moment.HasFourDigitYear 951868798999 ∧
      DateForm.yearFirst.timeArgument (ofInt 951868798999) = "200002292359.58" ∧
      DateForm.yearLast.timeArgument (ofInt 951868798999) = "022923592000.58" ∧
      ∃ m : Moment, m.IsValid ∧ m.millis = 951868798000 ∧
        yearFirstLayout.read "200002292359.58".toList Moment.epoch = some m ∧
        yearLastLayout.read "022923592000.58".toList Moment.epoch = some m := by
  have hyear : Moment.HasFourDigitYear 951868798999 := (Moment.hasFourDigitYear_iff _).mpr (by decide)
  have hfirst : DateForm.yearFirst.timeArgument (ofInt 951868798999) = "200002292359.58" := by decide +kernel
  have hlast : DateForm.yearLast.timeArgument (ofInt 951868798999) = "022923592000.58" := by decide +kernel
  obtain ⟨m, hvalid, hmillis, hread, -⟩ := timeArgument_names_second.1 951868798999 hyear
  have hreadFirst := (hread .yearFirst yearFirstLayout rfl).2
  have hreadLast := (hread .yearLast yearLastLayout rfl).2
  rw [hfirst] at hreadFirst
  rw [hlast] at hreadLast
  exact ⟨hyear, hfirst, hlast, m, hvalid, hmillis, hreadFirst, hreadLast⟩

end Forms

end Sntp
