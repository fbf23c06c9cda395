import Sntp.Failure

/-!
# Texts without the blanks around them

What is left of a text without the blanks around it is said of the two texts alone (`IsTrimmed`): blanks stand before
and after it, and at neither end of it. Every text is trimmed to exactly one such text (`isTrimmed_trim`,
`IsTrimmed.trim_eq`).

A message is quoted in another one without the blanks around it, and without the label that may stand at its
beginning in any case (`IsQuoted`, `isQuoted_iff`).
-/

set_option autoImplicit false

namespace Sntp

namespace Text

/-- A text that does not begin with a blank is left as it is when blanks at the beginning are dropped. -/
theorem dropWhile_isBlank_eq_self {text : Chars} (h : ∀ c ∈ text.head?, isBlank c = false) :
    text.dropWhile isBlank = text := by
  cases text with
  | nil => rfl
  | cons c rest => exact List.dropWhile_cons_of_neg (by simp [h c rfl])

/-- When blanks at the beginning are dropped, what is left does not begin with one. -/
theorem isBlank_head?_dropWhile {text : Chars} {c : Char} (h : c ∈ (text.dropWhile isBlank).head?) : isBlank c = false := by
  have hhead := List.head?_dropWhile_not isBlank text
  rwa [Option.mem_def.mp h] at hhead

/-- What is no blank is not dropped with the blanks at the beginning. -/
theorem mem_dropWhile_of_mem {text : Chars} {c : Char} (hmem : c ∈ text) (hblank : isBlank c = false) :
    c ∈ text.dropWhile isBlank := by
  have hsplit : text.takeWhile isBlank ++ text.dropWhile isBlank = text := List.takeWhile_append_dropWhile
  rw [← hsplit, List.mem_append] at hmem
  refine hmem.resolve_left fun hfront => ?_
  rw [List.all_eq_true.mp List.all_takeWhile c hfront] at hblank
  cases hblank

/-- What is no blank is not trimmed away. -/
theorem mem_trim_of_mem {text : Chars} {c : Char} (hmem : c ∈ text) (hblank : isBlank c = false) : c ∈ trim text := by
  have hleft : c ∈ trimLeft text := mem_dropWhile_of_mem hmem hblank
  unfold trim trimRight
  rw [List.mem_reverse]
  exact mem_dropWhile_of_mem (List.mem_reverse.mpr hleft) hblank

/-- A text that neither begins nor ends with a blank is trimmed already. -/
theorem trim_eq_self {text : Chars} (hfirst : ∀ c ∈ text.head?, isBlank c = false)
    (hlast : ∀ c ∈ text.getLast?, isBlank c = false) : trim text = text := by
  unfold trim trimRight trimLeft
  rw [dropWhile_isBlank_eq_self hfirst, dropWhile_isBlank_eq_self, List.reverse_reverse]
  rwa [List.head?_reverse]

/-- Whether a text is what is left of another one without the blanks around it. -/
def IsTrimmed (text core : Chars) : Prop :=
  ∃ before after, text = before ++ core ++ after ∧ (∀ c ∈ before, isBlank c = true) ∧ (∀ c ∈ after, isBlank c = true) ∧
    (∀ c ∈ core.head?, isBlank c = false) ∧ ∀ c ∈ core.getLast?, isBlank c = false

/-- Trimming leaves what is left of a text without the blanks around it. -/
theorem isTrimmed_trim (text : Chars) : IsTrimmed text (trim text) := by
  have hright : trim text ++ ((trimLeft text).reverse.takeWhile isBlank).reverse = trimLeft text := by
    unfold trim trimRight
    rw [← List.reverse_append, List.takeWhile_append_dropWhile, List.reverse_reverse]
  refine ⟨text.takeWhile isBlank, ((trimLeft text).reverse.takeWhile isBlank).reverse, ?_, ?_, fun c hmem => ?_,
    fun c hfirst => ?_, fun c hlast => ?_⟩
  · rw [List.append_assoc, hright]
    exact List.takeWhile_append_dropWhile.symm
  · exact List.all_eq_true.mp List.all_takeWhile
  · exact List.all_eq_true.mp List.all_takeWhile c (List.mem_reverse.mp hmem)
  · -- Nothing but the end of the text was dropped after its beginning.
    have hkept : c ∈ (text.dropWhile isBlank).head? := by
      change c ∈ (trimLeft text).head?
      rw [← hright, List.head?_append, Option.mem_def.mp hfirst]
      rfl
    exact isBlank_head?_dropWhile hkept
  · unfold trim trimRight at hlast
    rw [List.getLast?_reverse] at hlast
    exact isBlank_head?_dropWhile hlast

/-- There is one way to trim a text. -/
theorem IsTrimmed.trim_eq {text core : Chars} (h : IsTrimmed text core) : trim text = core := by
  obtain ⟨before, after, rfl, hbefore, hafter, hfirst, hlast⟩ := h
  have hleft : trimLeft (before ++ core ++ after) = trimLeft (core ++ after) := by
    unfold trimLeft
    rw [List.append_assoc, List.dropWhile_append_of_pos hbefore]
  unfold trim
  rw [hleft]
  cases core with
  | nil =>
    have hnone : trimLeft ([] ++ after) = [] := by
      unfold trimLeft
      rw [List.nil_append, ← List.append_nil after, List.dropWhile_append_of_pos hafter, List.dropWhile_nil]
    rw [hnone]
    rfl
  | cons first rest =>
    have hkept : trimLeft (first :: rest ++ after) = first :: rest ++ after := dropWhile_isBlank_eq_self hfirst
    have hafter' : ∀ c ∈ after.reverse, isBlank c = true := fun c hmem => hafter c (List.mem_reverse.mp hmem)
    unfold trimRight
    rw [hkept, List.reverse_append, List.dropWhile_append_of_pos hafter', dropWhile_isBlank_eq_self, List.reverse_reverse]
    rwa [List.head?_reverse]

/-- What follows a word in a text follows characters there that are those of the word, the case aside. -/
theorem afterWord?_eq_some_iff (word text rest : Chars) :
    afterWord? word text = some rest ↔ ∃ said, text = said ++ rest ∧ said.map Char.toLower = word.map Char.toLower := by
  induction word generalizing text with
  | nil => simp [afterWord?, eq_comm]
  | cons w word ih =>
    cases text with
    | nil => simp [afterWord?]
    | cons c text =>
      rw [afterWord?, Option.ite_none_right_eq_some, ih]
      constructor
      · rintro ⟨hc, said, rfl, hsaid⟩
        exact ⟨c :: said, rfl, by rw [List.map_cons, List.map_cons, hc, hsaid]⟩
      · rintro ⟨said, htext, hsaid⟩
        cases said with
        | nil => cases hsaid
        | cons first said =>
          obtain ⟨rfl, rfl⟩ := List.cons_eq_cons.mp htext
          obtain ⟨hc, hrest⟩ := List.cons_eq_cons.mp hsaid
          exact ⟨hc, said, rfl, hrest⟩

/-- A letter is no blank, whatever its case. -/
theorem isBlank_eq_false_of_toLower {c : Char} (h : c.toLower = 'e') : isBlank c = false := by
  by_cases hcapital : 'A'.val ≤ c.val ∧ c.val ≤ 'Z'.val
  · have hrange : 65 ≤ c.toNat ∧ c.toNat ≤ 90 := by
      simpa [UInt32.le_iff_toNat_le] using hcapital
    unfold isBlank
    simp
    omega
  · have hsame : c.toLower = c := dif_neg hcapital
    rw [← hsame, h]
    decide

end Text

open Text

/-- Whether a message begins with the label `Error:`, in any case and blanks before it aside, and this rest follows. -/
def IsLabelled (message rest : Chars) : Prop :=
  ∃ before label, message = before ++ label ++ rest ∧ (∀ c ∈ before, isBlank c = true) ∧
    label.map Char.toLower = ['e', 'r', 'r', 'o', 'r', ':']

/-- What of a message is quoted in another one: what follows its label, or all of it if it has none, without the blanks
around it. -/
inductive IsQuoted (message : Chars) : Chars → Prop
  | labelled {rest quoted : Chars} (label : IsLabelled message rest) (trimmed : IsTrimmed rest quoted) :
    IsQuoted message quoted
  | plain {quoted : Chars} (unlabelled : ∀ rest, ¬ IsLabelled message rest) (trimmed : IsTrimmed message quoted) :
    IsQuoted message quoted

/-- What follows the label of a message is what follows the word after the blanks. -/
theorem isLabelled_iff (message rest : Chars) :
    IsLabelled message rest ↔ afterWord? "error:".toList (trimLeft message) = some rest := by
  rw [afterWord?_eq_some_iff]
  constructor
  · rintro ⟨before, label, rfl, hbefore, hlabel⟩
    refine ⟨label, ?_, hlabel⟩
    unfold trimLeft
    rw [List.append_assoc, List.dropWhile_append_of_pos hbefore]
    -- The label begins with a letter.
    refine dropWhile_isBlank_eq_self fun c hc => ?_
    cases label with
    | nil => cases hlabel
    | cons letter label =>
      obtain rfl := Option.some.inj hc
      exact isBlank_eq_false_of_toLower (List.cons_eq_cons.mp hlabel).1
  · rintro ⟨label, htext, hlabel⟩
    refine ⟨message.takeWhile isBlank, label, ?_, List.all_eq_true.mp List.all_takeWhile, hlabel⟩
    rw [List.append_assoc, ← htext]
    exact List.takeWhile_append_dropWhile.symm

/-- There is one way to quote a message. -/
theorem isQuoted_iff (message quoted : String) :
    IsQuoted message.toList quoted.toList ↔ withoutLabel message = quoted := by
  unfold withoutLabel
  rw [← String.toList_inj, String.toList_ofList]
  cases hlabel : afterWord? "error:".toList (trimLeft message.toList) with
  | some rest =>
    have hlabelled := (isLabelled_iff message.toList rest).mpr hlabel
    constructor
    · rintro (⟨hother, htrimmed⟩ | ⟨hnone, -⟩)
      · rw [isLabelled_iff, hlabel] at hother
        exact Option.some.inj hother ▸ htrimmed.trim_eq
      · exact absurd hlabelled (hnone rest)
    · intro htrim
      exact .labelled hlabelled (htrim ▸ isTrimmed_trim rest)
  | none =>
    have hunlabelled (rest : Chars) : ¬ IsLabelled message.toList rest := by
      rw [isLabelled_iff, hlabel]
      exact nofun
    constructor
    · rintro (⟨hlabelled, -⟩ | ⟨-, htrimmed⟩)
      · exact absurd hlabelled (hunlabelled _)
      · exact htrimmed.trim_eq
    · intro htrim
      exact .plain hunlabelled (htrim ▸ isTrimmed_trim message.toList)

/-- What is quoted of a failure is its summary. -/
theorem isQuoted_summary (failure : Failure) : IsQuoted failure.message.toList failure.summary.toList :=
  (isQuoted_iff failure.message failure.summary).mpr rfl

end Sntp
