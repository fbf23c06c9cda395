import Sntp.Proofs.Text.Ascii
import Sntp.Proofs.Text.Pieces
import Sntp.Text.Formatting

/-!
# Formatting sequences

A text begins with at most one formatting sequence (`IsSequence`), and `sequenceLength?` gives its length
(`IsSequence.sequenceLength?_append`, `exists_isSequence`). So stripping goes through a text step by step: it deletes a
sequence that the text begins with (`stripFormatting_sequence`), and otherwise keeps a character
(`stripFormatting_cons`). One of the two can be done in every text that is not empty (`exists_strippingStep`), and
proofs about all texts follow these steps (`strippingInduction`).

A text in pieces is stripped piece by piece, as long as no sequence is cut (`stripFormatting_flatten`). Sequences are
ASCII, so what is left of texts that are alike as far as ASCII goes is alike, too (`AsciiAlike.stripFormatting`).
-/

set_option autoImplicit false

namespace Sntp.Text

/-- Whether a text is one formatting sequence. -/
def IsSequence (text : Chars) : Prop :=
  ∃ parameters final, text = escape :: '[' :: (parameters ++ [final]) ∧ (∀ c ∈ parameters, isParameter c = true) ∧
    final.isAlpha = true

/-- Whether a formatting sequence stands at the start of a text. -/
def BeginsWithSequence (text : Chars) : Prop := ∃ sequence rest, IsSequence sequence ∧ text = sequence ++ rest

/-- A letter is no parameter of a sequence. -/
theorem isParameter_of_isAlpha {c : Char} (h : c.isAlpha = true) : isParameter c = false := by
  have hdigit : c.isDigit = false := by
    simp only [Char.isAlpha, Char.isUpper, Char.isLower, Char.isDigit, Bool.or_eq_true, Bool.and_eq_true,
      decide_eq_true_eq, Bool.and_eq_false_imp, decide_eq_false_iff_not] at h ⊢
    grind
  have hsemicolon : c ≠ ';' := by
    rintro rfl
    cases h
  simp [isParameter, hdigit, hsemicolon]

/-- Letters and digits are ASCII. -/
theorem isAscii_of_isAlphanum {c : Char} (h : c.isAlphanum = true) : IsAscii c := by
  simp only [Char.isAlphanum, Char.isAlpha, Char.isUpper, Char.isLower, Char.isDigit, Bool.or_eq_true, Bool.and_eq_true,
    decide_eq_true_eq, UInt32.le_iff_toNat_le, ge_iff_le] at h
  change ((65 ≤ c.toNat ∧ c.toNat ≤ 90) ∨ (97 ≤ c.toNat ∧ c.toNat ≤ 122)) ∨ (48 ≤ c.toNat ∧ c.toNat ≤ 57) at h
  unfold IsAscii
  omega

/-- The parameters of a sequence are ASCII. -/
theorem isAscii_of_isParameter {c : Char} (h : isParameter c = true) : IsAscii c := by
  rcases (Bool.or_eq_true _ _).mp h with hdigit | hsemicolon
  · exact isAscii_of_isAlphanum (by simp [Char.isAlphanum, hdigit])
  · obtain rfl := eq_of_beq hsemicolon
    unfold IsAscii
    decide

/-- A sequence is not empty. -/
theorem IsSequence.ne_nil {sequence : Chars} (h : IsSequence sequence) : sequence ≠ [] := by
  obtain ⟨parameters, final, rfl, -, -⟩ := h
  exact List.cons_ne_nil _ _

/-- The escape character opens a sequence, and stands nowhere else in it. -/
theorem IsSequence.eq_escape_and_notMem {first : Char} {rest : Chars} (h : IsSequence (first :: rest)) :
    first = escape ∧ escape ∉ rest := by
  obtain ⟨parameters, final, htext, hparameters, hfinal⟩ := h
  obtain ⟨rfl, rfl⟩ := List.cons.inj htext
  refine ⟨rfl, fun hmem => ?_⟩
  rcases List.mem_cons.mp hmem with hbracket | hmem
  · exact absurd hbracket (by decide)
  rcases List.mem_append.mp hmem with hparameter | hlast
  · exact absurd (hparameters escape hparameter) (by decide)
  · obtain rfl := List.mem_singleton.mp hlast
    exact absurd hfinal (by decide)

/-- Between the escape character and the letter at the end stands at least the bracket. -/
theorem IsSequence.exists_inner {sequence : Chars} (h : IsSequence sequence) :
    ∃ inner last, sequence = escape :: (inner ++ [last]) := by
  obtain ⟨parameters, final, rfl, -, -⟩ := h
  exact ⟨'[' :: parameters, final, rfl⟩

/-- A sequence is ASCII. -/
theorem IsSequence.isAscii {sequence : Chars} (h : IsSequence sequence) : ∀ c ∈ sequence, IsAscii c := by
  obtain ⟨parameters, final, rfl, hparameters, hfinal⟩ := h
  have hall : ∀ c ∈ parameters ++ [final], IsAscii c := by
    intro c hmem
    rcases List.mem_append.mp hmem with hparameter | hlast
    · exact isAscii_of_isParameter (hparameters c hparameter)
    · obtain rfl := List.mem_singleton.mp hlast
      exact isAscii_of_isAlphanum (by simp [Char.isAlphanum, hfinal])
  simpa [IsAscii, escape] using hall

/-- The length of a sequence is found, whatever follows it. -/
theorem IsSequence.sequenceLength?_append {sequence : Chars} (h : IsSequence sequence) (rest : Chars) :
    sequenceLength? (sequence ++ rest) = some sequence.length := by
  obtain ⟨parameters, final, rfl, hparameters, hfinal⟩ := h
  have hstop := isParameter_of_isAlpha hfinal
  have htake : (parameters ++ final :: rest).takeWhile isParameter = parameters := by
    rw [List.takeWhile_append_of_pos hparameters, List.takeWhile_cons_of_neg (by simp [hstop]), List.append_nil]
  have hdrop : (parameters ++ final :: rest).dropWhile isParameter = final :: rest := by
    rw [List.dropWhile_append_of_pos hparameters, List.dropWhile_cons_of_neg (by simp [hstop])]
  simp [sequenceLength?, htake, hdrop, hfinal]

/-- The length that is found is that of a sequence which the text begins with. -/
theorem exists_isSequence {text : Chars} {length : Nat} (h : sequenceLength? text = some length) :
    ∃ sequence rest, IsSequence sequence ∧ text = sequence ++ rest ∧ sequence.length = length := by
  unfold sequenceLength? at h
  split at h
  case h_2 => cases h
  case h_1 opening rest =>
    by_cases hopening : opening = escape
    · rw [if_pos hopening] at h
      subst hopening
      split at h
      case h_2 => cases h
      case h_1 final later hdrop =>
        by_cases hfinal : final.isAlpha
        · rw [if_pos hfinal] at h
          have hrest : rest = rest.takeWhile isParameter ++ final :: later := by
            rw [← hdrop, List.takeWhile_append_dropWhile]
          refine ⟨escape :: '[' :: (rest.takeWhile isParameter ++ [final]), later,
            ⟨_, final, rfl, fun c hmem => ?_, hfinal⟩, ?_, ?_⟩
          · exact List.all_eq_true.mp List.all_takeWhile c hmem
          · simpa using hrest
          · simpa using Option.some.inj h
        · rw [if_neg hfinal] at h
          cases h
    · rw [if_neg hopening] at h
      cases h

/-- No sequence begins with another one. -/
theorem IsSequence.eq_of_isPrefix {sequence other : Chars} (h : IsSequence sequence) (hother : IsSequence other)
    (hbegins : sequence.IsPrefix other) : sequence = other := by
  obtain ⟨rest, rfl⟩ := hbegins
  have hlength := hother.sequenceLength?_append []
  rw [List.append_nil, h.sequenceLength?_append rest, Option.some.injEq, List.length_append] at hlength
  rw [List.length_eq_zero_iff.mp (by omega : rest.length = 0), List.append_nil]

/-- Skipping characters is stripping what comes after them. -/
theorem stripFrom_eq_drop (skip : Nat) (text : Chars) : stripFrom skip text = stripFormatting (text.drop skip) := by
  induction skip generalizing text with
  | zero => rfl
  | succ skip ih =>
    cases text with
    | nil => rfl
    | cons c rest => exact ih rest

/-- A sequence is deleted. -/
theorem stripFormatting_sequence {sequence : Chars} (h : IsSequence sequence) (rest : Chars) :
    stripFormatting (sequence ++ rest) = stripFormatting rest := by
  have hlength := h.sequenceLength?_append rest
  cases sequence with
  | nil => exact absurd rfl h.ne_nil
  | cons c tail =>
    calc stripFormatting (c :: tail ++ rest) = stripFrom tail.length (tail ++ rest) := by
          unfold stripFormatting
          rw [List.cons_append, stripFrom]
          rw [List.cons_append] at hlength
          rw [hlength]
          rfl
      _ = stripFormatting rest := by rw [stripFrom_eq_drop, List.drop_left]

/-- A character that begins no sequence is kept. -/
theorem stripFormatting_cons {c : Char} {rest : Chars} (h : ¬ BeginsWithSequence (c :: rest)) :
    stripFormatting (c :: rest) = c :: stripFormatting rest := by
  have hnone : sequenceLength? (c :: rest) = none := by
    rw [Option.eq_none_iff_forall_ne_some]
    intro length hlength
    obtain ⟨sequence, later, hsequence, htext, -⟩ := exists_isSequence hlength
    exact h ⟨sequence, later, hsequence, htext⟩
  unfold stripFormatting
  rw [stripFrom, hnone]

/-- No sequence begins with anything but the escape character. -/
theorem not_beginsWithSequence_of_ne {c : Char} (h : c ≠ escape) (rest : Chars) : ¬ BeginsWithSequence (c :: rest) := by
  rintro ⟨sequence, later, hsequence, htext⟩
  obtain ⟨first, sequence, rfl⟩ := List.exists_cons_of_ne_nil hsequence.ne_nil
  obtain ⟨rfl, -⟩ := List.cons.inj htext
  exact h hsequence.eq_escape_and_notMem.1

/-- A text is empty, or it begins with a sequence, or with a character that begins none. -/
theorem exists_strippingStep (text : Chars) :
    text = [] ∨ BeginsWithSequence text ∨ ∃ c rest, text = c :: rest ∧ ¬ BeginsWithSequence text := by
  by_cases hbegins : BeginsWithSequence text
  · exact .inr (.inl hbegins)
  · cases text with
    | nil => exact .inl rfl
    | cons c rest => exact .inr (.inr ⟨c, rest, rfl, hbegins⟩)

/-- What is true of the empty text, and stays true when a sequence comes before a text, or a character that then begins
none, is true of every text. -/
@[elab_as_elim] theorem strippingInduction {motive : Chars → Prop} (nil : motive [])
    (sequence : ∀ sequence rest, IsSequence sequence → motive rest → motive (sequence ++ rest))
    (character : ∀ c rest, ¬ BeginsWithSequence (c :: rest) → motive rest → motive (c :: rest)) (text : Chars) :
    motive text := by
  -- A step strips one character or several, hence the induction on the length.
  induction hlength : text.length using Nat.strongRecOn generalizing text with
  | ind length ih =>
    rcases exists_strippingStep text with rfl | ⟨front, rest, hfront, rfl⟩ | ⟨c, rest, rfl, hnone⟩
    · exact nil
    · have hpositive := List.length_pos_iff.mpr hfront.ne_nil
      exact sequence front rest hfront (ih rest.length (by rw [← hlength, List.length_append]; omega) rest rfl)
    · exact character c rest hnone (ih rest.length (by simp [← hlength]) rest rfl)

/-- A sequence stands at the start of a text in two parts only if it stands at the start of the first part, or the
cut goes through one. -/
theorem beginsWithSequence_of_append {before after : Chars} (hne : before ≠ [])
    (hcut : ¬ CutsThrough IsSequence before after) (h : BeginsWithSequence (before ++ after)) :
    BeginsWithSequence before := by
  obtain ⟨sequence, rest, hsequence, htext⟩ := h
  rcases List.append_eq_append_iff.mp htext with ⟨finish, hwhole, hafter⟩ | ⟨later, hbefore, -⟩
  · by_cases hfinish : finish = []
    · exact ⟨sequence, [], hsequence, by rw [hwhole, hfinish, List.append_nil, List.append_nil]⟩
    · exact absurd ⟨[], before, finish, rest, rfl, hafter, hne, hfinish, hwhole ▸ hsequence⟩ hcut
  · exact ⟨sequence, later, hsequence, hbefore⟩

/-- A text in two parts is stripped part by part, unless the cut goes through a sequence. -/
theorem stripFormatting_append {before after : Chars} (h : ¬ CutsThrough IsSequence before after) :
    stripFormatting (before ++ after) = stripFormatting before ++ stripFormatting after := by
  have hlasting := lasting_cutsThrough IsSequence
  induction before using strippingInduction with
  | nil => rfl
  | sequence sequence rest hsequence ih =>
    have hrest : ¬ CutsThrough IsSequence rest after := fun hcut => h (hlasting sequence rest after hcut)
    rw [List.append_assoc, stripFormatting_sequence hsequence, stripFormatting_sequence hsequence, ih hrest]
  | character c rest hnone ih =>
    have hrest : ¬ CutsThrough IsSequence rest after := fun hcut => h (hlasting [c] rest after hcut)
    have hkept : ¬ BeginsWithSequence (c :: (rest ++ after)) := fun hbegins =>
      hnone (beginsWithSequence_of_append (List.cons_ne_nil c rest) h hbegins)
    rw [List.cons_append, stripFormatting_cons hkept, stripFormatting_cons hnone, ih hrest, List.cons_append]

/-- Pieces that cut no sequence are stripped one by one. -/
theorem stripFormatting_flatten {pieces : List Chars} (h : Uncut (CutsThrough IsSequence) pieces) :
    stripFormatting pieces.flatten = (pieces.map stripFormatting).flatten :=
  h.flatten_map rfl (lasting_cutsThrough IsSequence) fun _ _ => stripFormatting_append

section Ascii

variable {text other : Chars}

/-- Texts that are alike both begin with a sequence if one of them does. -/
theorem BeginsWithSequence.alike (h : BeginsWithSequence text) (halike : AsciiAlike text other) :
    BeginsWithSequence other := by
  obtain ⟨sequence, rest, hsequence, rfl⟩ := h
  obtain ⟨rest', rfl, -⟩ := halike.exists_append hsequence.isAscii
  exact ⟨sequence, rest', hsequence, rfl⟩

/-- What is not ASCII is kept. -/
theorem stripFormatting_foreign {run : Chars} (h : ∀ c ∈ run, ¬ IsAscii c) (text : Chars) :
    stripFormatting (run ++ text) = run ++ stripFormatting text := by
  induction run with
  | nil => rfl
  | cons c run ih =>
    obtain ⟨hc, hrun⟩ := List.forall_mem_cons.mp h
    have hne : c ≠ escape := by
      rintro rfl
      exact hc (by unfold IsAscii; decide)
    rw [List.cons_append, stripFormatting_cons (not_beginsWithSequence_of_ne hne _), ih hrun, List.cons_append]

/-- What is left of texts that are alike is alike. -/
theorem AsciiAlike.stripFormatting (h : AsciiAlike text other) :
    AsciiAlike (stripFormatting text) (stripFormatting other) := by
  induction hlength : text.length using Nat.strongRecOn generalizing text other with
  | ind length ih =>
    rcases exists_strippingStep text with rfl | ⟨sequence, rest, hsequence, rfl⟩ | ⟨c, rest, rfl, hnone⟩
    · obtain rfl := h.eq_nil
      exact h
    · obtain ⟨rest', rfl, hrest⟩ := h.exists_append hsequence.isAscii
      rw [stripFormatting_sequence hsequence, stripFormatting_sequence hsequence]
      have hpositive := List.length_pos_iff.mpr hsequence.ne_nil
      exact ih rest.length (by rw [← hlength, List.length_append]; omega) hrest rfl
    · have hother : ¬ BeginsWithSequence other := fun hbegins => hnone (hbegins.alike h.symm)
      generalize htext : c :: rest = text at h hnone hlength
      cases h with
      | nil => cases htext
      | @same first text other hfirst h =>
        rw [stripFormatting_cons hnone, stripFormatting_cons hother]
        exact .same hfirst (ih text.length (by simp [← hlength]) h rfl)
      | @foreign run run' text other hrun hrun' h =>
        rw [stripFormatting_foreign hrun.not_isAscii, stripFormatting_foreign hrun'.not_isAscii]
        have hpositive := List.length_pos_iff.mpr hrun.ne_nil
        exact .foreign hrun hrun' (ih text.length (by rw [← hlength, List.length_append]; omega) h rfl)

end Ascii

end Sntp.Text
