import Sntp.Proofs.Lists
import Sntp.Proofs.Text.Formatting

/-!
# What stripping leaves of a text

Stripping goes through a text once. It deletes formatting sequences and nothing else (`Formatted`), and all that stand in
the text (`stripFormatting_around`), so that a text without any is left as it is (`stripFormatting_eq_self_iff`).

Deleting a sequence brings together what stands before and after it, and that may be a sequence, too. It is deleted only
when the text is stripped once more. This happens exactly if the text has an interrupted sequence, between whose
characters others stand (`IsInterrupted`, `hasSequence_stripFormatting_iff`); its escape character begins no sequence of
the text (`not_beginsWithSequence_of_interrupted`).
-/

set_option autoImplicit false

namespace Sntp.Text

/-- A text, and the same with formatting sequences set into it. -/
inductive Formatted : Chars → Chars → Prop
  | nil : Formatted [] []
  | character {plain text : Chars} (c : Char) : Formatted plain text → Formatted (c :: plain) (c :: text)
  | sequence {plain text sequence : Chars} : IsSequence sequence → Formatted plain text →
      Formatted plain (sequence ++ text)

/-- Whether a formatting sequence stands somewhere in a text. -/
def HasSequence (text : Chars) : Prop := ∃ front sequence back, text = front ++ sequence ++ back ∧ IsSequence sequence

/-- Whether a text is a formatting sequence with others set between its characters. -/
def IsInterrupted (text : Chars) : Prop :=
  ∃ first inner last middle, text = first :: (middle ++ [last]) ∧ IsSequence (first :: (inner ++ [last])) ∧
    Formatted inner middle ∧ middle ≠ inner

/-- Whether an interrupted sequence stands somewhere in a text. -/
def HasInterrupted (text : Chars) : Prop :=
  ∃ front part back, text = front ++ part ++ back ∧ IsInterrupted part

variable {plain text : Chars}

namespace Formatted

/-- A text stays in order when sequences are set into it. -/
theorem sublist (h : Formatted plain text) : plain.Sublist text := by
  induction h with
  | nil => exact .slnil
  | character c _ ih => exact ih.cons_cons c
  | sequence _ _ ih => exact List.sublist_append_of_sublist_right ih

/-- If a text has no sequence, none was set into it. -/
theorem eq_of_not_hasSequence (h : Formatted plain text) (hnone : ¬ HasSequence text) : plain = text := by
  induction h with
  | nil => rfl
  | character c _ ih =>
    rw [ih]
    rintro ⟨front, sequence, back, rfl, hsequence⟩
    exact hnone ⟨c :: front, sequence, back, rfl, hsequence⟩
  | @sequence plain text sequence hsequence _ _ => exact absurd ⟨[], sequence, text, rfl, hsequence⟩ hnone

/-- What stands before the first sequence that was set into a text is a beginning of the plain text. -/
theorem exists_first_sequence (h : Formatted plain text) (hne : text ≠ plain) :
    ∃ front sequence rest, text = front ++ sequence ++ rest ∧ IsSequence sequence ∧ front.IsPrefix plain := by
  induction h with
  | nil => exact absurd rfl hne
  | character c _ ih =>
    obtain ⟨front, sequence, rest, rfl, hsequence, hfront⟩ := ih fun heq => hne (congrArg (c :: ·) heq)
    exact ⟨c :: front, sequence, rest, rfl, hsequence, List.cons_prefix_cons.mpr ⟨rfl, hfront⟩⟩
  | @sequence plain text sequence hsequence _ _ => exact ⟨[], sequence, text, rfl, hsequence, List.nil_prefix⟩

/-- Sequences set into a text without escape characters are deleted, whatever follows. -/
theorem stripFormatting_append (h : Formatted plain text) (hplain : escape ∉ plain) (back : Chars) :
    stripFormatting (text ++ back) = plain ++ stripFormatting back := by
  induction h with
  | nil => rfl
  | character c _ ih =>
    obtain ⟨hc, hrest⟩ := List.ne_and_not_mem_of_not_mem_cons hplain
    rw [List.cons_append, stripFormatting_cons (not_beginsWithSequence_of_ne (Ne.symm hc) _), ih hrest, List.cons_append]
  | sequence hsequence _ ih => rw [List.append_assoc, stripFormatting_sequence hsequence, ih hplain]

end Formatted

/-- What stripping deletes are sequences. -/
theorem formatted_stripFormatting (text : Chars) : Formatted (stripFormatting text) text := by
  induction text using strippingInduction with
  | nil => exact .nil
  | sequence sequence rest hsequence ih =>
    rw [stripFormatting_sequence hsequence]
    exact .sequence hsequence ih
  | character c rest hnone ih =>
    rw [stripFormatting_cons hnone]
    exact .character c ih

section Occurrences

/-- No sequence goes on with an escape character. -/
theorem not_cutsThrough_escape (before after : Chars) : ¬ CutsThrough IsSequence before (escape :: after) := by
  rintro ⟨front, start, finish, rest, -, hafter, hstart, hfinish, hsequence⟩
  obtain ⟨first, start, rfl⟩ := List.exists_cons_of_ne_nil hstart
  obtain ⟨next, finish, rfl⟩ := List.exists_cons_of_ne_nil hfinish
  obtain ⟨rfl, -⟩ := List.cons.inj hafter
  exact hsequence.eq_escape_and_notMem.2 (by simp)

/-- A text is stripped in two parts where an escape character stands. -/
theorem stripFormatting_append_escape (front back : Chars) :
    stripFormatting (front ++ escape :: back) = stripFormatting front ++ stripFormatting (escape :: back) :=
  stripFormatting_append (not_cutsThrough_escape front back)

/-- Every sequence of a text is deleted. -/
theorem stripFormatting_around {sequence : Chars} (h : IsSequence sequence) (front back : Chars) :
    stripFormatting (front ++ sequence ++ back) = stripFormatting front ++ stripFormatting back := by
  obtain ⟨first, rest, rfl⟩ := List.exists_cons_of_ne_nil h.ne_nil
  obtain ⟨rfl, -⟩ := h.eq_escape_and_notMem
  rw [List.append_assoc, List.cons_append, stripFormatting_append_escape, ← List.cons_append,
    stripFormatting_sequence h]

/-- Stripping leaves exactly the texts without a sequence as they are. -/
theorem stripFormatting_eq_self_iff (text : Chars) : stripFormatting text = text ↔ ¬ HasSequence text := by
  constructor
  · rintro hself ⟨front, sequence, back, rfl, hsequence⟩
    have hfront := (formatted_stripFormatting front).sublist.length_le
    have hback := (formatted_stripFormatting back).sublist.length_le
    have hpositive := List.length_pos_iff.mpr hsequence.ne_nil
    have hlength := congrArg List.length hself
    rw [stripFormatting_around hsequence] at hlength
    simp only [List.length_append] at hlength
    omega
  · exact (formatted_stripFormatting text).eq_of_not_hasSequence

end Occurrences

section Remnants

/-- A character that is left was there, and began no sequence; what is left before and after it is what is left of the
text before and after it. -/
theorem exists_of_stripFormatting_eq {front back : Chars} {c : Char} (h : stripFormatting text = front ++ c :: back) :
    ∃ before after, text = before ++ c :: after ∧ ¬ BeginsWithSequence (c :: after) ∧ stripFormatting before = front ∧
      stripFormatting after = back := by
  induction text using strippingInduction generalizing front with
  | nil => simp [stripFormatting, stripFrom] at h
  | sequence sequence rest hsequence ih =>
    rw [stripFormatting_sequence hsequence] at h
    obtain ⟨before, after, rfl, hnone, hbefore, hafter⟩ := ih h
    exact ⟨sequence ++ before, after, by rw [List.append_assoc], hnone, by rwa [stripFormatting_sequence hsequence], hafter⟩
  | character first rest hnone ih =>
    rw [stripFormatting_cons hnone] at h
    cases front with
    | nil =>
      obtain ⟨rfl, hrest⟩ := List.cons.inj h
      exact ⟨[], rest, rfl, hnone, rfl, hrest⟩
    | cons first' front =>
      obtain ⟨rfl, hrest⟩ := List.cons.inj h
      obtain ⟨before, after, rfl, hkept, hbefore, hafter⟩ := ih hrest
      refine ⟨first :: before, after, rfl, hkept, ?_, hafter⟩
      have hbegins : ¬ BeginsWithSequence (first :: before) := by
        rintro ⟨sequence, later, hsequence, htext⟩
        exact hnone ⟨sequence, later ++ c :: after, hsequence, by rw [← List.cons_append, htext, List.append_assoc]⟩
      rw [stripFormatting_cons hbegins, hbefore]

/-- An escape character begins no sequence where an interrupted one begins. -/
theorem not_beginsWithSequence_of_interrupted {inner middle : Chars} {last : Char}
    (hsequence : IsSequence (escape :: (inner ++ [last]))) (hmiddle : Formatted inner middle) (hne : middle ≠ inner)
    (back : Chars) : ¬ BeginsWithSequence (escape :: (middle ++ back)) := by
  rintro ⟨found, later, hfound, htext⟩
  obtain ⟨front, interruption, rest, rfl, hinterruption, remaining, rfl⟩ := hmiddle.exists_first_sequence hne
  obtain ⟨first, interruption, rfl⟩ := List.exists_cons_of_ne_nil hinterruption.ne_nil
  obtain ⟨rfl, -⟩ := hinterruption.eq_escape_and_notMem
  obtain ⟨first, found, rfl⟩ := List.exists_cons_of_ne_nil hfound.ne_nil
  obtain ⟨rfl, hescape⟩ := hfound.eq_escape_and_notMem
  have hafter : found ++ later = front ++ escape :: (interruption ++ rest ++ back) := by
    simpa using (List.cons.inj htext).2.symm
  -- It would end before the interruption, and the sequence that is interrupted would begin with it.
  rcases append_eq_append_cons hafter with ⟨_, rfl⟩ | ⟨between, rfl, -⟩
  · exact hescape (by simp)
  · have hwhole := hfound.eq_of_isPrefix hsequence ⟨between ++ remaining ++ [last], by simp⟩
    simpa using congrArg List.length hwhole

/-- A sequence is left exactly if an interrupted one stands in the text. -/
theorem hasSequence_stripFormatting_iff (text : Chars) : HasSequence (stripFormatting text) ↔ HasInterrupted text := by
  constructor
  · rintro ⟨front, sequence, back, hleft, hsequence⟩
    obtain ⟨inner, last, rfl⟩ := hsequence.exists_inner
    rw [List.append_assoc, List.cons_append, List.append_assoc] at hleft
    obtain ⟨before, opened, rfl, hnone, -, hopened⟩ := exists_of_stripFormatting_eq hleft
    obtain ⟨middle, after, rfl, -, rfl, -⟩ := exists_of_stripFormatting_eq hopened
    refine ⟨before, escape :: (middle ++ [last]), after, by simp, _, _, last, middle, rfl, hsequence,
      formatted_stripFormatting middle, fun heq => hnone ?_⟩
    exact ⟨_, after, hsequence, by rw [← heq]; simp⟩
  · rintro ⟨front, part, back, rfl, first, inner, last, middle, rfl, hsequence, hmiddle, hne⟩
    obtain ⟨rfl, hescape⟩ := hsequence.eq_escape_and_notMem
    have hnone := not_beginsWithSequence_of_interrupted hsequence hmiddle hne ([last] ++ back)
    have hinner : escape ∉ inner := fun hmem => hescape (List.mem_append_left _ hmem)
    have hlast : last ≠ escape := fun heq => hescape (by simp [heq])
    refine ⟨stripFormatting front, escape :: (inner ++ [last]), stripFormatting back, ?_, hsequence⟩
    calc stripFormatting (front ++ escape :: (middle ++ [last]) ++ back)
        = stripFormatting front ++ stripFormatting (escape :: (middle ++ ([last] ++ back))) := by
          rw [List.append_assoc, List.cons_append, stripFormatting_append_escape, List.append_assoc]
      _ = stripFormatting front ++ escape :: (inner ++ stripFormatting (last :: back)) := by
          rw [stripFormatting_cons hnone, hmiddle.stripFormatting_append hinner, List.singleton_append]
      _ = stripFormatting front ++ escape :: (inner ++ [last]) ++ stripFormatting back := by
          rw [stripFormatting_cons (not_beginsWithSequence_of_ne hlast back)]
          simp

end Remnants

/-- Stripping deletes all formatting sequences that stand in a text, and nothing else. So what is left is a subsequence of
the text, and all of it exactly if it has no sequence. A sequence is left, and stripping once more deletes it, exactly if
an interrupted sequence stands in the text. -/
theorem stripFormatting_deletes (text : Chars) :
    Formatted (stripFormatting text) text ∧ (stripFormatting text).Sublist text ∧
      (∀ front sequence back, text = front ++ sequence ++ back → IsSequence sequence →
        stripFormatting text = stripFormatting front ++ stripFormatting back) ∧
      (stripFormatting text = text ↔ ¬ HasSequence text) ∧
      (HasSequence (stripFormatting text) ↔ HasInterrupted text) ∧
      (stripFormatting (stripFormatting text) = stripFormatting text ↔ ¬ HasInterrupted text) := by
  have hformatted := formatted_stripFormatting text
  refine ⟨hformatted, hformatted.sublist, ?_, stripFormatting_eq_self_iff text, hasSequence_stripFormatting_iff text, ?_⟩
  · rintro front sequence back rfl hsequence
    exact stripFormatting_around hsequence front back
  · rw [stripFormatting_eq_self_iff, hasSequence_stripFormatting_iff]

/-- A sequence between the bracket and the letter of another one. -/
def nestedSequence : Chars := "\x1b[\x1b[mm".toList

/-- The inner sequence is deleted, and the outer one is left. -/
theorem stripFormatting_deletes_nested :
    stripFormatting nestedSequence = stripFormatting "\x1b[".toList ++ stripFormatting "m".toList ∧
      HasSequence (stripFormatting nestedSequence) ∧
      stripFormatting (stripFormatting nestedSequence) ≠ stripFormatting nestedSequence := by
  have hreset : IsSequence [escape, '[', 'm'] := ⟨[], 'm', rfl, nofun, rfl⟩
  have hinterrupted : IsInterrupted nestedSequence :=
    ⟨escape, ['['], 'm', ['[', escape, '[', 'm'], rfl, hreset, .character '[' (.sequence hreset .nil), by decide⟩
  have hnested : HasInterrupted nestedSequence := ⟨[], nestedSequence, [], rfl, hinterrupted⟩
  obtain ⟨-, -, haround, -, hleft, hagain⟩ := stripFormatting_deletes nestedSequence
  exact ⟨haround _ _ _ rfl hreset, hleft.mpr hnested, fun hsame => hagain.mp hsame hnested⟩

-- Sequences beside each other leave nothing behind.
example : stripFormatting "\x1b[91mERROR\x1b[39m".toList = "ERROR".toList := by decide

end Sntp.Text
