import Sntp.Proofs.Text.Formatting
import Sntp.Proofs.Text.Trimming
import Sntp.Text.Complaint

/-!
# Texts that mention a complaint

A text complains if, formatting aside, one of the phrases stands somewhere in it, in any case, with no word that runs on
at either end (`Mentions`, `isComplaint_iff`).

A phrase is found in a text in two parts exactly if it is found in one of them, unless the cut goes through a phrase, or
between a phrase and a word that runs on from it (`mentions_append_iff`): the one hides a phrase, the other makes one. So
whether a text in pieces complains can be told from the pieces (`mentions_flatten_iff`). Phrases and words are ASCII, and
no other character matters (`AsciiAlike.isComplaint_eq`).
-/

set_option autoImplicit false

namespace Sntp.Text

/-- Whether a word runs up to the end of a text. -/
def EndsInWord (text : Chars) : Prop := ∃ c ∈ text.getLast?, isWordCharacter c = true

/-- Whether a word runs on at the start of a text. -/
def StartsInWord (text : Chars) : Prop := ∃ c ∈ text.head?, isWordCharacter c = true

/-- Whether a text is one of the phrases that complain, in any case. -/
def IsPhrase (text : Chars) : Prop := ∃ phrase ∈ complaintPhrases, text.map Char.toLower = phrase.map Char.toLower

/-- Whether a phrase that complains stands in a text as words of their own. -/
def Mentions (text : Chars) : Prop :=
  ∃ front phrase back, text = front ++ phrase ++ back ∧ IsPhrase phrase ∧ ¬ EndsInWord front ∧ ¬ StartsInWord back

section Words

variable {text : Chars}

/-- The empty text does not end in a word. -/
@[simp] theorem not_endsInWord_nil : ¬ EndsInWord [] := by simp [EndsInWord]

/-- The empty text does not start in a word. -/
@[simp] theorem not_startsInWord_nil : ¬ StartsInWord [] := by simp [StartsInWord]

/-- The last character decides whether a text ends in a word. -/
@[simp] theorem endsInWord_concat (text : Chars) (c : Char) : EndsInWord (text ++ [c]) ↔ isWordCharacter c = true := by
  simp [EndsInWord]

/-- What stands before a text does not decide whether it ends in a word. -/
theorem endsInWord_append_iff (front : Chars) (h : text ≠ []) : EndsInWord (front ++ text) ↔ EndsInWord text := by
  unfold EndsInWord
  rw [List.getLast?_append, List.getLast?_eq_some_getLast h, Option.some_or]

/-- What stands after a text does not decide whether it starts in a word. -/
theorem startsInWord_append_iff (h : text ≠ []) (back : Chars) : StartsInWord (text ++ back) ↔ StartsInWord text := by
  unfold StartsInWord
  rw [List.head?_append, List.head?_eq_some_head h, Option.some_or]

/-- The program looks at the first character of a text to see whether it starts in a word. -/
theorem startsOutsideWord_iff (text : Chars) : startsOutsideWord text = true ↔ ¬ StartsInWord text := by
  cases text <;> simp [startsOutsideWord, StartsInWord]

/-- Small letters and capitals are characters of words alike. -/
theorem isWordCharacter_toLower (c : Char) : isWordCharacter c.toLower = isWordCharacter c := by
  by_cases hcapital : c.isUpper
  · have hletter : c.isAlpha = true := by simp [Char.isAlpha, hcapital]
    simp [isWordCharacter, Char.isAlphanum, hletter]
  · rw [Char.toLower_eq_of_not_isUpper hcapital]

/-- Capitals do not decide whether a text starts in a word. -/
theorem startsInWord_map_toLower (text : Chars) : StartsInWord (text.map Char.toLower) ↔ StartsInWord text := by
  cases text with
  | nil => rfl
  | cons c rest => simp [StartsInWord, isWordCharacter_toLower]

/-- Capitals do not decide whether a text ends in a word. -/
theorem endsInWord_map_toLower (text : Chars) : EndsInWord (text.map Char.toLower) ↔ EndsInWord text := by
  rcases text.eq_nil_or_concat with rfl | ⟨front, c, rfl⟩
  · rfl
  · simp [isWordCharacter_toLower]

/-- A phrase begins and ends in a word. -/
theorem IsPhrase.inWord (h : IsPhrase text) : StartsInWord text ∧ EndsInWord text := by
  have hall : ∀ phrase ∈ complaintPhrases, StartsInWord phrase ∧ EndsInWord phrase := by
    simp [complaintPhrases, StartsInWord, EndsInWord, isWordCharacter]
  obtain ⟨phrase, hphrase, htext⟩ := h
  obtain ⟨hstarts, hends⟩ := hall phrase hphrase
  rw [← startsInWord_map_toLower, ← endsInWord_map_toLower, htext, startsInWord_map_toLower, endsInWord_map_toLower]
  exact ⟨hstarts, hends⟩

/-- A phrase is not empty. -/
theorem IsPhrase.ne_nil (h : IsPhrase text) : text ≠ [] := by
  rintro rfl
  exact not_startsInWord_nil h.inWord.1

end Words

section Reading

/-- A text begins with a phrase if it says it, in capitals or not, and no word goes on after it. -/
theorem beginsWithPhrase_iff (text phrase : Chars) :
    beginsWithPhrase text phrase = true ↔
      ∃ said back, text = said ++ back ∧ said.map Char.toLower = phrase.map Char.toLower ∧ ¬ StartsInWord back := by
  unfold beginsWithPhrase
  constructor
  · intro h
    split at h
    case h_1 back hback =>
      obtain ⟨said, htext, hsaid⟩ := (afterWord?_eq_some_iff phrase text back).mp hback
      exact ⟨said, back, htext, hsaid, (startsOutsideWord_iff back).mp h⟩
    case h_2 => cases h
  · rintro ⟨said, back, htext, hsaid, hback⟩
    rw [(afterWord?_eq_some_iff phrase text back).mpr ⟨said, htext, hsaid⟩]
    exact (startsOutsideWord_iff back).mpr hback

/-- One of the phrases stands at the start of a text exactly if the text goes on from it outside of a word. -/
theorem any_beginsWithPhrase_iff (text : Chars) :
    complaintPhrases.any (beginsWithPhrase text) = true ↔
      ∃ said back, text = said ++ back ∧ IsPhrase said ∧ ¬ StartsInWord back := by
  simp only [List.any_eq_true, beginsWithPhrase_iff, IsPhrase]
  constructor
  · rintro ⟨phrase, hphrase, said, back, htext, hsaid, hback⟩
    exact ⟨said, back, htext, ⟨phrase, hphrase, hsaid⟩, hback⟩
  · rintro ⟨said, back, htext, ⟨phrase, hphrase, hsaid⟩, hback⟩
    exact ⟨phrase, hphrase, said, back, htext, hsaid, hback⟩

/-- The scan finds what is mentioned in the text that it has before it; `earlier` is what it has passed. -/
theorem mentionsComplaint_iff (earlier text : Chars) (inside : Bool) (hinside : inside = true ↔ EndsInWord earlier) :
    mentionsComplaint inside text = true ↔
      ∃ front phrase back, text = front ++ phrase ++ back ∧ IsPhrase phrase ∧ ¬ EndsInWord (earlier ++ front) ∧
        ¬ StartsInWord back := by
  induction text generalizing earlier inside with
  | nil =>
    refine iff_of_false (by simp [mentionsComplaint]) ?_
    rintro ⟨front, phrase, back, htext, hphrase, -, -⟩
    obtain ⟨hnil, -⟩ := List.append_eq_nil_iff.mp htext.symm
    exact hphrase.ne_nil (List.append_eq_nil_iff.mp hnil).2
  | cons c text ih =>
    have hrest := ih (earlier ++ [c]) (isWordCharacter c) (endsInWord_concat earlier c).symm
    have houtside : (!inside) = true ↔ ¬ EndsInWord earlier := by simp [← hinside]
    rw [mentionsComplaint, Bool.or_eq_true, Bool.and_eq_true, any_beginsWithPhrase_iff, hrest, houtside]
    constructor
    · rintro (⟨hoff, said, back, htext, hsaid, hback⟩ | ⟨front, phrase, back, rfl, hphrase, hfront, hback⟩)
      · exact ⟨[], said, back, htext, hsaid, by simpa using hoff, hback⟩
      · exact ⟨c :: front, phrase, back, rfl, hphrase, by simpa using hfront, hback⟩
    · rintro ⟨front, phrase, back, htext, hphrase, hfront, hback⟩
      cases front with
      | nil => exact .inl ⟨by simpa using hfront, phrase, back, htext, hphrase, hback⟩
      | cons first front =>
        obtain ⟨rfl, rfl⟩ := List.cons.inj htext
        exact .inr ⟨front, phrase, back, rfl, hphrase, by simpa using hfront, hback⟩

/-- A complaint is a text that mentions a phrase when its formatting is taken out. -/
theorem isComplaint_iff (text : Chars) : isComplaint text = true ↔ Mentions (stripFormatting text) := by
  unfold isComplaint Mentions
  rw [mentionsComplaint_iff [] (stripFormatting text) false (by simp)]
  rfl

end Reading

section Parts

/-- Whether a text is a phrase that complains, or one with a character of a word at one of its ends. -/
def IsExpression (text : Chars) : Prop :=
  ∃ phrase, IsPhrase phrase ∧
    (text = phrase ∨ ∃ c, isWordCharacter c = true ∧ (text = c :: phrase ∨ text = phrase ++ [c]))

variable {before after : Chars}

/-- The empty text mentions nothing. -/
theorem not_mentions_nil : ¬ Mentions [] := by
  rintro ⟨front, phrase, back, htext, hphrase, -, -⟩
  obtain ⟨hnil, -⟩ := List.append_eq_nil_iff.mp htext.symm
  exact hphrase.ne_nil (List.append_eq_nil_iff.mp hnil).2

/-- A phrase at the end of the first part is not followed by more of a word, or the cut stands between the two. -/
theorem not_startsInWord_of_phrase {front phrase : Chars} (hcut : ¬ CutsThrough IsExpression (front ++ phrase) after)
    (hphrase : IsPhrase phrase) : ¬ StartsInWord after := by
  rintro ⟨c, hhead, hc⟩
  obtain ⟨rest, rfl⟩ := List.head?_eq_some_iff.mp hhead
  exact hcut ⟨front, phrase, [c], rest, rfl, rfl, hphrase.ne_nil, by simp, phrase, hphrase, .inr ⟨c, hc, .inr rfl⟩⟩

/-- A phrase at the start of the second part does not go on with a word, or the cut stands between the two. -/
theorem not_endsInWord_of_phrase {phrase back : Chars} (hcut : ¬ CutsThrough IsExpression before (phrase ++ back))
    (hphrase : IsPhrase phrase) : ¬ EndsInWord before := by
  rintro ⟨c, hlast, hc⟩
  obtain ⟨front, rfl⟩ := List.getLast?_eq_some_iff.mp hlast
  exact hcut ⟨front, [c], phrase, back, rfl, rfl, by simp, hphrase.ne_nil, phrase, hphrase, .inr ⟨c, hc, .inl rfl⟩⟩

/-- What is mentioned in the first part is mentioned in the whole. -/
theorem Mentions.append_right (hcut : ¬ CutsThrough IsExpression before after) (h : Mentions before) :
    Mentions (before ++ after) := by
  obtain ⟨front, phrase, back, rfl, hphrase, hfront, hback⟩ := h
  refine ⟨front, phrase, back ++ after, by simp, hphrase, hfront, ?_⟩
  by_cases hnil : back = []
  · subst hnil
    rw [List.append_nil] at hcut
    exact not_startsInWord_of_phrase hcut hphrase
  · rwa [startsInWord_append_iff hnil]

/-- What is mentioned in the second part is, too. -/
theorem Mentions.append_left (hcut : ¬ CutsThrough IsExpression before after) (h : Mentions after) :
    Mentions (before ++ after) := by
  obtain ⟨front, phrase, back, rfl, hphrase, hfront, hback⟩ := h
  refine ⟨before ++ front, phrase, back, by simp, hphrase, ?_, hback⟩
  by_cases hnil : front = []
  · subst hnil
    rw [List.append_nil]
    exact not_endsInWord_of_phrase hcut hphrase
  · rwa [endsInWord_append_iff before hnil]

/-- What is mentioned in a text in two parts is mentioned in one of them. -/
theorem mentions_of_append (hcut : ¬ CutsThrough IsExpression before after) (h : Mentions (before ++ after)) :
    Mentions before ∨ Mentions after := by
  obtain ⟨front, phrase, back, htext, hphrase, hfront, hback⟩ := h
  rw [List.append_assoc] at htext
  rcases List.append_eq_append_iff.mp htext with ⟨later, rfl, hafter⟩ | ⟨rest, rfl, hrest⟩
  · -- The phrase begins in the second part.
    refine .inr ⟨later, phrase, back, by rw [hafter, List.append_assoc], hphrase, fun hends => hfront ?_, hback⟩
    by_cases hnil : later = []
    · exact absurd (hnil ▸ hends) not_endsInWord_nil
    · exact (endsInWord_append_iff before hnil).mpr hends
  rcases List.append_eq_append_iff.mp hrest with ⟨between, rfl, rfl⟩ | ⟨finish, rfl, hafter⟩
  · -- It ends in the first part.
    refine .inl ⟨front, phrase, between, by rw [List.append_assoc], hphrase, hfront, fun hstarts => hback ?_⟩
    by_cases hnil : between = []
    · exact absurd (hnil ▸ hstarts) not_startsInWord_nil
    · exact (startsInWord_append_iff hnil after).mpr hstarts
  · -- It begins in the first part and ends in the second one, and so is all in one of them.
    by_cases hrestNil : rest = []
    · subst hrestNil
      exact .inr ⟨[], finish, back, hafter, hphrase, not_endsInWord_nil, hback⟩
    by_cases hfinishNil : finish = []
    · subst hfinishNil
      exact .inl ⟨front, rest, [], by simp, by rwa [List.append_nil] at hphrase, hfront, not_startsInWord_nil⟩
    exact absurd ⟨front, rest, finish, back, rfl, hafter, hrestNil, hfinishNil, _, hphrase, .inl rfl⟩ hcut

/-- A text in two parts mentions what one of them mentions, unless the cut goes through an expression. -/
theorem mentions_append_iff (hcut : ¬ CutsThrough IsExpression before after) :
    Mentions (before ++ after) ↔ Mentions before ∨ Mentions after := by
  constructor
  · exact mentions_of_append hcut
  · rintro (hbefore | hafter)
    · exact hbefore.append_right hcut
    · exact hafter.append_left hcut

/-- A text in pieces mentions what one of them mentions. -/
theorem mentions_flatten_iff {pieces : List Chars} (h : Uncut (CutsThrough IsExpression) pieces) :
    Mentions pieces.flatten ↔ ∃ piece ∈ pieces, Mentions piece :=
  h.holds_iff not_mentions_nil (lasting_cutsThrough IsExpression) fun _ _ => mentions_append_iff

end Parts

section Ascii

variable {text other : Chars}

/-- The characters of words are ASCII. -/
theorem isAscii_of_isWordCharacter {c : Char} (h : isWordCharacter c = true) : IsAscii c := by
  rcases (Bool.or_eq_true _ _).mp h with hletter | hunderscore
  · exact isAscii_of_isAlphanum hletter
  · obtain rfl := eq_of_beq hunderscore
    unfold IsAscii
    decide

/-- A character is ASCII if the small letter in its place is. -/
theorem isAscii_of_toLower {c : Char} (h : IsAscii c.toLower) : IsAscii c := by
  by_cases hcapital : c.isUpper
  · exact isAscii_of_isAlphanum (by simp [Char.isAlphanum, Char.isAlpha, hcapital])
  · rwa [Char.toLower_eq_of_not_isUpper hcapital] at h

/-- A phrase is ASCII. -/
theorem IsPhrase.isAscii (h : IsPhrase text) : ∀ c ∈ text, IsAscii c := by
  have hall : ∀ phrase ∈ complaintPhrases, ∀ c ∈ phrase, IsAscii c.toLower := by
    simp [complaintPhrases, IsAscii, Char.toLower]
  obtain ⟨phrase, hphrase, htext⟩ := h
  intro c hmem
  have hlower : c.toLower ∈ phrase.map Char.toLower := htext ▸ List.mem_map_of_mem hmem
  obtain ⟨d, hd, hsame⟩ := List.mem_map.mp hlower
  exact isAscii_of_toLower (hsame ▸ hall phrase hphrase d hd)

/-- An expression is ASCII. -/
theorem IsExpression.isAscii (h : IsExpression text) : ∀ c ∈ text, IsAscii c := by
  obtain ⟨phrase, hphrase, rfl | ⟨c, hc, rfl | rfl⟩⟩ := h
  · exact hphrase.isAscii
  · simpa using ⟨isAscii_of_isWordCharacter hc, hphrase.isAscii⟩
  · intro d hmem
    rcases List.mem_append.mp hmem with hphraseMem | hlast
    · exact hphrase.isAscii d hphraseMem
    · obtain rfl := List.mem_singleton.mp hlast
      exact isAscii_of_isWordCharacter hc

/-- Of two texts alike, a word runs up to the end of both. -/
theorem EndsInWord.alike (h : EndsInWord text) (halike : AsciiAlike text other) : EndsInWord other := by
  obtain ⟨c, hlast, hc⟩ := h
  obtain ⟨front, rfl⟩ := List.getLast?_eq_some_iff.mp hlast
  obtain ⟨front', rest', rfl, -, hrest⟩ := halike.exists_append_cons (isAscii_of_isWordCharacter hc)
  rw [hrest.eq_nil]
  exact (endsInWord_concat front' c).mpr hc

/-- One runs on at the start of both, too. -/
theorem StartsInWord.alike (h : StartsInWord text) (halike : AsciiAlike text other) : StartsInWord other := by
  obtain ⟨c, hhead, hc⟩ := h
  obtain ⟨rest, rfl⟩ := List.head?_eq_some_iff.mp hhead
  have hword : ∀ d ∈ [c], IsAscii d := by simpa using isAscii_of_isWordCharacter hc
  obtain ⟨rest', rfl, -⟩ := AsciiAlike.exists_append hword halike
  exact ⟨c, rfl, hc⟩

/-- Texts that are alike both mention a phrase if one of them does. -/
theorem Mentions.alike (h : Mentions text) (halike : AsciiAlike text other) : Mentions other := by
  obtain ⟨front, phrase, back, rfl, hphrase, hfront, hback⟩ := h
  obtain ⟨front', back', rfl, hfront', hback'⟩ := halike.exists_word hphrase.ne_nil hphrase.isAscii
  exact ⟨front', phrase, back', rfl, hphrase, fun hends => hfront (hends.alike hfront'.symm),
    fun hstarts => hback (hstarts.alike hback'.symm)⟩

/-- Of two texts alike as far as ASCII goes, both complain or neither. -/
theorem AsciiAlike.isComplaint_eq (h : AsciiAlike text other) : isComplaint text = isComplaint other := by
  rw [Bool.eq_iff_iff, isComplaint_iff, isComplaint_iff]
  exact ⟨fun hmentions => hmentions.alike h.stripFormatting, fun hmentions => hmentions.alike h.stripFormatting.symm⟩

end Ascii

end Sntp.Text
