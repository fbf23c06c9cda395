import Sntp.Proofs.Options.Interpretation
import Sntp.Proofs.Text.Trimming

/-!
# Letters among the arguments

A letter can stand among the arguments in many places: alone, anywhere in a cluster, or in a text that is
the value of a setting. Every argument is either such a value or read on its own
(`mem_ofArgumentsAfter_of_mem`), and every letter of a cluster is either an item of its own or part of the
value that ends the cluster (`mem_ofCluster_of_mem`). A value must look like a number, so in arguments that
are accepted no letter for a flag is lost in one: whoever writes `n` after a hyphen, in whatever company,
has test mode on (`testOnly_iff_holdsLetter`).
-/

set_option autoImplicit false

namespace Sntp

open Text

/-- Whether an argument is a cluster that holds a letter: one hyphen, and then letters with this one among
them. -/
def HoldsLetter (letter : Char) (argument : String) : Prop :=
  ∃ letters, argument.toList = '-' :: letters ∧ letters.head? ≠ some '-' ∧ letter ∈ letters

/-- What looks like a number holds blanks, hyphens and digits only. -/
theorem isDigit_of_looksNumeric {text : Chars} (h : looksNumeric text = true) {c : Char} (hmem : c ∈ text)
    (hblank : isBlank c = false) (hhyphen : c ≠ '-') : c.isDigit = true := by
  have htrim := mem_trim_of_mem hmem hblank
  unfold looksNumeric at h
  generalize trim text = trimmed at h htrim
  simp only [List.all_eq_true, decide_eq_true_eq] at h
  split at h
  case h_1 digits =>
    exact h.2 c ((List.mem_cons.mp htrim).resolve_left hhyphen)
  case h_2 digits => exact h.2 c htrim

namespace Item

/-- A letter of a cluster is an item of its own, unless it is part of the value that ends the cluster. -/
theorem mem_ofCluster_of_mem {letter : Char} {item : Item} (hmeaning : letterMeaning letter = .inl item)
    {letters : Chars} (hmem : letter ∈ letters) :
    item ∈ (ofCluster letters).1 ∨
      ∃ setting value, .setting setting (some value) ∈ (ofCluster letters).1 ∧ letter ∈ value.toList := by
  induction letters with
  | nil => cases hmem
  | cons c rest ih =>
    unfold ofCluster
    rcases List.mem_cons.mp hmem with rfl | hmem
    · rw [hmeaning]
      exact .inl (List.mem_cons_self ..)
    · cases letterMeaning c with
      | inl first =>
        rcases ih hmem with hitem | ⟨setting, value, hsetting, hvalue⟩
        · exact .inl (List.mem_cons_of_mem _ hitem)
        · exact .inr ⟨setting, value, List.mem_cons_of_mem _ hsetting, hvalue⟩
      | inr setting =>
        refine .inr ⟨setting, String.ofList rest, ?_, by rwa [String.toList_ofList]⟩
        simp [List.ne_nil_of_mem hmem]

/-- The items of a cluster come from its letters, but for the setting that may end it. -/
theorem exists_letter_of_mem_ofCluster {item : Item} {letters : Chars} (hmem : item ∈ (ofCluster letters).1) :
    (∃ setting value, item = .setting setting value) ∨ ∃ letter ∈ letters, letterMeaning letter = .inl item := by
  induction letters with
  | nil => cases hmem
  | cons c rest ih =>
    unfold ofCluster at hmem
    cases hmeaning : letterMeaning c with
    | inl first =>
      simp only [hmeaning] at hmem
      rcases List.mem_cons.mp hmem with rfl | hmem
      · exact .inr ⟨c, List.mem_cons_self .., hmeaning⟩
      · refine (ih hmem).imp_right fun ⟨letter, hletter, hitem⟩ => ?_
        exact ⟨letter, List.mem_cons_of_mem _ hletter, hitem⟩
    | inr setting =>
      simp only [hmeaning] at hmem
      by_cases hrest : rest = []
      · simp [hrest] at hmem
      · simp only [hrest, if_false, List.mem_singleton] at hmem
        exact .inl ⟨setting, _, hmem⟩

/-- An argument with one hyphen in front is read letter by letter. -/
theorem ofArgument_of_letters {argument : String} {letters : Chars} (hargument : argument.toList = '-' :: letters)
    (hletters : letters.head? ≠ some '-') : ofArgument argument = ofCluster letters := by
  unfold ofArgument
  split
  case h_1 h =>
    rw [hargument] at h
    cases h
    exact absurd rfl hletters
  case h_2 h =>
    rw [hargument] at h
    cases h
    exact absurd rfl hletters
  case h_3 h =>
    rw [hargument] at h
    rw [List.tail_eq_of_cons_eq h]
  case h_4 h => exact absurd hargument (h letters)

/-- Every argument is the value of a setting, or is read on its own. -/
theorem mem_ofArgumentsAfter_of_mem {argument : String} {arguments : List String} (hmem : argument ∈ arguments)
    (awaiting : Option Setting) :
    (∃ setting, .setting setting (some argument) ∈ ofArgumentsAfter awaiting arguments) ∨
      ∀ item ∈ (ofArgument argument).1, item ∈ ofArgumentsAfter awaiting arguments := by
  induction arguments generalizing awaiting with
  | nil => cases hmem
  | cons first rest ih =>
    cases awaiting with
    | some setting =>
      unfold ofArgumentsAfter
      rcases List.mem_cons.mp hmem with rfl | hmem
      · exact .inl ⟨setting, List.mem_cons_self ..⟩
      · refine (ih hmem none).imp ?_ ?_
        · exact fun ⟨other, hother⟩ => ⟨other, List.mem_cons_of_mem _ hother⟩
        · exact fun hitems item hitem => List.mem_cons_of_mem _ (hitems item hitem)
    | none =>
      unfold ofArgumentsAfter
      rcases List.mem_cons.mp hmem with rfl | hmem
      · exact .inr fun item hitem => List.mem_append_left _ hitem
      · refine (ih hmem (ofArgument first).2).imp ?_ ?_
        · exact fun ⟨other, hother⟩ => ⟨other, List.mem_append_right _ hother⟩
        · exact fun hitems item hitem => List.mem_append_right _ (hitems item hitem)

/-- An item that is no setting comes from an argument that is read on its own. -/
theorem exists_argument_of_mem {item : Item} {awaiting : Option Setting} {arguments : List String}
    (hmem : item ∈ ofArgumentsAfter awaiting arguments) :
    (∃ setting value, item = .setting setting value) ∨ ∃ argument ∈ arguments, item ∈ (ofArgument argument).1 := by
  induction arguments generalizing awaiting with
  | nil =>
    cases awaiting with
    | none => cases hmem
    | some setting => exact .inl ⟨setting, none, List.mem_singleton.mp hmem⟩
  | cons first rest ih =>
    cases awaiting with
    | some setting =>
      unfold ofArgumentsAfter at hmem
      rcases List.mem_cons.mp hmem with rfl | hmem
      · exact .inl ⟨setting, _, rfl⟩
      · exact (ih hmem).imp_right fun ⟨argument, hargument, hitem⟩ =>
          ⟨argument, List.mem_cons_of_mem _ hargument, hitem⟩
    | none =>
      unfold ofArgumentsAfter at hmem
      rcases List.mem_append.mp hmem with hmem | hmem
      · exact .inr ⟨first, List.mem_cons_self .., hmem⟩
      · exact (ih hmem).imp_right fun ⟨argument, hargument, hitem⟩ =>
          ⟨argument, List.mem_cons_of_mem _ hargument, hitem⟩

end Item

/-- The letter of test mode is `n`. -/
theorem letterMeaning_eq_testOnly_iff (letter : Char) :
    letterMeaning letter = .inl (.flag .testOnly) ↔ letter = 'n' := by
  unfold letterMeaning
  split <;> simp_all

/-- The flag for test mode comes from a cluster that holds its letter. -/
theorem holdsLetter_of_mem_ofArgument {argument : String} (hmem : .flag .testOnly ∈ (Item.ofArgument argument).1) :
    HoldsLetter 'n' argument := by
  unfold Item.ofArgument at hmem
  split at hmem
  case h_1 h => cases hmem
  case h_2 h =>
    rw [List.mem_singleton] at hmem
    split at hmem <;> cases hmem
  case h_3 letters _ hdouble hargument =>
    rcases Item.exists_letter_of_mem_ofCluster hmem with ⟨setting, value, hitem⟩ | ⟨letter, hletter, hmeaning⟩
    · cases hitem
    · obtain rfl := (letterMeaning_eq_testOnly_iff letter).mp hmeaning
      refine ⟨letters, hargument, fun hhead => ?_, hletter⟩
      obtain ⟨tail, rfl⟩ := List.head?_eq_some_iff.mp hhead
      exact hdouble tail rfl
  case h_4 h => cases List.mem_singleton.mp hmem

/-- Arguments that are accepted have test mode on exactly if one of them is a cluster with an `n` in it. -/
theorem testOnly_iff_holdsLetter {env : Environment} {arguments : List String} {config : Config}
    (h : Request.ofArguments env arguments = .ok (.run config)) :
    config.testOnly = true ↔ ∃ argument ∈ arguments, HoldsLetter 'n' argument := by
  have hitems : config.testOnly = true ↔ .flag .testOnly ∈ Item.ofArguments arguments :=
    (testOnly_iff_of_interpret h).trans (or_iff_right (by exact nofun))
  rw [hitems]
  constructor
  · intro hmem
    rcases Item.exists_argument_of_mem hmem with ⟨setting, value, hitem⟩ | ⟨argument, hargument, hmem⟩
    · cases hitem
    · exact ⟨argument, hargument, holdsLetter_of_mem_ofArgument hmem⟩
  · rintro ⟨argument, hmem, letters, hargument, hhead, hletter⟩
    -- A value that holds the letter is not accepted.
    have hvalue : ∀ (setting : Setting) (value : String),
        .setting setting (some value) ∈ Item.ofArguments arguments → 'n' ∉ value.toList := by
      intro setting value hsetting hn
      obtain ⟨n, hn'⟩ := exists_settingValue_of_interpret h hsetting
      have hdigit := isDigit_of_looksNumeric (looksNumeric_of_settingValue hn') hn (by decide) (by decide)
      exact absurd hdigit (by decide)
    rcases Item.mem_ofArgumentsAfter_of_mem hmem none with ⟨setting, hsetting⟩ | hitems
    · refine absurd ?_ (hvalue setting argument hsetting)
      rw [hargument]
      exact List.mem_cons_of_mem _ hletter
    · rw [Item.ofArgument_of_letters hargument hhead] at hitems
      have hmeaning := (letterMeaning_eq_testOnly_iff 'n').mpr rfl
      rcases Item.mem_ofCluster_of_mem hmeaning hletter with hflag | ⟨setting, value, hsetting, hn⟩
      · exact hitems _ hflag
      · exact absurd hn (hvalue setting value (hitems _ hsetting))

end Sntp
