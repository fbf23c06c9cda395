import Sntp.Proofs.Options.Answer

/-!
# Clusters taken apart

A cluster of letters is read as one argument for each of its letters would be: the flags of it each on their own, and a
setting at its end with the value that is attached to it as the next argument (`ofArguments_cluster`,
`ofArguments_attached`). Arguments that are read alike are answered alike, whatever stands before them
(`Request.ofArguments_congr`), so that a cluster can be taken apart wherever it is read as an argument of its own
(`Request.ofArguments_expansion`).
-/

set_option autoImplicit false

namespace Sntp

open Text

/-- The error about a setting without a value that can be used. -/
def Setting.valueError (setting : Setting) (got : String) : Fault :=
  .usage ("Option -" ++ setting.letter.toString ++ " requires a numeric value" ++ got)

/-- The argument that is a cluster of letters. -/
def cluster (letters : Chars) : String := String.ofList ('-' :: letters)

/-- One argument for each of the letters. -/
def separated (letters : Chars) : List String := letters.map fun letter => cluster [letter]

namespace Item

/-- The argument that is a cluster is read letter by letter. -/
theorem ofArgument_cluster {letters : Chars} (h : letters.head? ≠ some '-') :
    ofArgument (cluster letters) = ofCluster letters :=
  ofArgument_of_letters String.toList_ofList h

/-- Letters that stand for an item each are read one by one. -/
theorem ofArguments_separated {word : Chars} {flags : List Item} (hflags : word.map letterMeaning = flags.map .inl)
    (hword : '-' ∉ word) (more : List String) : ofArguments (separated word ++ more) = flags ++ ofArguments more := by
  induction word generalizing flags with
  | nil =>
    obtain rfl : flags = [] := by simpa using hflags.symm
    rfl
  | cons letter word ih =>
    cases flags with
    | nil => simp at hflags
    | cons flag flags =>
      obtain ⟨hletter, hrest⟩ := List.cons_eq_cons.mp hflags
      rw [List.mem_cons, not_or] at hword
      have hread : ofArgument (cluster [letter]) = ([flag], none) := by
        rw [ofArgument_cluster (by simpa using Ne.symm hword.1)]
        simp [ofCluster, hletter]
      show ofArguments (cluster [letter] :: (separated word ++ more)) = flag :: flags ++ ofArguments more
      rw [ofArguments_cons, hread]
      exact congrArg (List.cons flag) (ih hrest hword.2)

/-- A cluster is read as the flags at its front one by one, and then what is left of it. -/
theorem ofArguments_cluster {word : Chars} {flags : List Item} (hflags : word.map letterMeaning = flags.map .inl)
    (hword : '-' ∉ word) {ending : Chars} (hending : ending.head? ≠ some '-') (more : List String) :
    ofArguments (cluster (word ++ ending) :: more) = ofArguments (separated word ++ cluster ending :: more) := by
  have hhead : (word ++ ending).head? ≠ some '-' := by
    cases word with
    | nil => exact hending
    | cons letter word =>
      rintro h
      obtain rfl : letter = '-' := by simpa using h
      exact hword List.mem_cons_self
  rw [ofArguments_separated hflags hword, ofArguments_cons, ofArguments_cons, ofArgument_cluster hhead,
    ofArgument_cluster hending, ofCluster_append hflags, List.append_assoc]

/-- The letter of a setting takes a value for it. -/
theorem letterMeaning_letter (setting : Setting) : letterMeaning setting.letter = .inr setting := by
  cases setting <;> rfl

/-- A missing value is the error about it. -/
theorem decides_missing (setting : Setting) : (Item.setting setting none).Decides (.error (setting.valueError "")) := by
  have htakes := (takes_iff setting.letter setting).mpr (letterMeaning_letter setting)
  unfold Setting.valueError
  rw [String.append_empty]
  exact .missing htakes

/-- The value that is attached to a setting can as well be the next argument. -/
theorem ofArguments_attached (setting : Setting) {value : String} (hvalue : value ≠ "") (more : List String) :
    ofArguments (cluster (setting.letter :: value.toList) :: more) =
      ofArguments (cluster [setting.letter] :: value :: more) := by
  have hhead (rest : Chars) : (setting.letter :: rest).head? ≠ some '-' := by
    cases setting <;> simp [Setting.letter]
  have hchars : value.toList ≠ [] := mt String.toList_eq_nil_iff.mp hvalue
  rw [ofArguments_cons, ofArguments_cons, ofArgument_cluster (hhead _), ofArgument_cluster (hhead _)]
  simp [ofCluster, letterMeaning_letter, hchars, ofArgumentsAfter]

end Item

/-- Arguments that are read alike are answered alike after others, unless those are wanting a value at their end. -/
theorem Request.ofArguments_congr (env : Environment) {pre first second : List String}
    (hpre : ∀ setting : Setting, Request.ofArguments env pre ≠ .error (setting.valueError ""))
    (hsame : Item.ofArguments first = Item.ofArguments second) :
    Request.ofArguments env (pre ++ first) = Request.ofArguments env (pre ++ second) := by
  obtain ⟨items, awaiting, hread⟩ := Item.exists_awaiting none pre
  have halone := hread []
  rw [List.append_nil] at halone
  cases awaiting with
  | none =>
    unfold Request.ofArguments Item.ofArguments
    rw [hread, hread]
    exact congrArg (fun more => interpret env.config (items ++ more)) hsame
  | some setting =>
    -- The value would be missing, had not an item before that decided the answer.
    obtain ⟨before, item, after, rfl, hbefore, answer, hdecides⟩ : ∃ before item after,
        items = before ++ item :: after ∧ (∀ earlier ∈ before, ¬ earlier.IsDecisive) ∧ item.IsDecisive := by
      refine exists_first (Classical.byContradiction fun hnone => hpre setting ?_)
      unfold Request.ofArguments Item.ofArguments
      rw [halone]
      exact interpret_of_decides env.config (fun earlier hmem hdecisive => hnone ⟨earlier, hmem, hdecisive⟩)
        (Item.decides_missing setting)
    unfold Request.ofArguments Item.ofArguments
    rw [hread, hread, List.append_assoc, List.append_assoc]
    exact (interpret_of_decides env.config hbefore hdecides).trans (interpret_of_decides env.config hbefore hdecides).symm

namespace Setting

/-- The error about a missing value differs from all other errors. -/
theorem valueError_ne_unrecognized (setting : Setting) {text : String} (htext : text.toList.head? = some 'U') :
    setting.valueError "" ≠ .usage text := by
  intro h
  rw [← Fault.usage.inj h] at htext
  simp [String.toList_append] at htext

/-- The error about a missing value differs from the one about a value that is no number. -/
theorem valueError_ne_got (setting : Setting) (letter : Char) (text : String) :
    setting.valueError "" ≠
      .usage ("Option -" ++ letter.toString ++ " requires a numeric value, got \"" ++ text ++ "\"") := by
  intro h
  have hlonger : " requires a numeric value".length < " requires a numeric value, got \"".length := by decide
  have hlength := congrArg String.length (Fault.usage.inj h)
  simp [String.length_append] at hlength
  omega

end Setting

/-- Arguments that give every setting its value are not wanting one. -/
theorem Request.ofArguments_ne_valueError (env : Environment) {arguments : List String}
    (h : ∀ setting, .setting setting none ∉ Item.ofArguments arguments) (setting : Setting) :
    Request.ofArguments env arguments ≠ .error (setting.valueError "") := by
  intro hwanting
  unfold Request.ofArguments at hwanting
  by_cases hdecisive : ∃ item ∈ Item.ofArguments arguments, item.IsDecisive
  · obtain ⟨before, item, after, hitems, hbefore, answer, hdecides⟩ := exists_first hdecisive
    rw [hitems, interpret_of_decides env.config hbefore hdecides] at hwanting
    have hmem : item ∈ Item.ofArguments arguments := hitems ▸ by simp
    cases hdecides with
    | help => cases hwanting
    | unknownLetter hshown =>
      exact setting.valueError_ne_unrecognized (by simp [String.toList_append]) (Except.error.inj hwanting).symm
    | hiddenLetter hhidden => exact setting.valueError_ne_unrecognized rfl (Except.error.inj hwanting).symm
    | unknownOption text =>
      exact setting.valueError_ne_unrecognized (by simp [String.toList_append]) (Except.error.inj hwanting).symm
    | missing htakes => exact h _ hmem
    | notNumeric htakes hnumeric => exact setting.valueError_ne_got _ _ (Except.error.inj hwanting).symm
  · obtain ⟨final, -, hrun⟩ := exists_gathers env.config fun item hmem hdecides => hdecisive ⟨item, hmem, hdecides⟩
    rw [hrun] at hwanting
    cases hwanting

/-- A word of letters without values stands for an item for each of them. -/
theorem exists_flags_of_word {word : Chars} (hword : ∀ letter ∈ word, letter ∈ ['h', 'n', 'v', 's']) :
    ∃ flags : List Item, word.map letterMeaning = flags.map .inl := by
  induction word with
  | nil => exact ⟨[], rfl⟩
  | cons letter word ih =>
    obtain ⟨hletter, hrest⟩ := List.forall_mem_cons.mp hword
    obtain ⟨flags, hflags⟩ := ih hrest
    have hflag : ∃ flag, letterMeaning letter = .inl flag := by
      simp only [List.mem_cons, List.not_mem_nil, or_false] at hletter
      rcases hletter with rfl | rfl | rfl | rfl
      all_goals exact ⟨_, rfl⟩
    obtain ⟨flag, hflag⟩ := hflag
    exact ⟨flag :: flags, by simp [hflag, hflags]⟩

/-- A cluster of flags is answered as its flags are one by one, also with a setting at its end: with the value that is
attached to it as the next argument, or, where none is attached, with its letter on its own. This holds after all
arguments that are not wanting a value at their end. -/
theorem Request.ofArguments_expansion (env : Environment) {pre : List String}
    (hpre : ∀ setting : Setting, Request.ofArguments env pre ≠ .error (setting.valueError "")) {word : Chars}
    (hword : ∀ letter ∈ word, letter ∈ ['h', 'n', 'v', 's']) (post : List String) :
    Request.ofArguments env (pre ++ cluster word :: post) = Request.ofArguments env (pre ++ separated word ++ post) ∧
      ∀ setting : Setting,
        (∀ value, value ≠ "" →
          Request.ofArguments env (pre ++ cluster (word ++ setting.letter :: value.toList) :: post) =
            Request.ofArguments env (pre ++ separated word ++ cluster [setting.letter] :: value :: post)) ∧
        Request.ofArguments env (pre ++ cluster (word ++ [setting.letter]) :: post) =
          Request.ofArguments env (pre ++ separated word ++ cluster [setting.letter] :: post) ∧
        Request.ofArguments env (pre ++ cluster (word ++ [setting.letter]) :: post) =
          Request.ofArguments env (pre ++ cluster word :: cluster [setting.letter] :: post) := by
  have hhyphen : '-' ∉ word := fun h => absurd (hword _ h) (by decide)
  obtain ⟨flags, hflags⟩ := exists_flags_of_word hword
  have hletter (setting : Setting) (rest : Chars) : (setting.letter :: rest).head? ≠ some '-' := by
    cases setting <;> simp [Setting.letter]
  have hapart (more : List String) : Item.ofArguments (cluster word :: more) = Item.ofArguments (separated word ++ more) := by
    have hnone : ([] : Chars).head? ≠ some '-' := by simp
    have h := Item.ofArguments_cluster hflags hhyphen hnone more
    rw [List.append_nil] at h
    rw [h, Item.ofArguments_separated hflags hhyphen, Item.ofArguments_separated hflags hhyphen]
    rfl
  -- In each case both sides are read as the same items after `pre`.
  refine ⟨?_, fun setting => ⟨fun value hvalue => ?_, ?_, ?_⟩⟩
  · rw [List.append_assoc]
    exact ofArguments_congr env hpre (hapart post)
  · rw [List.append_assoc]
    refine ofArguments_congr env hpre ?_
    rw [Item.ofArguments_cluster hflags hhyphen (hletter setting _), Item.ofArguments_separated hflags hhyphen,
      Item.ofArguments_separated hflags hhyphen, Item.ofArguments_attached setting hvalue]
  · rw [List.append_assoc]
    exact ofArguments_congr env hpre (Item.ofArguments_cluster hflags hhyphen (hletter setting []) post)
  · refine ofArguments_congr env hpre ?_
    rw [Item.ofArguments_cluster hflags hhyphen (hletter setting []), hapart]

/-- Also a value that looks like an option is taken for the value that it is attached as. -/
theorem Request.ofArguments_expansion_optionLike :
    Request.ofArguments ⟨none, none, none, none⟩ ["-r2", "a.b", "-nvt-x", "--help"] =
      Request.ofArguments ⟨none, none, none, none⟩ ["-r2", "a.b", "-n", "-v", "-t", "-x", "--help"] := by
  have hgiven : ∀ setting, .setting setting none ∉ Item.ofArguments ["-r2", "a.b"] := by
    intro setting hmem
    change Item.setting setting none ∈ [.setting .retries (some "2"), .server "a.b"] at hmem
    simp at hmem
  have hword : ∀ letter ∈ ['n', 'v'], letter ∈ ['h', 'n', 'v', 's'] := by simp
  have hpre := Request.ofArguments_ne_valueError ⟨none, none, none, none⟩ hgiven
  exact ((Request.ofArguments_expansion ⟨none, none, none, none⟩ hpre hword ["--help"]).2 .timeout).1 "-x" (by decide)

end Sntp
