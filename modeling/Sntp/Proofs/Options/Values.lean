import Sntp.Proofs.Options.Answer

/-!
# The values of options

A value may have blanks around its digits, but only a text without them is read as the integer it writes; and an
integer that doubles do not reach is not read either (`limit_integerOr`). Any other value counts as zero, so that the
setting is then at the lower end of its range. Wherever it stands in a cluster, a setting is given its value by what is
left of the cluster or by the next argument (`Item.GivesValue`), and it has it at last unless it is given another one
after that (`Request.ofArguments_value`).
-/

set_option autoImplicit false

namespace Sntp

open Text

namespace Setting

variable (setting : Setting)

/-- Nothing above one is left of an integer that is not above it. -/
theorem limit_of_le {n : Int} (h : n ≤ 1) : setting.limit n = setting.lowest := by
  unfold limit clamp
  cases setting
  all_goals
    simp only [lowest, highest]
    omega

/-- The limit of what is read of a text that looks like a number. -/
theorem limit_integerOr {before sign digits after : Chars} (hbefore : ∀ c ∈ before, isBlank c = true)
    (hsign : sign = [] ∨ sign = ['-']) (hdigits : digits ≠ []) (hall : ∀ c ∈ digits, c.isDigit = true)
    (hafter : ∀ c ∈ after, isBlank c = true) :
    setting.limit (integerOr 0 (some (before ++ (sign ++ digits) ++ after))) =
      if before = [] ∧ after = [] ∧ writtenInteger sign digits < Number.firstInfinite then
        setting.limit (writtenInteger sign digits)
      else setting.lowest := by
  have hzero := setting.limit_of_le (n := 0) (by decide)
  by_cases hplain : before = [] ∧ after = []
  · obtain ⟨rfl, rfl⟩ := hplain
    have hread : integerOr 0 (some ([] ++ (sign ++ digits) ++ [])) =
        if isOutOfRange (writtenInteger sign digits) then 0 else writtenInteger sign digits := by
      rw [List.nil_append, List.append_nil]
      unfold integerOr
      simp only [Option.bind_some, plainInteger?_written (hsign.imp_right .inr) hdigits hall]
    have hrange := isOutOfRange_iff (writtenInteger sign digits)
    rw [hread]
    simp only [true_and]
    generalize writtenInteger sign digits = n at hrange
    by_cases hreached : isOutOfRange n = true
    · rw [if_pos hreached, hzero]
      split
      · -- An integer that is out of range below has the limit of zero.
        have hfirst := hrange.mp hreached
        exact (setting.limit_of_le (by omega)).symm
      · rfl
    · have hfirst := mt hrange.mpr hreached
      rw [if_neg hreached, if_pos (by omega)]
  · have hpadded : ∃ c ∈ before ++ (sign ++ digits) ++ after, isBlank c = true := by
      by_cases hnil : before = []
      · obtain ⟨c, rest, hafter'⟩ := List.exists_cons_of_ne_nil fun h => hplain ⟨hnil, h⟩
        exact ⟨c, by simp [hafter'], hafter c (by simp [hafter'])⟩
      · obtain ⟨c, rest, hbefore'⟩ := List.exists_cons_of_ne_nil hnil
        exact ⟨c, by simp [hbefore'], hbefore c (by simp [hbefore'])⟩
    obtain ⟨c, hmem, hblank⟩ := hpadded
    have hread : integerOr 0 (some (before ++ (sign ++ digits) ++ after)) = 0 := by
      unfold integerOr
      simp only [Option.bind_some, plainInteger?_of_blank hmem hblank]
    rw [hread, if_neg fun h => hplain ⟨h.1, h.2.1⟩, hzero]

end Setting

namespace Item

/-- How a setting is given a value: by what is left of a cluster, or by the argument after one. The cluster has
letters for other items before. -/
inductive GivesValue (setting : Setting) (text : String) : List String → List Item → Prop
  | attached {argument : String} {flags : List Item} (cluster : IsCluster argument flags (some (setting, text.toList)))
    (given : text ≠ "") : GivesValue setting text [argument] flags
  | next {argument : String} {flags : List Item} (cluster : IsCluster argument flags (some (setting, []))) :
    GivesValue setting text [argument, text] flags

/-- Arguments that give a setting its value are read as such, whatever follows them. -/
theorem GivesValue.ofArguments_append {setting : Setting} {text : String} {arguments : List String} {flags : List Item}
    (h : GivesValue setting text arguments flags) (post : List String) :
    ofArguments (arguments ++ post) = flags ++ .setting setting (some text) :: ofArguments post := by
  cases h with
  | attached hcluster hgiven =>
    have hchars : text.toList ≠ [] := fun hnil => hgiven (String.toList_eq_nil_iff.mp hnil)
    rw [List.singleton_append, ofArguments_cons, hcluster.ofArgument_attached hchars, String.ofList_toList, List.append_assoc]
    rfl
  | next hcluster =>
    rw [List.cons_append, ofArguments_cons, hcluster.ofArgument_awaiting]
    rfl

end Item

/-- A value that is a number does not decide the answer. -/
theorem not_isDecisive_of_isNumeric (setting : Setting) {text : String} (h : IsNumeric text.toList) :
    ¬ (Item.setting setting (some text)).IsDecisive := by
  rintro ⟨answer, hdecides⟩
  cases hdecides with
  | notNumeric _ hnumeric => exact hnumeric h

/-- A setting is given its value by arguments that are accepted, whether the value is attached to its letter or is the
next argument: the integer that is written there, taken into the range of the setting, if the text is nothing else and
doubles reach the integer, and otherwise the lower end of the range. It is kept unless the setting is given another
value after that. -/
theorem Request.ofArguments_value (env : Environment) (setting : Setting) {before sign digits after : Chars} {text : String}
    (htext : text.toList = before ++ (sign ++ digits) ++ after) (hbefore : ∀ c ∈ before, isBlank c = true)
    (hsign : sign = [] ∨ sign = ['-']) (hdigits : digits ≠ []) (hall : ∀ c ∈ digits, c.isDigit = true)
    (hafter : ∀ c ∈ after, isBlank c = true) {arguments : List String} {flags : List Item}
    (hgiven : Item.GivesValue setting text arguments flags) (pre post : List String)
    (hmeaning : ∀ item ∈ Item.ofArguments pre ++ flags ++ Item.ofArguments post, ¬ item.IsDecisive) :
    ∃ config, Request.ofArguments env (pre ++ arguments ++ post) = .ok (.run config) ∧
      config.value setting = ((Item.ofArguments post).filterMap (Item.value? setting)).getLast?.getD
        (if before = [] ∧ after = [] ∧ writtenInteger sign digits < Number.firstInfinite then
          setting.limit (writtenInteger sign digits)
        else setting.lowest) := by
  have hnumeric : IsNumeric text.toList := ⟨before, sign, digits, after, htext, hbefore, hsign, hdigits, hall, hafter⟩
  have hpre : ∀ valued, Item.setting valued none ∉ Item.ofArguments pre := fun valued hmem =>
    hmeaning _ (List.mem_append_left _ (List.mem_append_left _ hmem)) (Item.isDecisive_missing valued)
  have hitems : Item.ofArguments (pre ++ arguments ++ post) =
      Item.ofArguments pre ++ flags ++ .setting setting (some text) :: Item.ofArguments post := by
    rw [List.append_assoc, Item.ofArguments_append hpre, hgiven.ofArguments_append, List.append_assoc]
  have hmeans : ∀ item ∈ Item.ofArguments (pre ++ arguments ++ post), ¬ item.IsDecisive := by
    intro item hmem
    rw [hitems, List.mem_append, List.mem_cons] at hmem
    rcases hmem with hmem | rfl | hmem
    · exact hmeaning item (List.mem_append_left _ hmem)
    · exact not_isDecisive_of_isNumeric setting hnumeric
    · exact hmeaning item (List.mem_append_right _ hmem)
  obtain ⟨final, hgathers, hrun⟩ := exists_gathers env.config hmeans
  have hread : (Item.setting setting (some text)).value? setting = some (setting.limit (integerOr 0 (some text.toList))) :=
    if_pos rfl
  have hvalue := hgathers.value_eq setting
  rw [hitems, getLast?_filterMap_append_cons hread, htext,
    setting.limit_integerOr hbefore hsign hdigits hall hafter] at hvalue
  exact ⟨_, hrun, by cases setting <;> exact hvalue⟩

/-- The timeout is 500 when nothing but these digits is attached to its letter, and 1 when there are blanks around them
in the next argument. -/
theorem Request.ofArguments_value_fiveHundred :
    (∃ config, Request.ofArguments ⟨none, none, none, none⟩ ["-nt500", "a.b"] = .ok (.run config) ∧ config.timeoutMs = 500) ∧
      ∃ config, Request.ofArguments ⟨none, none, none, none⟩ ["-nt", " 500 ", "a.b"] = .ok (.run config) ∧
        config.timeoutMs = 1 := by
  have hmeaning : ∀ item ∈ Item.ofArguments [] ++ [.flag .testOnly] ++ Item.ofArguments ["a.b"], ¬ item.IsDecisive := by
    intro item hmem
    change item ∈ [.flag .testOnly, .server "a.b"] at hmem
    rintro ⟨answer, hdecides⟩
    cases hdecides <;> simp at hmem
  have hattached : Item.GivesValue .timeout "500" ["-nt500"] [.flag .testOnly] :=
    .attached ⟨['n'], ['t', '5', '0', '0'], rfl, by decide, .cons .testOnly .nil, 't', .timeout, rfl⟩ (by decide)
  have hnext : Item.GivesValue .timeout " 500 " ["-nt", " 500 "] [.flag .testOnly] :=
    .next ⟨['n'], ['t'], rfl, by decide, .cons .testOnly .nil, 't', .timeout, rfl⟩
  have hplain : "500".toList = [] ++ ([] ++ ['5', '0', '0']) ++ [] := rfl
  have hpadded : " 500 ".toList = [' '] ++ ([] ++ ['5', '0', '0']) ++ [' '] := rfl
  have hreached : writtenInteger [] ['5', '0', '0'] < Number.firstInfinite := by
    have hpower := Number.two_pow_le_firstInfinite (k := 9) (by decide)
    show (500 : Int) < _
    omega
  constructor
  · obtain ⟨config, hrun, hvalue⟩ := Request.ofArguments_value ⟨none, none, none, none⟩ .timeout hplain (by simp) (.inl rfl)
      (by simp) (by simp) (by simp) hattached [] ["a.b"] hmeaning
    rw [if_pos ⟨rfl, rfl, hreached⟩] at hvalue
    exact ⟨config, hrun, hvalue⟩
  · obtain ⟨config, hrun, hvalue⟩ := Request.ofArguments_value ⟨none, none, none, none⟩ .timeout hpadded
      (by simp [isBlank]) (.inl rfl)
      (by simp) (by simp) (by simp [isBlank]) hnext [] ["a.b"] hmeaning
    exact ⟨config, hrun, hvalue⟩

end Sntp
