import Sntp.Options.Arguments

/-!
# What accepted arguments come to

Arguments are accepted if every one of their items changes the configuration, from left to right
(`interpret_cons_eq_run_iff`); `Item.Changes` says how each of them does. What is accepted is then known
from the items alone: test mode is on if a flag among them says so (`testOnly_iff_of_interpret`), every
setting has a value (`exists_settingValue_of_interpret`), and there is no system log in test mode, however
it was asked for (`useSystemLog_of_interpret`).

What is neither accepted nor a request for help is an error in the usage (`exists_usage_of_interpret`).
-/

set_option autoImplicit false

namespace Sntp

/-- How an item that is accepted changes a configuration. -/
inductive Item.Changes (config : Config) : Item → Config → Prop
  | server (text : String) : Item.Changes config (.server text) { config with server := text }
  | testOnly : Item.Changes config (.flag .testOnly) { config with testOnly := true }
  | verbose : Item.Changes config (.flag .verbose) { config with verbose := true }
  | systemLog : Item.Changes config (.flag .systemLog) { config with useSystemLog := true }
  | timeout {value : Option String} {n : Int} (value_eq : settingValue .timeout value = .ok n) :
    Item.Changes config (.setting .timeout value) { config with timeoutMs := n }
  | retries {value : Option String} {n : Int} (value_eq : settingValue .retries value = .ok n) :
    Item.Changes config (.setting .retries value) { config with retries := n }

/-- A value that is not accepted is a mistake in the use of the options. -/
theorem settingValue_eq_error {setting : Setting} {value : Option String} {fault : Fault}
    (h : settingValue setting value = .error fault) : ∃ text, fault = .usage text := by
  unfold settingValue at h
  cases value with
  | none => exact ⟨_, (Except.error.inj h).symm⟩
  | some text =>
    simp only [] at h
    by_cases hnumeric : looksNumeric text.toList
    · simp [hnumeric] at h
    · rw [if_neg hnumeric] at h
      exact ⟨_, (Except.error.inj h).symm⟩

/-- A value that is accepted looks like a number. -/
theorem looksNumeric_of_settingValue {setting : Setting} {text : String} {n : Int}
    (h : settingValue setting (some text) = .ok n) : looksNumeric text.toList = true := by
  unfold settingValue at h
  cases hnumeric : looksNumeric text.toList with
  | true => rfl
  | false => simp [hnumeric] at h

section

variable {config given : Config} {items : List Item}

/-- Arguments are accepted exactly if their first item is, and the others are after it. -/
theorem interpret_cons_eq_run_iff (config given : Config) (item : Item) (rest : List Item) :
    interpret config (item :: rest) = .ok (.run given) ↔
      ∃ next, item.Changes config next ∧ interpret next rest = .ok (.run given) := by
  constructor
  · intro h
    cases item with
    | help => cases Except.ok.inj h
    | server text => exact ⟨_, .server text, h⟩
    | flag flag =>
      cases flag with
      | testOnly => exact ⟨_, .testOnly, h⟩
      | verbose => exact ⟨_, .verbose, h⟩
      | systemLog => exact ⟨_, .systemLog, h⟩
    | setting setting value =>
      unfold interpret at h
      cases hvalue : settingValue setting value with
      | error fault => simp [hvalue] at h
      | ok n =>
        simp only [hvalue] at h
        cases setting with
        | timeout => exact ⟨_, .timeout hvalue, h⟩
        | retries => exact ⟨_, .retries hvalue, h⟩
    | unknownLetter letter => cases h
    | unknownOption text => cases h
  · rintro ⟨next, hchanges, hrest⟩
    cases hchanges with
    | server text => exact hrest
    | testOnly => exact hrest
    | verbose => exact hrest
    | systemLog => exact hrest
    | timeout hvalue =>
      unfold interpret
      simp only [hvalue]
      exact hrest
    | retries hvalue =>
      unfold interpret
      simp only [hvalue]
      exact hrest

/-- Only its own flag switches test mode on. -/
theorem Item.Changes.testOnly_iff {next : Config} {item : Item} (h : item.Changes config next) :
    next.testOnly = true ↔ config.testOnly = true ∨ item = .flag .testOnly := by
  cases h <;> simp

/-- Test mode is on exactly if it was before, or a flag among the items says so. -/
theorem testOnly_iff_of_interpret (h : interpret config items = .ok (.run given)) :
    given.testOnly = true ↔ config.testOnly = true ∨ .flag .testOnly ∈ items := by
  induction items generalizing config with
  | nil =>
    obtain rfl := Request.run.inj (Except.ok.inj h)
    simp
  | cons item rest ih =>
    obtain ⟨next, hchanges, hrest⟩ := (interpret_cons_eq_run_iff config given item rest).mp h
    rw [ih hrest, hchanges.testOnly_iff, List.mem_cons, or_assoc, @eq_comm _ item]

/-- Every value among items that are accepted is accepted. -/
theorem exists_settingValue_of_interpret (h : interpret config items = .ok (.run given)) {setting : Setting}
    {value : Option String} (hmem : .setting setting value ∈ items) : ∃ n, settingValue setting value = .ok n := by
  induction items generalizing config with
  | nil => cases hmem
  | cons item rest ih =>
    obtain ⟨next, hchanges, hrest⟩ := (interpret_cons_eq_run_iff config given item rest).mp h
    rcases List.mem_cons.mp hmem with rfl | hmem
    · cases hchanges with
      | timeout hvalue => exact ⟨_, hvalue⟩
      | retries hvalue => exact ⟨_, hvalue⟩
    · exact ih hrest hmem

/-- In test mode there is no system log, whatever asked for it. -/
theorem useSystemLog_of_interpret (h : interpret config items = .ok (.run given)) (hmode : given.testOnly = true) :
    given.useSystemLog = false := by
  induction items generalizing config with
  | nil =>
    obtain rfl := Request.run.inj (Except.ok.inj h)
    change config.testOnly = true at hmode
    simp [hmode]
  | cons item rest ih =>
    obtain ⟨next, -, hrest⟩ := (interpret_cons_eq_run_iff config given item rest).mp h
    exact ih hrest

/-- What is not accepted and is no request for help is an error in the usage. -/
theorem exists_usage_of_interpret {fault : Fault} (h : interpret config items = .error fault) :
    ∃ text, fault = .usage text := by
  induction items generalizing config with
  | nil => cases h
  | cons item rest ih =>
    cases item with
    | help => cases h
    | server text => exact ih h
    | flag flag => cases flag <;> exact ih h
    | setting setting value =>
      unfold interpret at h
      cases hvalue : settingValue setting value with
      | error fault' =>
        simp only [hvalue, Except.error.injEq] at h
        exact h ▸ settingValue_eq_error hvalue
      | ok n =>
        simp only [hvalue] at h
        cases setting <;> exact ih h
    | unknownLetter letter => exact ⟨_, (Except.error.inj h).symm⟩
    | unknownOption text => exact ⟨_, (Except.error.inj h).symm⟩

end

end Sntp
