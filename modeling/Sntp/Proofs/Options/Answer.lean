import Sntp.Proofs.Lists
import Sntp.Proofs.Options.Defaults
import Sntp.Proofs.Options.Scanning

/-!
# What arguments are answered with

The items that arguments are read as are gone through from left to right. An item that asks for help or makes
no sense (`Item.Decides`) decides the answer alone if it is the first of its kind (`interpret_of_decides`). Where
there is none, every item changes the configuration (`Item.exists_changes`), and what they come to together is
known from the items: the last server and the last value of each setting count, and a flag counts wherever it
stands (`Config.Gathers`).

Both are put together in `Request.ofArguments_answer`, with what the environment says and what a setting is read as
(`Item.GiveLast`).
-/

set_option autoImplicit false

namespace Sntp

open Text

namespace Item

/-- What an item decides that asks for help or makes no sense. A letter beyond the basic plane is not shown. -/
inductive Decides : Item → Except Fault Request → Prop
  | help : Decides .help (.ok .help)
  | unknownLetter {letter : Char} (shown : letter.toNat < 0x10000) :
    Decides (.unknownLetter letter) (.error (.usage ("Unrecognized option \"-" ++ letter.toString ++ "\"")))
  | hiddenLetter {letter : Char} (hidden : 0x10000 ≤ letter.toNat) :
    Decides (.unknownLetter letter) (.error (.usage "Unrecognized option \"-\ufffd\""))
  | unknownOption (text : String) :
    Decides (.unknownOption text) (.error (.usage ("Unrecognized option \"" ++ text ++ "\"")))
  | missing {letter : Char} {valued : Setting} (takes : Takes letter valued) :
    Decides (.setting valued none) (.error (.usage ("Option -" ++ letter.toString ++ " requires a numeric value")))
  | notNumeric {letter : Char} {valued : Setting} (takes : Takes letter valued) {text : String}
    (not_numeric : ¬ IsNumeric text.toList) :
    Decides (.setting valued (some text))
      (.error (.usage ("Option -" ++ letter.toString ++ " requires a numeric value, got \"" ++ text ++ "\"")))

/-- Whether an item decides the answer. -/
def IsDecisive (item : Item) : Prop := ∃ answer, item.Decides answer

/-- The server that an item names. -/
def server? : Item → Option String
  | .server text => some text
  | _ => none

/-- The text that an item gives to a setting as its value. -/
def text? (wanted : Setting) : Item → Option String
  | .setting valued text? => if valued = wanted then text? else none
  | _ => none

/-- Whether an integer is what items give to a setting: what is read of the last text that they give, or else of what the
environment holds. Zero stands for a text that cannot be read among the arguments, and a default in the environment. -/
def GiveLast (items : List Item) (setting : Setting) (held : Option String) (otherwise n : Int) : Prop :=
  match (items.filterMap (text? setting)).getLast? with
  | some text => Reads 0 (some text) n
  | none => Reads otherwise held n

/-- The value that an item gives to a setting. -/
def value? (wanted : Setting) : Item → Option Int
  | .setting valued (some text) =>
    if valued = wanted then some (valued.limit (integerOr 0 (some text.toList))) else none
  | _ => none

end Item

namespace Config

/-- The value of a setting in a configuration. -/
def value (config : Config) : Setting → Int
  | .timeout => config.timeoutMs
  | .retries => config.retries

/-- Whether a configuration has something switched on. -/
def isOn (config : Config) : Flag → Bool
  | .testOnly => config.testOnly
  | .verbose => config.verbose
  | .systemLog => config.useSystemLog

/-- What a configuration comes to through items: the last server and the last values count, and all flags. -/
structure Gathers (config : Config) (items : List Item) (final : Config) : Prop where
  server_eq : final.server = (items.filterMap Item.server?).getLast?.getD config.server
  value_eq : ∀ setting, final.value setting = (items.filterMap (Item.value? setting)).getLast?.getD (config.value setting)
  isOn_iff : ∀ flag, final.isOn flag = true ↔ config.isOn flag = true ∨ .flag flag ∈ items

end Config

/-- The values that items give are those of the texts that they give. -/
theorem Item.getLast?_value? (items : List Item) (setting : Setting) :
    (items.filterMap (Item.value? setting)).getLast? = (items.filterMap (Item.text? setting)).getLast?.map
      fun text => setting.limit (integerOr 0 (some text.toList)) := by
  have hitem (item : Item) : item.value? setting =
      (item.text? setting).map fun text => setting.limit (integerOr 0 (some text.toList)) := by
    cases item with
    | setting valued text? =>
      cases text? with
      | none => simp [Item.value?, Item.text?]
      | some text => by_cases hvalued : valued = setting <;> simp [Item.value?, Item.text?, hvalued]
    | _ => rfl
  rw [← List.getLast?_map, List.map_filterMap, List.filterMap_congr fun item _ => hitem item]

/-- The letter of a setting is the one that takes a value for it. -/
theorem Item.Takes.letter_eq {letter : Char} {setting : Setting} (h : Item.Takes letter setting) :
    setting.letter = letter := by
  cases h <;> rfl

/-- Every setting has a letter. -/
theorem Item.exists_takes (setting : Setting) : ∃ letter, Item.Takes letter setting := by
  cases setting with
  | timeout => exact ⟨_, .timeout⟩
  | retries => exact ⟨_, .retries⟩

/-- A value that is missing makes no sense. -/
theorem Item.isDecisive_missing (setting : Setting) : (Item.setting setting none).IsDecisive := by
  obtain ⟨letter, htakes⟩ := Item.exists_takes setting
  exact ⟨_, .missing htakes⟩

/-- A setting has a value exactly if it is given a text that looks like a number. -/
theorem settingValue_eq_ok_iff (setting : Setting) (text? : Option String) (n : Int) :
    settingValue setting text? = .ok n ↔
      ∃ text, text? = some text ∧ IsNumeric text.toList ∧ n = setting.limit (integerOr 0 (some text.toList)) := by
  cases text? with
  | none => exact iff_of_false nofun nofun
  | some text =>
    unfold settingValue
    simp only [Option.some.injEq, exists_eq_left', ← looksNumeric_iff]
    by_cases hlooks : looksNumeric text.toList = true
    · rw [if_pos hlooks, Except.ok.injEq, and_iff_right hlooks, eq_comm]
    · rw [if_neg hlooks]
      exact iff_of_false nofun fun h => hlooks h.1

section

variable {config next final given : Config} {item : Item} {items : List Item}

/-- An item that decides the answer decides it whatever the configuration is and whatever follows. -/
theorem interpret_cons_of_decides {answer : Except Fault Request} (h : item.Decides answer) (config : Config)
    (rest : List Item) : interpret config (item :: rest) = answer := by
  cases h with
  | help => rfl
  | unknownLetter hshown =>
    unfold interpret shownLetter
    rw [if_pos hshown]
  | hiddenLetter hhidden =>
    unfold interpret shownLetter
    rw [if_neg (Nat.not_lt.mpr hhidden)]
    rfl
  | unknownOption text => rfl
  | missing htakes =>
    unfold interpret settingValue
    rw [htakes.letter_eq]
  | notNumeric htakes hnumeric =>
    unfold interpret settingValue
    simp only [if_neg fun hlooks => hnumeric ((looksNumeric_iff _).mp hlooks), htakes.letter_eq]

/-- An item that changes the configuration hands the change on to the items after it. -/
theorem interpret_cons_of_changes (h : item.Changes config next) (rest : List Item) :
    interpret config (item :: rest) = interpret next rest := by
  cases h with
  | server text => rfl
  | testOnly => rfl
  | verbose => rfl
  | systemLog => rfl
  | timeout hvalue => simp only [interpret, hvalue]
  | retries hvalue => simp only [interpret, hvalue]

/-- An item that decides nothing changes the configuration. -/
theorem Item.exists_changes (h : ¬ item.IsDecisive) (config : Config) : ∃ next, item.Changes config next := by
  cases item with
  | help => exact absurd ⟨_, .help⟩ h
  | server text => exact ⟨_, .server text⟩
  | flag flag =>
    cases flag with
    | testOnly => exact ⟨_, .testOnly⟩
    | verbose => exact ⟨_, .verbose⟩
    | systemLog => exact ⟨_, .systemLog⟩
  | setting valued text? =>
    obtain ⟨letter, htakes⟩ := Item.exists_takes valued
    cases text? with
    | none => exact absurd (Item.isDecisive_missing valued) h
    | some text =>
      have hnumeric : IsNumeric text.toList :=
        Classical.byContradiction fun hnumeric => h ⟨_, .notNumeric htakes hnumeric⟩
      have hvalue := (settingValue_eq_ok_iff valued (some text) _).mpr ⟨text, rfl, hnumeric, rfl⟩
      cases valued with
      | timeout => exact ⟨_, .timeout hvalue⟩
      | retries => exact ⟨_, .retries hvalue⟩
  | unknownLetter letter =>
    rcases Nat.lt_or_ge letter.toNat 0x10000 with hshown | hhidden
    · exact absurd ⟨_, .unknownLetter hshown⟩ h
    · exact absurd ⟨_, .hiddenLetter hhidden⟩ h
  | unknownOption text => exact absurd ⟨_, .unknownOption text⟩ h

/-- An item changes the server to the one that it names, if it names any. -/
theorem Item.Changes.server_eq (h : item.Changes config next) : next.server = item.server?.getD config.server := by
  cases h <;> rfl

/-- An item whose value is accepted gives it to its own setting only. -/
theorem Item.value?_of_settingValue {valued : Setting} {text? : Option String} {n : Int}
    (h : settingValue valued text? = .ok n) (wanted : Setting) :
    (Item.setting valued text?).value? wanted = if valued = wanted then some n else none := by
  obtain ⟨text, rfl, -, rfl⟩ := (settingValue_eq_ok_iff valued text? n).mp h
  rfl

/-- An item changes a setting to the value that it gives to it, if it gives any. -/
theorem Item.Changes.value_eq (h : item.Changes config next) (setting : Setting) :
    next.value setting = (item.value? setting).getD (config.value setting) := by
  cases h with
  | timeout hvalue =>
    rw [Item.value?_of_settingValue hvalue]
    cases setting <;> rfl
  | retries hvalue =>
    rw [Item.value?_of_settingValue hvalue]
    cases setting <;> rfl
  | _ => cases setting <;> rfl

/-- An item switches on what its flag says, and nothing off. -/
theorem Item.Changes.isOn_iff (h : item.Changes config next) (flag : Flag) :
    next.isOn flag = true ↔ config.isOn flag = true ∨ item = .flag flag := by
  cases h <;> cases flag <;> simp [Config.isOn]

/-- What one item and then others change is what they all come to. -/
theorem Config.Gathers.cons (hfirst : item.Changes config next) (hrest : next.Gathers items final) :
    config.Gathers (item :: items) final where
  server_eq := by rw [hrest.server_eq, hfirst.server_eq, getLast?_filterMap_cons]
  value_eq setting := by rw [hrest.value_eq, hfirst.value_eq, getLast?_filterMap_cons]
  isOn_iff flag := by rw [hrest.isOn_iff, hfirst.isOn_iff, List.mem_cons, or_assoc, @eq_comm _ item]

/-- Items that decide nothing are accepted. The system log is switched off at last if test mode is on. -/
theorem exists_gathers (config : Config) (h : ∀ item ∈ items, ¬ item.IsDecisive) :
    ∃ final, config.Gathers items final ∧
      interpret config items = .ok (.run { final with useSystemLog := final.useSystemLog && !final.testOnly }) := by
  induction items generalizing config with
  | nil => exact ⟨config, ⟨rfl, fun _ => rfl, fun _ => by simp⟩, rfl⟩
  | cons item rest ih =>
    obtain ⟨next, hchanges⟩ := Item.exists_changes (h item (List.mem_cons_self ..)) config
    obtain ⟨final, hgathers, hrest⟩ := ih next fun other hmem => h other (List.mem_cons_of_mem _ hmem)
    exact ⟨final, hgathers.cons hchanges, (interpret_cons_of_changes hchanges rest).trans hrest⟩

/-- The first item that decides the answer decides it alone. -/
theorem interpret_of_decides {before after : List Item} {answer : Except Fault Request} (config : Config)
    (hbefore : ∀ earlier ∈ before, ¬ earlier.IsDecisive) (h : item.Decides answer) :
    interpret config (before ++ item :: after) = answer := by
  induction before generalizing config with
  | nil => exact interpret_cons_of_decides h config after
  | cons first rest ih =>
    obtain ⟨next, hchanges⟩ := Item.exists_changes (hbefore first (List.mem_cons_self ..)) config
    rw [List.cons_append, interpret_cons_of_changes hchanges]
    exact ih next fun earlier hmem => hbefore earlier (List.mem_cons_of_mem _ hmem)

end

/-- What a setting comes to through items that decide nothing is what they give it last, taken into its range. -/
theorem Config.Gathers.exists_giveLast {env : Environment} {items : List Item} {final : Config}
    (h : env.config.Gathers items final) (setting : Setting) (held : Option String) (otherwise : Int)
    (hdefault : env.config.value setting = setting.limit (integerOr otherwise (held.map String.toList))) :
    ∃ n, Item.GiveLast items setting held otherwise n ∧
      final.value setting = max setting.lowest (min n setting.highest) := by
  have hlimit (n : Int) : setting.limit n = max setting.lowest (min n setting.highest) := by
    unfold Setting.limit clamp
    cases setting
    all_goals
      simp only [Setting.lowest, Setting.highest]
      omega
  have hvalue := h.value_eq setting
  rw [Item.getLast?_value?, hdefault] at hvalue
  unfold Item.GiveLast
  cases hlast : (items.filterMap (Item.text? setting)).getLast? with
  | none =>
    rw [hlast] at hvalue
    exact ⟨_, reads_integerOr otherwise held, hvalue.trans (hlimit _)⟩
  | some text =>
    rw [hlast] at hvalue
    exact ⟨_, reads_integerOr 0 (some text), hvalue.trans (hlimit _)⟩

/-- Arguments are read in one way, from left to right. The first item that asks for help or makes no sense
decides the answer alone, also where other arguments follow. Where there is none, the arguments are accepted: the
last server and the last values count, or else those of the environment, and else the pool, 2000 milliseconds and
three attempts; a flag counts wherever it stands; the system log is used if a flag or the environment asks for it
outside of test mode; and the settings are within their ranges, whatever the environment holds. -/
theorem Request.ofArguments_answer (env : Environment) (arguments : List String) :
    ∃ items, Item.Scans arguments items ∧ (∀ other, Item.Scans arguments other → other = items) ∧
      (∀ before item after answer, items = before ++ item :: after → (∀ earlier ∈ before, ¬ earlier.IsDecisive) →
        item.Decides answer → Request.ofArguments env arguments = answer ∧
          ((∀ setting, item ≠ .setting setting none) → ∀ more, Request.ofArguments env (arguments ++ more) = answer)) ∧
      ((∀ item ∈ items, ¬ item.IsDecisive) →
        ∃ config, Request.ofArguments env arguments = .ok (.run config) ∧
          (∃ server, env.Names server ∧ config.server = (items.filterMap Item.server?).getLast?.getD server) ∧
          (∃ n, Item.GiveLast items .timeout env.timeout 2000 n ∧ config.timeoutMs = max 1 (min n 6000)) ∧
          (∃ n, Item.GiveLast items .retries env.retries 3 n ∧ config.retries = max 1 (min n 10)) ∧
          (config.verbose = true ↔ .flag .verbose ∈ items) ∧ (config.testOnly = true ↔ .flag .testOnly ∈ items) ∧
          (config.useSystemLog = true ↔ config.testOnly = false ∧
            (.flag .systemLog ∈ items ∨ ∃ text, env.systemLog = some text ∧ SaysYes text.toList)) ∧
          1 ≤ config.timeoutMs ∧ config.timeoutMs ≤ 6000 ∧ 1 ≤ config.retries ∧ config.retries ≤ 10) := by
  refine ⟨Item.ofArguments arguments, (Item.scans_iff _ _).mpr rfl, fun other h => h.items_eq, ?_, fun hall => ?_⟩
  · intro before item after answer hitems hbefore hdecides
    constructor
    · unfold Request.ofArguments
      rw [hitems]
      exact interpret_of_decides env.config hbefore hdecides
    · intro hgiven more
      obtain ⟨items, pending, later, hread, hmore, hpending⟩ := Item.exists_ofArgumentsAfter_append none arguments more
      -- The item is not the one that waits for a value, so that it is read before what follows.
      obtain ⟨tail, rfl⟩ : ∃ tail, items = before ++ item :: tail := by
        rcases append_eq_append_cons (hread.symm.trans hitems) with h | ⟨rest, -, hrest⟩
        · exact h
        · obtain ⟨setting, hsetting⟩ := hpending item (hrest ▸ by simp)
          exact absurd hsetting (hgiven setting)
      unfold Request.ofArguments Item.ofArguments
      rw [hmore, List.append_assoc]
      exact interpret_of_decides env.config hbefore hdecides
  · obtain ⟨final, hgathers, hrun⟩ := exists_gathers env.config hall
    obtain ⟨timeout, htimeout, htimeoutMs⟩ := hgathers.exists_giveLast .timeout env.timeout 2000 rfl
    obtain ⟨retries, hretries, hattempts⟩ := hgathers.exists_giveLast .retries env.retries 3 rfl
    have htimeoutMs : final.timeoutMs = max 1 (min timeout 6000) := htimeoutMs
    have hattempts : final.retries = max 1 (min retries 10) := hattempts
    refine ⟨_, hrun, ⟨_, env.names_serverOrDefault, hgathers.server_eq⟩, ⟨timeout, htimeout, htimeoutMs⟩,
      ⟨retries, hretries, hattempts⟩, ?_, ?_, ?_, ?_, ?_, ?_, ?_⟩
    · exact (hgathers.isOn_iff .verbose).trans (or_iff_right Bool.false_ne_true)
    · exact (hgathers.isOn_iff .testOnly).trans (or_iff_right Bool.false_ne_true)
    · have hlog : final.useSystemLog = true ↔
          env.config.useSystemLog = true ∨ .flag .systemLog ∈ Item.ofArguments arguments :=
        hgathers.isOn_iff .systemLog
      have hheld : env.config.useSystemLog = true ↔ ∃ text, env.systemLog = some text ∧ SaysYes text.toList := by
        show env.systemLog.any (fun text => saysYes text.toList) = true ↔ _
        simp [Option.any_eq_true, saysYes_iff]
      rw [Bool.and_eq_true, Bool.not_eq_true', hlog, hheld, and_comm, or_comm]
    all_goals
      simp only []
      omega

end Sntp
