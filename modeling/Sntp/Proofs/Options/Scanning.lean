import Mathlib.Data.List.Forall2
import Sntp.Proofs.Options.Letters

/-!
# How arguments are scanned

`Item.Scans` says what a list of arguments is read as, one argument after the other: two hyphens alone are
skipped, what has no hyphen in front names a server, and anything else is a cluster of letters, of which the
first that takes a value takes the rest of the cluster or, where nothing is left of it, the next argument
(`Item.IsCluster`). Which letters take a value and what the others stand for is written out (`Item.Means`,
`Item.Takes`). Every list of arguments is read in exactly one way (`scans_iff`).

The reading goes from left to right: what is read of some arguments is also read of them when others follow,
except that the first of these may be the value that was missing (`exists_ofArgumentsAfter_append`).
-/

set_option autoImplicit false

namespace Sntp

open Text

namespace Item

/-- What a letter stands for that takes no value. -/
inductive Means : Char → Item → Prop
  | help : Means 'h' .help
  | testOnly : Means 'n' (.flag .testOnly)
  | verbose : Means 'v' (.flag .verbose)
  | systemLog : Means 's' (.flag .systemLog)
  | unknown {letter : Char} (no_letter : letter ∉ ['h', 'n', 'v', 's', 't', 'r']) : Means letter (.unknownLetter letter)

/-- Which letters take a value, and for which setting. -/
inductive Takes : Char → Setting → Prop
  | timeout : Takes 't' .timeout
  | retries : Takes 'r' .retries

/-- Whether an argument is a cluster: letters that stand for an item each, and then perhaps one that takes a
value, with what is left of the cluster. -/
def IsCluster (argument : String) (flags : List Item) (tail : Option (Setting × Chars)) : Prop :=
  ∃ letters ending, argument.toList = '-' :: (letters ++ ending) ∧ (letters ++ ending).head? ≠ some '-' ∧
    List.Forall₂ Means letters flags ∧
    match tail with
    | none => ending = []
    | some (valued, attached) => ∃ letter, Takes letter valued ∧ ending = letter :: attached

/-- What a letter without a value stands for is what the program reads it as. -/
theorem means_iff (letter : Char) (item : Item) : Means letter item ↔ letterMeaning letter = .inl item := by
  constructor
  · rintro (_ | _ | _ | _ | hunknown)
    case unknown =>
      simp only [List.mem_cons, List.not_mem_nil, or_false, not_or] at hunknown
      unfold letterMeaning
      split <;> simp_all
    all_goals rfl
  · intro h
    unfold letterMeaning at h
    split at h
    case h_1 => exact Sum.inl.inj h ▸ .help
    case h_2 => exact Sum.inl.inj h ▸ .testOnly
    case h_3 => exact Sum.inl.inj h ▸ .verbose
    case h_4 => exact Sum.inl.inj h ▸ .systemLog
    case h_5 => cases h
    case h_6 => cases h
    case h_7 => exact Sum.inl.inj h ▸ .unknown (by simp_all)

/-- The setting that a letter takes a value for is the one that the program reads it as. -/
theorem takes_iff (letter : Char) (setting : Setting) : Takes letter setting ↔ letterMeaning letter = .inr setting := by
  constructor
  · rintro (_ | _)
    all_goals rfl
  · intro h
    unfold letterMeaning at h
    split at h
    case h_5 => exact Sum.inr.inj h ▸ .timeout
    case h_6 => exact Sum.inr.inj h ▸ .retries
    all_goals cases h

/-- Letters stand for items one by one. -/
theorem forall₂_means_iff (letters : Chars) (flags : List Item) :
    List.Forall₂ Means letters flags ↔ letters.map letterMeaning = flags.map .inl := by
  have hmeans : Means = fun letter item => letterMeaning letter = .inl item :=
    funext₂ fun letter item => propext (means_iff letter item)
  rw [hmeans, ← List.forall₂_eq_eq_eq, List.forall₂_map_left_iff, List.forall₂_map_right_iff]

/-- What arguments are read as. -/
inductive Scans : List String → List Item → Prop
  | nil : Scans [] []
  | skipped {rest : List String} {items : List Item} : Scans rest items → Scans ("--" :: rest) items
  | server {argument : String} {rest : List String} {items : List Item} (plain : argument.toList.head? ≠ some '-') :
    Scans rest items → Scans (argument :: rest) (.server argument :: items)
  | help {rest : List String} {items : List Item} : Scans rest items → Scans ("--help" :: rest) (.help :: items)
  | unknown {argument : String} {name : Chars} {rest : List String} {items : List Item}
    (long : argument.toList = '-' :: '-' :: name) (named : name ≠ []) (no_help : argument ≠ "--help") :
    Scans rest items → Scans (argument :: rest) (.unknownOption argument :: items)
  | flags {argument : String} {flags : List Item} {rest : List String} {items : List Item}
    (cluster : IsCluster argument flags none) : Scans rest items → Scans (argument :: rest) (flags ++ items)
  /-- The value of a setting is the rest of its cluster. -/
  | attached {argument : String} {flags : List Item} {setting : Setting} {value : Chars} {rest : List String}
    {items : List Item} (cluster : IsCluster argument flags (some (setting, value))) (given : value ≠ []) :
    Scans rest items → Scans (argument :: rest) (flags ++ .setting setting (some (String.ofList value)) :: items)
  /-- The value of a setting is the next argument, whatever that is. -/
  | next {argument value : String} {flags : List Item} {setting : Setting} {rest : List String} {items : List Item}
    (cluster : IsCluster argument flags (some (setting, []))) :
    Scans rest items → Scans (argument :: value :: rest) (flags ++ .setting setting (some value) :: items)
  | missing {argument : String} {flags : List Item} {setting : Setting}
    (cluster : IsCluster argument flags (some (setting, []))) : Scans [argument] (flags ++ [.setting setting none])

/-- Letters in front of a cluster that stand for an item each are read one by one. -/
theorem ofCluster_append {letters : Chars} {flags : List Item} (h : letters.map letterMeaning = flags.map .inl)
    (ending : Chars) : ofCluster (letters ++ ending) = (flags ++ (ofCluster ending).1, (ofCluster ending).2) := by
  induction letters generalizing flags with
  | nil =>
    obtain rfl : flags = [] := by simpa using h.symm
    rfl
  | cons letter letters ih =>
    cases flags with
    | nil => simp at h
    | cons flag flags =>
      obtain ⟨hletter, hletters⟩ := List.cons_eq_cons.mp h
      simp [ofCluster, hletter, ih hletters]

/-- Every cluster ends with its last letter or with the first one that takes a value. -/
theorem exists_flags (letters : Chars) :
    ∃ (front : Chars) (flags : List Item) (ending : Chars), letters = front ++ ending ∧
      List.Forall₂ Means front flags ∧
      (ending = [] ∨ ∃ letter valued attached, Takes letter valued ∧ ending = letter :: attached) := by
  induction letters with
  | nil => exact ⟨[], [], [], rfl, .nil, .inl rfl⟩
  | cons letter letters ih =>
    cases hletter : letterMeaning letter with
    | inl flag =>
      obtain ⟨front, flags, ending, rfl, hfront, hending⟩ := ih
      exact ⟨letter :: front, flag :: flags, ending, rfl, .cons ((means_iff letter flag).mpr hletter) hfront, hending⟩
    | inr valued => exact ⟨[], [], _, rfl, .nil, .inr ⟨letter, valued, letters, (takes_iff letter valued).mpr hletter, rfl⟩⟩

section

variable {argument : String} {flags : List Item} {setting : Setting}

/-- A cluster of letters without values is read as their items, and takes nothing of the next argument. -/
theorem IsCluster.ofArgument_eq (h : IsCluster argument flags none) : ofArgument argument = (flags, none) := by
  obtain ⟨letters, ending, hargument, hhead, hflags, rfl⟩ := h
  rw [ofArgument_of_letters hargument hhead, ofCluster_append ((forall₂_means_iff _ _).mp hflags)]
  simp [ofCluster]

/-- What is attached to the letter of a setting is its value. -/
theorem IsCluster.ofArgument_attached {value : Chars} (h : IsCluster argument flags (some (setting, value)))
    (hvalue : value ≠ []) :
    ofArgument argument = (flags ++ [.setting setting (some (String.ofList value))], none) := by
  obtain ⟨letters, ending, hargument, hhead, hflags, letter, htakes, rfl⟩ := h
  have hletter := (takes_iff letter setting).mp htakes
  rw [ofArgument_of_letters hargument hhead, ofCluster_append ((forall₂_means_iff _ _).mp hflags)]
  simp [ofCluster, hletter, hvalue]

/-- A cluster that ends in the letter of a setting awaits its value. -/
theorem IsCluster.ofArgument_awaiting (h : IsCluster argument flags (some (setting, []))) :
    ofArgument argument = (flags, some setting) := by
  obtain ⟨letters, ending, hargument, hhead, hflags, letter, htakes, rfl⟩ := h
  have hletter := (takes_iff letter setting).mp htakes
  rw [ofArgument_of_letters hargument hhead, ofCluster_append ((forall₂_means_iff _ _).mp hflags)]
  simp [ofCluster, hletter]

/-- An argument without a hyphen in front is a server. -/
theorem ofArgument_of_plain (h : argument.toList.head? ≠ some '-') : ofArgument argument = ([.server argument], none) := by
  unfold ofArgument
  split
  case h_4 => rfl
  all_goals
    rename_i hargument
    exact absurd (by rw [hargument]; rfl) h

/-- An argument with two hyphens in front and a name asks for help or makes no sense. -/
theorem ofArgument_of_long {name : Chars} (hargument : argument.toList = '-' :: '-' :: name) (hname : name ≠ []) :
    ofArgument argument = ([if argument = "--help" then .help else .unknownOption argument], none) := by
  unfold ofArgument
  split
  case h_1 h =>
    rw [hargument] at h
    exact absurd (List.cons_eq_cons.mp (List.cons_eq_cons.mp h).2).2 hname
  case h_2 => rfl
  case h_3 letters _ hlong h =>
    rw [hargument] at h
    exact absurd (List.cons_eq_cons.mp h).2.symm (hlong name)
  case h_4 h => exact absurd hargument (h _)

/-- An argument is of one of the kinds that are told apart. -/
theorem exists_kind (argument : String) :
    argument = "--" ∨ argument.toList.head? ≠ some '-' ∨ argument = "--help" ∨
      (argument ≠ "--help" ∧ ∃ name, argument.toList = '-' :: '-' :: name ∧ name ≠ []) ∨
      ∃ flags tail, IsCluster argument flags tail := by
  by_cases hhead : argument.toList.head? = some '-'
  · obtain ⟨letters, hletters⟩ := List.head?_eq_some_iff.mp hhead
    by_cases hlong : letters.head? = some '-'
    · obtain ⟨name, rfl⟩ := List.head?_eq_some_iff.mp hlong
      by_cases hname : name = []
      · exact .inl (String.toList_inj.mp (by rw [hletters, hname]; rfl))
      · by_cases hhelp : argument = "--help"
        · exact .inr (.inr (.inl hhelp))
        · exact .inr (.inr (.inr (.inl ⟨hhelp, name, hletters, hname⟩)))
    · obtain ⟨front, flags, ending, rfl, hfront, hending⟩ := exists_flags letters
      refine .inr (.inr (.inr (.inr ⟨flags, ?_⟩)))
      rcases hending with rfl | ⟨letter, valued, attached, hletter, rfl⟩
      · exact ⟨none, front, [], hletters, hlong, hfront, rfl⟩
      · exact ⟨some (valued, attached), front, _, hletters, hlong, hfront, letter, hletter, rfl⟩
  · exact .inr (.inl hhead)

end

/-- The arguments are read one after another, each with what the one before it awaits. -/
theorem ofArguments_cons (argument : String) (rest : List String) :
    ofArguments (argument :: rest) = (ofArgument argument).1 ++ ofArgumentsAfter (ofArgument argument).2 rest := rfl

/-- What arguments can be read as is what the program reads them as. -/
theorem Scans.items_eq {arguments : List String} {items : List Item} (h : Scans arguments items) :
    items = ofArguments arguments := by
  induction h with
  | nil => rfl
  | skipped _ ih => exact ih
  | server hplain _ ih =>
    rw [ofArguments_cons, ofArgument_of_plain hplain, ih]
    rfl
  | help _ ih =>
    rw [ih]
    rfl
  | unknown hlong hnamed hhelp _ ih =>
    rw [ofArguments_cons, ofArgument_of_long hlong hnamed, if_neg hhelp, ih]
    rfl
  | flags hcluster _ ih =>
    rw [ofArguments_cons, hcluster.ofArgument_eq, ih]
    rfl
  | attached hcluster hgiven _ ih =>
    rw [ofArguments_cons, hcluster.ofArgument_attached hgiven, ih, List.append_assoc]
    rfl
  | next hcluster _ ih =>
    rw [ofArguments_cons, hcluster.ofArgument_awaiting, ih]
    rfl
  | missing hcluster =>
    rw [ofArguments_cons, hcluster.ofArgument_awaiting]
    rfl

/-- All arguments can be read. -/
theorem exists_scans (arguments : List String) : ∃ items, Scans arguments items := by
  match arguments with
  | [] => exact ⟨[], .nil⟩
  | argument :: rest =>
    obtain ⟨items, hitems⟩ := exists_scans rest
    rcases exists_kind argument with rfl | hplain | rfl | ⟨hhelp, name, hlong, hname⟩ | ⟨flags, tail, hcluster⟩
    · exact ⟨_, .skipped hitems⟩
    · exact ⟨_, .server hplain hitems⟩
    · exact ⟨_, .help hitems⟩
    · exact ⟨_, .unknown hlong hname hhelp hitems⟩
    · match tail with
      | none => exact ⟨_, .flags hcluster hitems⟩
      | some (valued, letter :: value) => exact ⟨_, .attached hcluster (List.cons_ne_nil _ _) hitems⟩
      | some (valued, []) =>
        match rest with
        | [] => exact ⟨_, .missing hcluster⟩
        | value :: others =>
          obtain ⟨items, hitems⟩ := exists_scans others
          exact ⟨_, .next hcluster hitems⟩
termination_by arguments.length

/-- Every list of arguments is read in exactly one way. -/
theorem scans_iff (arguments : List String) (items : List Item) :
    Scans arguments items ↔ items = ofArguments arguments := by
  constructor
  · exact Scans.items_eq
  · rintro rfl
    obtain ⟨items, hitems⟩ := exists_scans arguments
    exact hitems.items_eq ▸ hitems

example : ofArguments ["-vt", "500", "--", "a.b", "-r3"] =
    [.flag .verbose, .setting .timeout (some "500"), .server "a.b", .setting .retries (some "3")] := by decide

/-- Arguments are read in one pass: others after them are read with the setting that awaits its value by then, if one
does. -/
theorem exists_awaiting (start : Option Setting) (arguments : List String) :
    ∃ items awaiting, ∀ more, ofArgumentsAfter start (arguments ++ more) = items ++ ofArgumentsAfter awaiting more := by
  induction arguments generalizing start with
  | nil => exact ⟨[], start, fun _ => rfl⟩
  | cons argument rest ih =>
    cases start with
    | some setting =>
      obtain ⟨items, awaiting, h⟩ := ih none
      exact ⟨.setting setting (some argument) :: items, awaiting, fun more => congrArg (List.cons _) (h more)⟩
    | none =>
      obtain ⟨items, awaiting, h⟩ := ih (ofArgument argument).2
      refine ⟨(ofArgument argument).1 ++ items, awaiting, fun more => ?_⟩
      rw [List.append_assoc, ← h more]
      rfl

/-- What is read of arguments is also read of them when others follow, except for a value that was missing. -/
theorem exists_ofArgumentsAfter_append (awaiting : Option Setting) (arguments more : List String) :
    ∃ items pending later, ofArgumentsAfter awaiting arguments = items ++ pending ∧
      ofArgumentsAfter awaiting (arguments ++ more) = items ++ later ∧
      ∀ item ∈ pending, ∃ setting, item = .setting setting none := by
  obtain ⟨items, last, h⟩ := exists_awaiting awaiting arguments
  have halone := h []
  rw [List.append_nil] at halone
  refine ⟨items, _, _, halone, h more, fun item hmem => ?_⟩
  cases last with
  | none => cases hmem
  | some setting => exact ⟨setting, List.mem_singleton.mp hmem⟩

/-- Arguments at whose end no value is missing are read on their own. -/
theorem ofArguments_append {arguments : List String} (h : ∀ setting, .setting setting none ∉ ofArguments arguments)
    (more : List String) : ofArguments (arguments ++ more) = ofArguments arguments ++ ofArguments more := by
  obtain ⟨items, last, hread⟩ := exists_awaiting none arguments
  have halone := hread []
  rw [List.append_nil] at halone
  cases last with
  | none =>
    unfold ofArguments
    rw [hread, halone]
    exact congrArg (· ++ _) (List.append_nil items).symm
  | some setting =>
    refine absurd ?_ (h setting)
    unfold ofArguments
    rw [halone]
    exact List.mem_append_right _ (List.mem_singleton_self _)

end Item

end Sntp
