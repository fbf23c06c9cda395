import Mathlib.Data.List.Induction
import Sntp.Simulation.Agenda

/-!
# What an agenda holds, and in which order

An agenda holds exactly the things that were entered, each as often as it was (`perm_enter`,
`mem_ofList`), in the order of the times at which they are due (`isOrdered_ofList`). Of the things of a
kind it brings the one first that is due first, and of those due at one time the one that was entered
first (`find?_ofList`); things that are not of the kind make no difference (`IsFirst.filter_iff`).
-/

set_option autoImplicit false

namespace Sntp.Agenda

variable {α : Type}

/-- Entering a thing adds it to the agenda. -/
theorem perm_enter (due : Int) (thing : α) (agenda : Agenda α) :
    (agenda.enter due thing).Perm ((due, thing) :: agenda) := by
  induction agenda with
  | nil => exact .refl _
  | cons first rest ih =>
    obtain ⟨time, other⟩ := first
    unfold enter
    by_cases hle : time ≤ due
    · rw [if_pos hle]
      exact (ih.cons _).trans (.swap _ _ rest)
    · rw [if_neg hle]

/-- An agenda has what is entered and what it had. -/
theorem mem_enter (entry : Int × α) (due : Int) (thing : α) (agenda : Agenda α) :
    entry ∈ agenda.enter due thing ↔ entry = (due, thing) ∨ entry ∈ agenda := by
  rw [(perm_enter due thing agenda).mem_iff, List.mem_cons]

/-- An agenda has what is put on it. -/
theorem mem_ofList (entry : Int × α) (entries : List (Int × α)) : entry ∈ ofList entries ↔ entry ∈ entries := by
  have hfoldl : ∀ agenda : Agenda α,
      entry ∈ entries.foldl (fun agenda next => agenda.enter next.1 next.2) agenda ↔
        entry ∈ agenda ∨ entry ∈ entries := by
    induction entries with
    | nil => simp
    | cons next rest ih =>
      intro agenda
      rw [List.foldl_cons, ih, mem_enter, List.mem_cons]
      constructor
      · rintro ((h | h) | h)
        · exact .inr (.inl h)
        · exact .inl h
        · exact .inr (.inr h)
      · rintro (h | h | h)
        · exact .inl (.inr h)
        · exact .inl (.inl h)
        · exact .inr h
  exact (hfoldl []).trans (by simp)

/-- Whether the things of an agenda stand in the order of the times at which they are due. -/
def IsOrdered (agenda : Agenda α) : Prop := agenda.Pairwise fun first second => first.1 ≤ second.1

/-- An agenda stays in order when something is entered. -/
theorem IsOrdered.enter {agenda : Agenda α} (h : agenda.IsOrdered) (due : Int) (thing : α) :
    (agenda.enter due thing).IsOrdered := by
  unfold IsOrdered at h ⊢
  induction agenda with
  | nil => simp [Agenda.enter]
  | cons first rest ih =>
    obtain ⟨time, other⟩ := first
    obtain ⟨hfirst, hrest⟩ := List.pairwise_cons.mp h
    unfold Agenda.enter
    by_cases hle : time ≤ due
    · rw [if_pos hle]
      refine List.pairwise_cons.mpr ⟨fun entry hmem => ?_, ih hrest⟩
      rcases (mem_enter entry due thing rest).mp hmem with rfl | hmem
      · exact hle
      · exact hfirst entry hmem
    · rw [if_neg hle]
      refine List.pairwise_cons.mpr ⟨fun entry hmem => ?_, h⟩
      rcases List.mem_cons.mp hmem with rfl | hmem
      · exact Int.le_of_not_le hle
      · exact Int.le_trans (Int.le_of_not_le hle) (hfirst entry hmem)

/-- A thing is entered after all that is due no later, and before all that is due later. -/
theorem exists_enter {agenda : Agenda α} (h : agenda.IsOrdered) (due : Int) (thing : α) :
    ∃ first last, agenda = first ++ last ∧ agenda.enter due thing = first ++ (due, thing) :: last ∧
      (∀ entry ∈ first, entry.1 ≤ due) ∧ ∀ entry ∈ last, due < entry.1 := by
  induction agenda with
  | nil => exact ⟨[], [], rfl, rfl, nofun, nofun⟩
  | cons head rest ih =>
    obtain ⟨time, other⟩ := head
    obtain ⟨hhead, hrest⟩ := List.pairwise_cons.mp h
    unfold enter
    by_cases hle : time ≤ due
    · obtain ⟨first, last, hsplit, henter, hfirst, hlast⟩ := ih hrest
      refine ⟨(time, other) :: first, last, by rw [hsplit, List.cons_append], ?_, fun entry hmem => ?_, hlast⟩
      · rw [if_pos hle, henter, List.cons_append]
      · rcases List.mem_cons.mp hmem with rfl | hmem
        · exact hle
        · exact hfirst entry hmem
    · refine ⟨[], _, rfl, by rw [if_neg hle, List.nil_append], nofun, fun entry hmem => ?_⟩
      rcases List.mem_cons.mp hmem with rfl | hmem
      · exact Int.not_le.mp hle
      · exact Int.lt_of_lt_of_le (Int.not_le.mp hle) (hhead entry hmem)

/-- The last of some things is entered last. -/
theorem ofList_concat (entries : List (Int × α)) (due : Int) (thing : α) :
    ofList (entries ++ [(due, thing)]) = (ofList entries).enter due thing := by
  unfold ofList
  rw [List.foldl_append]
  rfl

/-- An agenda is in order. -/
theorem isOrdered_ofList (entries : List (Int × α)) : (ofList entries).IsOrdered := by
  induction entries using List.reverseRecOn with
  | nil => exact .nil
  | append_singleton entries entry ih =>
    rw [ofList_concat]
    exact ih.enter entry.1 entry.2

/-- Whether a thing is the first one of a kind among things that are entered one after the other: no other of
the kind is due earlier, and none that is due at the same time was entered earlier. -/
def IsFirst (kind : α → Prop) (entries : List (Int × α)) (due : Int) (thing : α) : Prop :=
  kind thing ∧ ∃ earlier later, entries = earlier ++ (due, thing) :: later ∧
    (∀ entry ∈ earlier, kind entry.2 → due < entry.1) ∧ ∀ entry ∈ later, kind entry.2 → due ≤ entry.1

variable {kind : α → Prop}

/-- The last of some things is the first one of a kind only if all others of the kind are due later. -/
theorem IsFirst.concat_iff (entries : List (Int × α)) (last : Int × α) (due : Int) (thing : α) :
    IsFirst kind (entries ++ [last]) due thing ↔
      IsFirst kind entries due thing ∧ (kind last.2 → due ≤ last.1) ∨
        last = (due, thing) ∧ kind thing ∧ ∀ entry ∈ entries, kind entry.2 → due < entry.1 := by
  unfold IsFirst
  constructor
  · rintro ⟨hkind, earlier, later, hsplit, hearlier, hlater⟩
    rcases List.eq_nil_or_concat later with rfl | ⟨later, final, rfl⟩
    · obtain ⟨rfl, hlast⟩ := List.append_inj' hsplit rfl
      exact .inr ⟨List.head_eq_of_cons_eq hlast, hkind, hearlier⟩
    · rw [List.concat_eq_append, ← List.cons_append, ← List.append_assoc] at hsplit
      obtain ⟨rfl, hlast⟩ := List.append_inj' hsplit rfl
      obtain rfl := List.head_eq_of_cons_eq hlast
      refine .inl ⟨⟨hkind, earlier, later, rfl, hearlier, fun entry hmem => ?_⟩, ?_⟩
      · exact hlater entry (by simp [hmem])
      · exact hlater last (by simp)
  · rintro (⟨⟨hkind, earlier, later, rfl, hearlier, hlater⟩, hlast⟩ | ⟨rfl, hkind, hearlier⟩)
    · refine ⟨hkind, earlier, later ++ [last], by simp, hearlier, fun entry hmem => ?_⟩
      rcases List.mem_append.mp hmem with hmem | hmem
      · exact hlater entry hmem
      · obtain rfl := List.mem_singleton.mp hmem
        exact hlast
    · exact ⟨hkind, entries, [], rfl, hearlier, by simp⟩

/-- Things that are not of the kind can be left out. -/
theorem IsFirst.filter_iff (keep : Int × α → Bool) (hkeep : ∀ entry : Int × α, kind entry.2 → keep entry = true)
    (entries : List (Int × α)) (due : Int) (thing : α) :
    IsFirst kind (entries.filter keep) due thing ↔ IsFirst kind entries due thing := by
  have hall (entries : List (Int × α)) : (∀ entry ∈ entries.filter keep, kind entry.2 → due < entry.1) ↔
      ∀ entry ∈ entries, kind entry.2 → due < entry.1 := by
    constructor
    · intro h entry hmem hkind
      exact h entry (List.mem_filter.mpr ⟨hmem, hkeep entry hkind⟩) hkind
    · intro h entry hmem hkind
      exact h entry (List.mem_filter.mp hmem).1 hkind
  induction entries using List.reverseRecOn with
  | nil => rfl
  | append_singleton entries last ih =>
    rw [List.filter_append, IsFirst.concat_iff]
    by_cases hlast : keep last = true
    · rw [List.filter_cons_of_pos hlast, List.filter_nil, IsFirst.concat_iff, hall]
      exact or_congr_left (and_congr_left fun _ => ih)
    · -- What is left out is not the first one, and is not of the kind that the first one precedes.
      have hidle : ¬ kind last.2 := fun hkind => hlast (hkeep last hkind)
      rw [List.filter_cons_of_neg hlast, List.filter_nil, List.append_nil]
      refine ih.trans ⟨?_, ?_⟩
      · intro hfirst
        exact .inl ⟨hfirst, fun hkind => absurd hkind hidle⟩
      · rintro (⟨hfirst, -⟩ | ⟨rfl, hkind, -⟩)
        · exact hfirst
        · exact absurd hkind hidle

/-- Nothing of the kind is due before the first one. -/
theorem IsFirst.le {entries : List (Int × α)} {due : Int} {thing : α} (h : IsFirst kind entries due thing)
    {entry : Int × α} (hmem : entry ∈ entries) (hkind : kind entry.2) : due ≤ entry.1 := by
  obtain ⟨-, earlier, later, rfl, hearlier, hlater⟩ := h
  rcases List.mem_append.mp hmem with hmem | hmem
  · exact Int.le_of_lt (hearlier entry hmem hkind)
  rcases List.mem_cons.mp hmem with rfl | hmem
  · exact Int.le_refl due
  · exact hlater entry hmem hkind

/-- The first one of a kind is one of the things. -/
theorem IsFirst.mem {entries : List (Int × α)} {due : Int} {thing : α} (h : IsFirst kind entries due thing) :
    (due, thing) ∈ entries := by
  obtain ⟨-, earlier, later, rfl, -⟩ := h
  simp

section

variable [DecidablePred kind]

/-- A thing that is entered comes before all that are due later, and after all others. -/
theorem find?_enter {agenda : Agenda α} (h : agenda.IsOrdered) (due : Int) (thing : α) :
    (agenda.enter due thing).find? (fun entry => kind entry.2) =
      match agenda.find? (fun entry => kind entry.2) with
      | none => if kind thing then some (due, thing) else none
      | some first => if kind thing ∧ due < first.1 then some (due, thing) else some first := by
  induction agenda with
  | nil => by_cases hkind : kind thing <;> simp [Agenda.enter, hkind]
  | cons first rest ih =>
    obtain ⟨time, other⟩ := first
    obtain ⟨hfirst, hrest⟩ := List.pairwise_cons.mp h
    unfold Agenda.enter
    by_cases hle : time ≤ due
    · rw [if_pos hle]
      by_cases hother : kind other
      · have hlate : ¬ due < time := Int.not_lt.mpr hle
        simp [hother, hlate]
      · simpa [hother] using ih hrest
    · rw [if_neg hle]
      by_cases hkind : kind thing
      · -- Whatever was the first one is due later.
        have hlater : ∀ entry, ((time, other) :: rest).find? (fun entry => kind entry.2) = some entry → due < entry.1 := by
          intro entry hfind
          rcases List.mem_cons.mp (List.mem_of_find?_eq_some hfind) with rfl | hmem
          · exact Int.not_le.mp hle
          · exact Int.lt_of_lt_of_le (Int.not_le.mp hle) (hfirst entry hmem)
        rw [List.find?_cons_of_pos (by simpa using hkind)]
        cases hfind : ((time, other) :: rest).find? (fun entry => kind entry.2) with
        | none => simp [hkind]
        | some entry => simp [hkind, hlater entry hfind]
      · rw [List.find?_cons_of_neg (by simpa using hkind)]
        cases ((time, other) :: rest).find? (fun entry => kind entry.2) <;> simp [hkind]

/-- What an agenda brings first of a kind is the first one of the kind that was entered. -/
theorem find?_ofList (entries : List (Int × α)) (due : Int) (thing : α) :
    (ofList entries).find? (fun entry => kind entry.2) = some (due, thing) ↔ IsFirst kind entries due thing := by
  -- By the last of the entries: it is the first of its kind only if it is due before the one that was so far.
  induction entries using List.reverseRecOn generalizing due thing with
  | nil => simp [ofList, IsFirst]
  | append_singleton entries last ih =>
    obtain ⟨time, other⟩ := last
    rw [ofList_concat, find?_enter (isOrdered_ofList entries), IsFirst.concat_iff, ← ih]
    cases hfind : (ofList entries).find? (fun entry => kind entry.2) with
    | none =>
      have hnone : ∀ entry ∈ entries, ¬ kind entry.2 := by
        intro entry hmem
        simpa using List.find?_eq_none.mp hfind entry ((mem_ofList entry entries).mpr hmem)
      by_cases hkind : kind other
      · simp only [hkind, if_true]
        constructor
        · rintro ⟨⟩
          exact .inr ⟨rfl, hkind, fun entry hmem h => absurd h (hnone entry hmem)⟩
        · rintro (⟨⟨⟩, -⟩ | ⟨heq, -⟩)
          rw [heq]
      · simp only [hkind, if_false]
        constructor
        · rintro ⟨⟩
        · rintro (⟨⟨⟩, -⟩ | ⟨heq, hthing, -⟩)
          cases heq
          exact absurd hthing hkind
    | some first =>
      have hfirst : IsFirst kind entries first.1 first.2 := (ih first.1 first.2).mp hfind
      by_cases hearlier : kind other ∧ time < first.1
      · simp only [if_pos hearlier]
        constructor
        · rintro ⟨⟩
          exact .inr ⟨rfl, hearlier.1, fun entry hmem h => Int.lt_of_lt_of_le hearlier.2 (hfirst.le hmem h)⟩
        · rintro (⟨⟨⟩, hle⟩ | ⟨heq, -⟩)
          · exact absurd hearlier.2 (Int.not_lt.mpr (hle hearlier.1))
          · rw [heq]
      · simp only [if_neg hearlier]
        constructor
        · rintro ⟨⟩
          exact .inl ⟨rfl, fun hkind => Int.not_lt.mp fun hlt => hearlier ⟨hkind, hlt⟩⟩
        · rintro (⟨hsame, -⟩ | ⟨heq, hkind, hall⟩)
          · exact hsame
          · cases heq
            exact absurd ⟨hkind, hall first hfirst.mem hfirst.1⟩ hearlier

end

end Sntp.Agenda
