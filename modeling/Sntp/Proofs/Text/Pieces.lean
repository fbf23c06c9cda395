import Sntp.Text.Blank

/-!
# Texts in pieces

A reader that takes a text piece by piece comes to the same as one that takes it whole, if no cut between
two pieces goes through something that the reader must see whole (`Uncut`, `CutsThrough`). It is enough to
know this of a text in two parts, as long as a cut stays one when more stands before it
(`Uncut.flatten_map`, `Uncut.holds_iff`).
-/

set_option autoImplicit false

namespace Sntp.Text

section Pieces

variable {α β : Type} {cuts : List α → List α → Prop} {pieces : List (List α)}

/-- Whether a cut between two parts goes through something whole, which begins before and ends after it. -/
def CutsThrough (whole : List α → Prop) (before after : List α) : Prop :=
  ∃ front start finish rest, before = front ++ start ∧ after = finish ++ rest ∧ start ≠ [] ∧ finish ≠ [] ∧
    whole (start ++ finish)

/-- Whether no cut between pieces of a text counts as one; `cuts` tells this of a text in two parts. -/
def Uncut (cuts : List α → List α → Prop) (pieces : List (List α)) : Prop :=
  ∀ before after, pieces = before ++ after → ¬ cuts before.flatten after.flatten

/-- Whether a cut stays one when more stands before it. -/
def Lasting (cuts : List α → List α → Prop) : Prop :=
  ∀ front before after, cuts before after → cuts (front ++ before) after

/-- A cut through something whole stays one when more stands before it. -/
theorem lasting_cutsThrough (whole : List α → Prop) : Lasting (CutsThrough whole) := by
  rintro earlier _ _ ⟨front, start, finish, rest, rfl, rfl, hcut⟩
  exact ⟨earlier ++ front, start, finish, rest, by rw [List.append_assoc], rfl, hcut⟩

/-- A cut behind something that is part of nothing whole goes through nothing whole. -/
theorem not_cutsThrough_of_getLast? {whole : List α → Prop} {before : List α} {last : α}
    (hlast : before.getLast? = some last) (hwhole : ∀ text, whole text → last ∉ text) (after : List α) :
    ¬ CutsThrough whole before after := by
  rintro ⟨front, start, finish, rest, rfl, rfl, hstart, -, hcut⟩
  rw [List.getLast?_append, List.getLast?_eq_some_getLast hstart, Option.some_or] at hlast
  obtain rfl := Option.some.inj hlast
  exact hwhole _ hcut (List.mem_append_left _ (List.getLast_mem hstart))

/-- Nor does a cut before something that is part of nothing whole. -/
theorem not_cutsThrough_of_head? {whole : List α → Prop} {after : List α} {first : α}
    (hfirst : after.head? = some first) (hwhole : ∀ text, whole text → first ∉ text) (before : List α) :
    ¬ CutsThrough whole before after := by
  rintro ⟨front, start, finish, rest, rfl, rfl, -, hfinish, hcut⟩
  rw [List.head?_append, List.head?_eq_some_head hfinish, Option.some_or] at hfirst
  obtain rfl := Option.some.inj hfirst
  exact hwhole _ hcut (List.mem_append_right _ (List.head_mem hfinish))

/-- Only cuts with pieces on both sides can go through something. -/
theorem uncut_of_inner {whole : List α → Prop}
    (h : ∀ before after, pieces = before ++ after → before ≠ [] → after ≠ [] →
      ¬ CutsThrough whole before.flatten after.flatten) :
    Uncut (CutsThrough whole) pieces := by
  rintro before after hpieces ⟨front, start, finish, rest, hbefore, hafter, hstart, hfinish, hwhole⟩
  refine h before after hpieces ?_ ?_ ⟨front, start, finish, rest, hbefore, hafter, hstart, hfinish, hwhole⟩
  · rintro rfl
    exact hstart (List.append_eq_nil_iff.mp hbefore.symm).2
  · rintro rfl
    exact hfinish (List.append_eq_nil_iff.mp hafter.symm).1

/-- A single piece is not cut. -/
theorem uncut_singleton (whole : List α → Prop) (piece : List α) : Uncut (CutsThrough whole) [piece] := by
  refine uncut_of_inner fun before after hpieces hbefore hafter => absurd (congrArg List.length hpieces) ?_
  have hpositive := List.length_pos_iff.mpr hbefore
  have hpositive' := List.length_pos_iff.mpr hafter
  simp only [List.length_cons, List.length_nil, List.length_append]
  omega

/-- Two pieces are not cut if the place between them is no cut. -/
theorem uncut_pair {whole : List α → Prop} {first second : List α} (h : ¬ CutsThrough whole first second) :
    Uncut (CutsThrough whole) [first, second] := by
  refine uncut_of_inner fun before after hpieces hbefore hafter => ?_
  obtain ⟨piece, before, rfl⟩ := List.exists_cons_of_ne_nil hbefore
  obtain ⟨rfl, hrest⟩ := List.cons.inj hpieces
  cases before with
  | nil =>
    obtain rfl : [second] = after := hrest
    simpa using h
  | cons piece' before =>
    obtain ⟨-, hrest⟩ := List.cons.inj hrest
    exact absurd (List.append_eq_nil_iff.mp hrest.symm).2 hafter

/-- The first of uncut pieces is not cut off from the others. -/
theorem Uncut.head {piece : List α} (h : Uncut cuts (piece :: pieces)) : ¬ cuts piece pieces.flatten := by
  have hcut := h [piece] pieces rfl
  rwa [List.flatten_singleton] at hcut

/-- Uncut pieces are not cut either when the first one is taken away. -/
theorem Uncut.tail (hlasting : Lasting cuts) {piece : List α} (h : Uncut cuts (piece :: pieces)) : Uncut cuts pieces := by
  rintro before after rfl hcut
  exact h (piece :: before) after rfl (hlasting piece _ _ hcut)

/-- What a reader makes of a text is what it makes of the pieces, put together. -/
theorem Uncut.flatten_map {read : List α → List β} (hnil : read [] = []) (hlasting : Lasting cuts)
    (hread : ∀ before after, ¬ cuts before after → read (before ++ after) = read before ++ read after)
    (h : Uncut cuts pieces) : read pieces.flatten = (pieces.map read).flatten := by
  induction pieces with
  | nil => exact hnil
  | cons piece rest ih =>
    rw [List.flatten_cons, hread _ _ h.head, ih (h.tail hlasting), List.map_cons, List.flatten_cons]

/-- What is to be found in a text is to be found in one of the pieces. -/
theorem Uncut.holds_iff {found : List α → Prop} (hnil : ¬ found []) (hlasting : Lasting cuts)
    (hfound : ∀ before after, ¬ cuts before after → (found (before ++ after) ↔ found before ∨ found after))
    (h : Uncut cuts pieces) : found pieces.flatten ↔ ∃ piece ∈ pieces, found piece := by
  induction pieces with
  | nil => simpa using hnil
  | cons piece rest ih =>
    rw [List.flatten_cons, hfound _ _ h.head, ih (h.tail hlasting)]
    simp

end Pieces

end Sntp.Text
