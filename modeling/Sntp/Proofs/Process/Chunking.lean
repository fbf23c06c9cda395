import Sntp.Proofs.Process.Verdict
import Sntp.Proofs.Text.Mentions

/-!
# Commands whose output comes in other chunks

The same streams can come in chunks cut in many ways, and the chunks of the two streams in many orders. A monitor reads
each chunk on its own, so it may find a complaint in one delivery and none in another: `"date: invalid date"` is one, and
`"date: inva"` before `"lid date"` is none.

Cuts that leave whole what a monitor looks for do not matter (`watch_recut`). On the error stream that is a formatting
sequence (`KeepsSequences`), in the output also a phrase with the word that it would run into (`KeepsPhrases`). All these
are ASCII, so it does not matter if a character of several bytes is cut, nor in which order the chunks of the two streams
come. In a delivery that keeps the phrases, output that complains as a whole is always found out.
-/

set_option autoImplicit false

namespace Sntp

open Text

/-- The bytes that an event brings on a stream. -/
def ProcessEvent.bytesOn? (stream : Stream) : ProcessEvent → Option Bytes
  | .chunk source bytes => if source = stream then some bytes else none
  | .closed _ => none
  | .failed _ => none

/-- The chunks of a stream, in their order. -/
def chunksOf (stream : Stream) (events : List (Int × ProcessEvent)) : List Bytes :=
  events.filterMap fun event => event.2.bytesOn? stream

/-- The chunks of a stream are those that come at some time. -/
theorem mem_chunksOf_iff (stream : Stream) (bytes : Bytes) (events : List (Int × ProcessEvent)) :
    bytes ∈ chunksOf stream events ↔ ∃ time, (time, .chunk stream bytes) ∈ events := by
  unfold chunksOf
  rw [List.mem_filterMap]
  constructor
  · rintro ⟨⟨time, event⟩, hmem, hbytes⟩
    cases event with
    | chunk source bytes' =>
      obtain ⟨rfl, rfl⟩ : source = stream ∧ bytes' = bytes := by simpa [ProcessEvent.bytesOn?] using hbytes
      exact ⟨time, hmem⟩
    | closed code => cases hbytes
    | failed failure => cases hbytes
  · rintro ⟨time, hmem⟩
    exact ⟨_, hmem, by simp [ProcessEvent.bytesOn?]⟩

/-- Whether no cut between chunks goes through a formatting sequence. -/
def KeepsSequences (chunks : List Bytes) : Prop := Uncut (CutsThrough IsSequence) (chunks.map asciiText)

/-- Whether no cut between chunks goes through a formatting sequence, nor, formatting aside, through a phrase that
complains or between one and a word beside it. -/
structure KeepsPhrases (chunks : List Bytes) : Prop where
  sequences : KeepsSequences chunks
  phrases : Uncut (CutsThrough IsExpression) (chunks.map fun chunk => stripFormatting (asciiText chunk))

/-- Whether chunks are the same, or others that bring the same bytes in cuts that keep what matters. -/
def Recut (keeps : List Bytes → Prop) (first second : List Bytes) : Prop :=
  first = second ∨ (first.flatten = second.flatten ∧ keeps first ∧ keeps second)

section Streams

variable {chunks : List Bytes}

/-- The ASCII of chunks put together is the ASCII of each of them. -/
theorem asciiText_flatten (chunks : List Bytes) : asciiText chunks.flatten = (chunks.map asciiText).flatten :=
  List.map_flatten

/-- Chunks that cut no formatting sequence are stripped one by one. -/
theorem KeepsSequences.stripFormatting_flatten (h : KeepsSequences chunks) :
    stripFormatting (asciiText chunks.flatten) = (chunks.map fun chunk => stripFormatting (asciiText chunk)).flatten := by
  rw [asciiText_flatten, Text.stripFormatting_flatten h, List.map_map]
  rfl

/-- Bytes show nothing exactly if their ASCII text shows nothing. -/
theorem stripFormatting_ofUtf8_eq_nil_iff (bytes : Bytes) :
    stripFormatting (ofUtf8 bytes) = [] ↔ stripFormatting (asciiText bytes) = [] := by
  have halike := (asciiAlike_ofUtf8 bytes).stripFormatting
  constructor
  · intro hnil
    rw [hnil] at halike
    exact halike.eq_nil
  · intro hnil
    rw [hnil] at halike
    exact halike.symm.eq_nil

/-- A stream shows nothing exactly if none of its chunks shows anything. -/
theorem KeepsSequences.shows_nothing_iff (h : KeepsSequences chunks) :
    (∀ chunk ∈ chunks, stripFormatting (ofUtf8 chunk) = []) ↔ stripFormatting (ofUtf8 chunks.flatten) = [] := by
  simp only [stripFormatting_ofUtf8_eq_nil_iff, h.stripFormatting_flatten, List.flatten_eq_nil_iff, List.forall_mem_map]

/-- A stream complains exactly if one of its chunks does. -/
theorem KeepsPhrases.complains_iff (h : KeepsPhrases chunks) :
    (∃ chunk ∈ chunks, isComplaint (ofUtf8 chunk) = true) ↔ isComplaint (ofUtf8 chunks.flatten) = true := by
  have hascii (bytes : Bytes) : isComplaint (ofUtf8 bytes) = true ↔ Mentions (stripFormatting (asciiText bytes)) := by
    rw [(asciiAlike_ofUtf8 bytes).isComplaint_eq, isComplaint_iff]
  rw [hascii, h.sequences.stripFormatting_flatten, mentions_flatten_iff h.phrases]
  constructor
  · rintro ⟨chunk, hchunk, hcomplaint⟩
    exact ⟨_, List.mem_map_of_mem hchunk, (hascii chunk).mp hcomplaint⟩
  · rintro ⟨piece, hpiece, hmentions⟩
    obtain ⟨chunk, hchunk, rfl⟩ := List.mem_map.mp hpiece
    exact ⟨chunk, hchunk, (hascii chunk).mpr hmentions⟩

end Streams

section Recutting

variable {first second : List Bytes}

/-- Whether anything is left of the chunks without formatting does not depend on where the text is cut. -/
theorem Recut.shows_nothing_iff (h : Recut KeepsSequences first second) :
    (∀ chunk ∈ first, stripFormatting (ofUtf8 chunk) = []) ↔ ∀ chunk ∈ second, stripFormatting (ofUtf8 chunk) = [] := by
  rcases h with rfl | ⟨hsame, hfirst, hsecond⟩
  · exact Iff.rfl
  · rw [hfirst.shows_nothing_iff, hsecond.shows_nothing_iff, hsame]

/-- Whether one of the chunks complains does not depend on where the text is cut. -/
theorem Recut.complains_iff (h : Recut KeepsPhrases first second) :
    (∃ chunk ∈ first, isComplaint (ofUtf8 chunk) = true) ↔ ∃ chunk ∈ second, isComplaint (ofUtf8 chunk) = true := by
  rcases h with rfl | ⟨hsame, hfirst, hsecond⟩
  · exact Iff.rfl
  · rw [hfirst.complains_iff, hsecond.complains_iff, hsame]

end Recutting

/-- Events are silent exactly if the chunks of the error stream show nothing and those of the output do not complain. -/
theorem forall_isSilent_iff (events : List (Int × ProcessEvent)) :
    (∀ event ∈ events, event.2.IsSilent) ↔
      (∀ chunk ∈ chunksOf .errors events, stripFormatting (ofUtf8 chunk) = []) ∧
        ¬ ∃ chunk ∈ chunksOf .output events, isComplaint (ofUtf8 chunk) = true := by
  simp only [mem_chunksOf_iff]
  constructor
  · intro hsilent
    refine ⟨fun chunk ⟨time, hmem⟩ => hsilent _ hmem, ?_⟩
    rintro ⟨chunk, ⟨time, hmem⟩, hcomplaint⟩
    have hnone : isComplaint (ofUtf8 chunk) = false := hsilent _ hmem
    rw [hnone] at hcomplaint
    cases hcomplaint
  · rintro ⟨herrors, houtput⟩ ⟨time, event⟩ hmem
    cases event with
    | chunk stream bytes =>
      cases stream with
      | errors => exact herrors bytes ⟨time, hmem⟩
      | output => exact Bool.eq_false_iff.mpr fun hcomplaint => houtput ⟨bytes, ⟨time, hmem⟩, hcomplaint⟩
    | closed code => trivial
    | failed failure => trivial

/-- A close gives the output exactly if it counts as a success. -/
theorem conclude_ok_iff_isSuccess (command : String) (code : Option Int) (before : List (Int × ProcessEvent)) :
    (∃ output, (monitorAfter before).conclude command code = .ok output) ↔ IsSuccess code before := by
  rw [Monitor.conclude_ok_iff, IsSuccess, ← saidBy_eq_nil_iff]
  rfl

/-- Output that complains as a whole is no success, in chunks that keep the phrases. -/
theorem not_isSuccess_of_isComplaint (code : Option Int) {before : List (Int × ProcessEvent)}
    (hkeeps : KeepsPhrases (chunksOf .output before))
    (hcomplaint : isComplaint (ofUtf8 (chunksOf .output before).flatten) = true) : ¬ IsSuccess code before := by
  rintro ⟨-, hsilent⟩
  exact ((forall_isSilent_iff before).mp hsilent).2 (hkeeps.complains_iff.mpr hcomplaint)

/-- Whether an event leaves it to the streams how a command ended: a close with no exit code but zero. -/
def ProcessEvent.IsClean : ProcessEvent → Prop
  | .closed code => code = none ∨ code = some 0
  | _ => False

/-- A command ends well in both of two deliveries of its streams or in neither, if the same event ends both. Where that
event leaves it to the streams, the chunks of each stream are to be the same, or cut in ways that keep what matters on it;
otherwise the command fails, however the streams are cut. The chunks of the two streams may come in any order, and at any
times. If the chunks of the output keep the phrases, output that complains as a whole is a failure. -/
theorem watch_recut (command : String) (first second : List (Int × ProcessEvent)) (ending : ProcessEvent)
    (hending : ending.isEnding = true)
    (hfirst : ∀ event ∈ first, event.2.isEnding = false) (hsecond : ∀ event ∈ second, event.2.isEnding = false)
    (houtput : ending.IsClean → Recut KeepsPhrases (chunksOf .output first) (chunksOf .output second))
    (herrors : ending.IsClean → Recut KeepsSequences (chunksOf .errors first) (chunksOf .errors second))
    (time time' : Int) (later later' : List (Int × ProcessEvent)) :
    ∃ result result', watch command (first ++ (time, ending) :: later) = some (time, result) ∧
      watch command (second ++ (time', ending) :: later') = some (time', result') ∧
      ((∃ output, result = .ok output) ↔ ∃ output, result' = .ok output) ∧
      (¬ ending.IsClean → ¬ ∃ output, result = .ok output) ∧
      (KeepsPhrases (chunksOf .output first) → isComplaint (ofUtf8 (chunksOf .output first).flatten) = true →
        ¬ ∃ output, result = .ok output) := by
  cases ending with
  | chunk stream bytes => cases hending
  | failed failure =>
    exact ⟨.error failure, .error failure, watch_append command hfirst _, watch_append command hsecond _, Iff.rfl,
      fun _ => by simp, fun _ _ => by simp⟩
  | closed code =>
    have hsuccess : IsSuccess code first ↔ IsSuccess code second := by
      unfold IsSuccess
      refine and_congr_right fun hclean => ?_
      rw [forall_isSilent_iff, forall_isSilent_iff, (herrors hclean).shows_nothing_iff, (houtput hclean).complains_iff]
    refine ⟨_, _, watch_append command hfirst _, watch_append command hsecond _, ?_, fun hclean => ?_,
      fun hkeeps hcomplaint => ?_⟩
    · rw [conclude_ok_iff_isSuccess, conclude_ok_iff_isSuccess, hsuccess]
    · rw [conclude_ok_iff_isSuccess]
      exact fun h => hclean h.1
    · rw [conclude_ok_iff_isSuccess]
      exact not_isSuccess_of_isComplaint code hkeeps hcomplaint

/-- A complaint after a letter of two bytes, and formatting on the error stream. -/
def accented : List (Int × ProcessEvent) :=
  [(0, .chunk .output (0xC3 :: 0xA0 :: asciiBytes ": invalid date\n")), (1, .chunk .errors (asciiBytes "\x1b[39m"))]

/-- The same streams, the error stream first and the output cut between the two bytes of the letter. -/
def accentedLetterCut : List (Int × ProcessEvent) :=
  [(0, .chunk .errors (asciiBytes "\x1b[39m")), (0, .chunk .output [0xC3]),
    (7, .chunk .output (0xA0 :: asciiBytes ": invalid date\n"))]

/-- A single chunk cuts no phrase. -/
theorem keepsPhrases_singleton (chunk : Bytes) : KeepsPhrases [chunk] :=
  ⟨uncut_singleton IsSequence _, uncut_singleton IsExpression _⟩

/-- A cut after a byte that is not ASCII keeps the phrases, even if it goes through a character. -/
theorem keepsPhrases_pair (front : Bytes) {last : UInt8} (hlast : 0x80 ≤ last.toNat) (second : Bytes) :
    KeepsPhrases [front ++ [last], second] := by
  have hsequence (text : Chars) (h : IsSequence text) : replacement ∉ text := fun hmem =>
    not_isAscii_replacement (h.isAscii replacement hmem)
  have hexpression (text : Chars) (h : IsExpression text) : replacement ∉ text := fun hmem =>
    not_isAscii_replacement (h.isAscii replacement hmem)
  have hmark : asciiText (front ++ [last]) = asciiText front ++ [replacement] := by
    simp [asciiText, Nat.not_lt.mpr hlast]
  have hstripped : stripFormatting (asciiText (front ++ [last])) = stripFormatting (asciiText front) ++ [replacement] := by
    rw [hmark, stripFormatting_append (not_cutsThrough_of_head? rfl hsequence _)]
    rfl
  constructor
  · apply uncut_pair
    rw [hmark]
    apply not_cutsThrough_of_getLast? List.getLast?_concat hsequence
  · apply uncut_pair
    show ¬ CutsThrough IsExpression (stripFormatting (asciiText (front ++ [last]))) _
    rw [hstripped]
    apply not_cutsThrough_of_getLast? List.getLast?_concat hexpression

/-- The complaint is found out in both deliveries. -/
theorem watch_recut_accented :
    ∃ result result', watch "date" (accented ++ (9, .closed (some 0)) :: []) = some (9, result) ∧
      watch "date" (accentedLetterCut ++ (12, .closed (some 0)) :: []) = some (12, result') ∧
      ((∃ output, result = .ok output) ↔ ∃ output, result' = .ok output) ∧ ¬ ∃ output, result = .ok output := by
  have hwhole : KeepsPhrases (chunksOf .output accented) := keepsPhrases_singleton _
  have hcut : KeepsPhrases (chunksOf .output accentedLetterCut) := keepsPhrases_pair [] (by decide) _
  have hcomplaint : isComplaint (ofUtf8 (chunksOf .output accented).flatten) = true := by decide +kernel
  obtain ⟨result, result', hwatch, hwatch', hsame, -, hdetected⟩ :=
    watch_recut "date" accented accentedLetterCut (.closed (some 0)) rfl (by decide) (by decide)
      (fun _ => .inr ⟨rfl, hwhole, hcut⟩) (fun _ => .inl rfl) 9 12 [] []
  exact ⟨result, result', hwatch, hwatch', hsame, hdetected hwhole hcomplaint⟩

-- A cut through a phrase hides it.
example : (watch "date" [(0, .chunk .output (asciiBytes "date: inva")), (1, .chunk .output (asciiBytes "lid date\n")),
    (2, .closed (some 0))]).map (fun ending => ending.2.toOption) = some (some "date: invalid date\n") := by
  decide +kernel

end Sntp
