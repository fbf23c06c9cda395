import Sntp.Endpoint
import Sntp.Proofs.Number.Nearest

/-!
# Hosts and ports as they are written

There are three ways to write a host that are not the host alone (`Written`): in brackets with a port, plain with a
port, and in brackets. A text is at most one of them, with one host and one port (`Written.text_inj`), and splitting
finds out which (`split_text`, `split_eq`). Any other text is a host as it stands, an address with several colons among
them (`ofText_reads`).
-/

set_option autoImplicit false

namespace Sntp.Endpoint

open Text

/-- A host written in a way that is not the host alone, with the digits of its port if it has one. -/
inductive Written where
  | bracketedWithPort (host digits : Chars)
  | plainWithPort (host digits : Chars)
  | bracketed (host : Chars)

/-- Whether a host may stand in brackets: there is one, and it is on one line. -/
def IsBracketable (host : Chars) : Prop := host ≠ [] ∧ ∀ c ∈ host, isLineEnd c = false

/-- Whether a host may stand before a port without brackets. -/
def IsPlain (host : Chars) : Prop := host ≠ [] ∧ ∀ c ∈ host, c ≠ '[' ∧ c ≠ ':'

/-- Whether a text is a written port: one or more ASCII digits. -/
def IsPort (digits : Chars) : Prop := digits ≠ [] ∧ ∀ c ∈ digits, c.isDigit = true

namespace Written

/-- The text that is written. -/
def text : Written → Chars
  | bracketedWithPort host digits => '[' :: host ++ [']'] ++ ':' :: digits
  | plainWithPort host digits => host ++ ':' :: digits
  | bracketed host => '[' :: host ++ [']']

/-- The host that is written. -/
def host : Written → Chars
  | bracketedWithPort host _ => host
  | plainWithPort host _ => host
  | bracketed host => host

/-- The digits of the port, if one is written. -/
def digits? : Written → Option Chars
  | bracketedWithPort _ digits => some digits
  | plainWithPort _ digits => some digits
  | bracketed _ => none

/-- Whether the host and the port may be written like this. -/
def IsWellFormed : Written → Prop
  | bracketedWithPort host digits => IsBracketable host ∧ IsPort digits
  | plainWithPort host digits => IsPlain host ∧ IsPort digits
  | bracketed host => IsBracketable host

end Written

section Parts

variable (text front digits host : Chars)

/-- A written port is the last run of digits, with a colon before it. -/
theorem portSuffix?_eq_some_iff :
    portSuffix? text = some (front, digits) ↔ text = front ++ ':' :: digits ∧ IsPort digits := by
  unfold portSuffix?
  constructor
  · intro h
    split at h
    case h_2 => cases h
    case h_1 rest hrest =>
      have hwhole : text.reverse = text.reverse.takeWhile Char.isDigit ++ ':' :: rest := by
        rw [← hrest, List.takeWhile_append_dropWhile]
      dsimp only at h
      split at h
      case isTrue => cases h
      case isFalse hne =>
        obtain ⟨rfl, rfl⟩ := Prod.mk.inj (Option.some.inj h)
        refine ⟨?_, hne, ?_⟩
        · have hreverse := congrArg List.reverse hwhole
          simpa using hreverse
        · intro c hmem
          exact List.all_eq_true.mp List.all_takeWhile c (List.mem_reverse.mp hmem)
  · rintro ⟨rfl, hne, hdigits⟩
    have hreverse : (front ++ ':' :: digits).reverse = digits.reverse ++ ':' :: front.reverse := by simp
    have hall : ∀ c ∈ digits.reverse, c.isDigit = true := by simpa using hdigits
    have hcolon : ¬ (':').isDigit = true := by decide
    rw [hreverse, List.dropWhile_append_of_pos hall, List.takeWhile_append_of_pos hall,
      List.dropWhile_cons_of_neg hcolon, List.takeWhile_cons_of_neg hcolon]
    simp [hne]

/-- The host in brackets is what stands between the first and the last character of a text in brackets. -/
theorem bracketed?_eq_some_iff :
    bracketed? text = some host ↔ text = '[' :: host ++ [']'] ∧ IsBracketable host := by
  unfold bracketed?
  constructor
  · intro h
    split at h
    case h_2 => cases h
    case h_1 inner =>
      split at h
      case h_2 => cases h
      case h_1 rest hrest =>
        split at h
        case isFalse => cases h
        case isTrue hhost =>
          obtain rfl := Option.some.inj h
          have hinner : inner = rest.reverse ++ [']'] := by
            have hreverse := congrArg List.reverse hrest
            simpa using hreverse
          refine ⟨by rw [hinner]; rfl, by simpa using hhost.1, ?_⟩
          simpa using hhost.2
  · rintro ⟨rfl, hne, hline⟩
    have hreverse : (host ++ [']']).reverse = ']' :: host.reverse := by simp
    simp only [List.cons_append, hreverse]
    rw [if_pos ⟨by simpa using hne, by simpa using hline⟩, List.reverse_reverse]

/-- A plain host is recognized by its characters. -/
theorem isPlainHost_iff : isPlainHost host = true ↔ IsPlain host := by
  unfold isPlainHost IsPlain
  simp

end Parts

/-- A written host is split into the host and the digits of its port. -/
theorem split_text {form : Written} (h : form.IsWellFormed) : split form.text = (form.host, form.digits?) := by
  unfold split
  cases form with
  | bracketedWithPort host digits =>
    obtain ⟨hhost, hport⟩ := h
    have hsuffix := (portSuffix?_eq_some_iff _ ('[' :: host ++ [']']) digits).mpr ⟨rfl, hport⟩
    have hbracketed := (bracketed?_eq_some_iff ('[' :: host ++ [']']) host).mpr ⟨rfl, hhost⟩
    simp only [Written.text, hsuffix, hbracketed]
    rfl
  | plainWithPort host digits =>
    obtain ⟨hhost, hport⟩ := h
    have hsuffix := (portSuffix?_eq_some_iff _ host digits).mpr ⟨rfl, hport⟩
    have hnone : bracketed? host = none := by
      apply Option.eq_none_iff_forall_ne_some.mpr
      intro inner hinner
      obtain ⟨rfl, -⟩ := (bracketed?_eq_some_iff host inner).mp hinner
      exact (hhost.2 '[' (by simp)).1 rfl
    simp only [Written.text, hsuffix, hnone, (isPlainHost_iff host).mpr hhost]
    rfl
  | bracketed host =>
    have hnone : portSuffix? ('[' :: host ++ [']']) = none := by
      apply Option.eq_none_iff_forall_ne_some.mpr
      rintro ⟨front, digits⟩ hsuffix
      obtain ⟨htext, hne, hdigits⟩ := (portSuffix?_eq_some_iff _ front digits).mp hsuffix
      -- A bracket at the end is no digit.
      obtain ⟨earlier, last, rfl⟩ := digits.eq_nil_or_concat.resolve_left hne
      have hend : '[' :: host ++ [']'] = (front ++ ':' :: earlier) ++ [last] := by simpa using htext
      obtain ⟨-, hlast⟩ := List.append_inj' hend rfl
      obtain rfl : ']' = last := by simpa using hlast
      exact absurd (hdigits ']' (by simp)) (by decide)
    simp only [Written.text, hnone, (bracketed?_eq_some_iff _ host).mpr ⟨rfl, h⟩]
    rfl

/-- A text is one of the ways to write a host, or splitting leaves it as it stands. -/
theorem exists_written_or_split (text : Chars) :
    (∃ form : Written, form.IsWellFormed ∧ form.text = text) ∨ split text = (text, none) := by
  cases hwhole : bracketed? text with
  | some host =>
    obtain ⟨htext, hhost⟩ := (bracketed?_eq_some_iff text host).mp hwhole
    exact .inl ⟨.bracketed host, hhost, htext.symm⟩
  | none =>
    cases hsuffix : portSuffix? text with
    | none =>
      refine .inr ?_
      unfold split
      simp only [hwhole, hsuffix]
    | some parts =>
      obtain ⟨front, digits⟩ := parts
      obtain ⟨htext, hport⟩ := (portSuffix?_eq_some_iff text front digits).mp hsuffix
      cases hfront : bracketed? front with
      | some host =>
        obtain ⟨rfl, hhost⟩ := (bracketed?_eq_some_iff front host).mp hfront
        exact .inl ⟨.bracketedWithPort host digits, ⟨hhost, hport⟩, htext.symm⟩
      | none =>
        by_cases hplain : isPlainHost front = true
        · exact .inl ⟨.plainWithPort front digits, ⟨(isPlainHost_iff front).mp hplain, hport⟩, htext.symm⟩
        · refine .inr ?_
          unfold split
          simp only [hwhole, hsuffix, hfront, if_neg hplain]

/-- No text is written in two ways. -/
theorem Written.text_inj {form form' : Written} (h : form.IsWellFormed) (h' : form'.IsWellFormed)
    (htext : form.text = form'.text) : form = form' := by
  have hsplit : (form.host, form.digits?) = (form'.host, form'.digits?) := by
    rw [← split_text h, ← split_text h', htext]
  obtain ⟨hhost, hdigits⟩ := Prod.mk.inj hsplit
  -- Both are read as the same host and port, which leaves the two forms with a port to be told apart.
  have hplain {host host' digits digits' : Chars} (hwell : IsPlain host) :
      (plainWithPort host digits).text ≠ (bracketedWithPort host' digits').text := by
    intro hsame
    obtain ⟨first, rest, rfl⟩ := List.exists_cons_of_ne_nil hwell.1
    obtain ⟨rfl, -⟩ := List.cons.inj hsame
    exact (hwell.2 '[' (by simp)).1 rfl
  cases form with
  | bracketedWithPort host digits =>
    cases form' with
    | bracketedWithPort host' digits' =>
      obtain rfl : host = host' := hhost
      obtain rfl : digits = digits' := Option.some.inj hdigits
      rfl
    | plainWithPort host' digits' => exact absurd htext.symm (hplain h'.1)
    | bracketed host' => cases hdigits
  | plainWithPort host digits =>
    cases form' with
    | bracketedWithPort host' digits' => exact absurd htext (hplain h.1)
    | plainWithPort host' digits' =>
      obtain rfl : host = host' := hhost
      obtain rfl : digits = digits' := Option.some.inj hdigits
      rfl
    | bracketed host' => cases hdigits
  | bracketed host =>
    cases form' with
    | bracketedWithPort host' digits' => cases hdigits
    | plainWithPort host' digits' => cases hdigits
    | bracketed host' =>
      obtain rfl : host = host' := hhost
      rfl

/-- A text that does not begin with a bracket and has several colons is none of the ways to write a host. -/
theorem Written.text_ne_of_colons {text : Chars} (hcolons : 2 ≤ text.count ':') (hbare : text.head? ≠ some '[')
    {form : Written} (h : form.IsWellFormed) : form.text ≠ text := by
  rintro rfl
  cases form with
  | bracketedWithPort host digits => exact hbare rfl
  | plainWithPort host digits =>
    obtain ⟨hhost, hport⟩ := h
    have hhostColons : host.count ':' = 0 := List.count_eq_zero.mpr fun hmem => (hhost.2 ':' hmem).2 rfl
    have hportColons : digits.count ':' = 0 := List.count_eq_zero.mpr fun hmem => absurd (hport.2 ':' hmem) (by decide)
    have hone : (host ++ ':' :: digits).count ':' = 1 := by
      rw [List.count_append, List.count_cons_self, hhostColons, hportColons]
    exact absurd hcolons (by rw [Written.text, hone]; decide)
  | bracketed host => exact hbare rfl

/-- Whether an endpoint is the one that is written: the host, and what the digits of the port are rounded to, which is
a nearest double, or the default port if there are no digits. -/
structure Written.Names (form : Written) (defaultPort : Number) (endpoint : Endpoint) : Prop where
  host : endpoint.host = String.ofList form.host
  port : ∀ digits ∈ form.digits?,
    endpoint.port = Number.round (Nat.ofDigitChars 10 digits 0) ∧ endpoint.port.IsNearest (Nat.ofDigitChars 10 digits 0)
  defaultPort : form.digits? = none → endpoint.port = defaultPort

/-- A text that is written in one of the forms is read as the host and the port of that form. -/
theorem ofText_names {text : String} {form : Written} (h : form.IsWellFormed) (htext : form.text = text.toList)
    (defaultPort : Number) : form.Names defaultPort (ofText text defaultPort) := by
  have hsplit : split text.toList = (form.host, form.digits?) := htext ▸ split_text h
  unfold ofText
  rw [hsplit]
  refine ⟨rfl, fun digits hdigits => ?_, fun hnone => ?_⟩
  · simp only [Option.mem_def.mp hdigits]
    rw [Number.ofDecimal_natCast]
    exact ⟨rfl, Number.isNearest_round _⟩
  · simp only [hnone]

/-- A text that is one of the ways to write a host, with or without a port, names what is written. It is one of them in
one way only. Any other text is a host as it stands, asked on the default port; so is every text with several colons
that does not begin with a bracket. -/
theorem ofText_reads (text : String) (defaultPort : Number) :
    (∀ form : Written, form.IsWellFormed → form.text = text.toList → form.Names defaultPort (ofText text defaultPort)) ∧
      ((∀ form : Written, form.IsWellFormed → form.text ≠ text.toList) → ofText text defaultPort = ⟨text, defaultPort⟩) ∧
      (2 ≤ text.toList.count ':' → text.toList.head? ≠ some '[' → ofText text defaultPort = ⟨text, defaultPort⟩) ∧
      ∀ form form' : Written, form.IsWellFormed → form'.IsWellFormed → form.text = form'.text → form = form' := by
  have hbare (hnone : ∀ form : Written, form.IsWellFormed → form.text ≠ text.toList) :
      ofText text defaultPort = ⟨text, defaultPort⟩ := by
    rcases exists_written_or_split text.toList with ⟨form, hform, htext⟩ | hsplit
    · exact absurd htext (hnone form hform)
    · unfold ofText
      rw [hsplit]
      simp only [String.ofList_toList]
  refine ⟨?_, hbare, ?_, ?_⟩
  · intro form hform htext
    exact ofText_names hform htext defaultPort
  · intro hcolons hhead
    apply hbare
    intro form hform
    exact Written.text_ne_of_colons hcolons hhead hform
  · intro form form' hform hform' htext
    exact Written.text_inj hform hform' htext

/-- An address in brackets with a port. -/
def bracketedAddress : Written := .bracketedWithPort "2001:db8::7".toList "1123".toList

/-- The address keeps its last group in brackets, and without them. -/
theorem ofText_reads_address :
    bracketedAddress.IsWellFormed ∧ bracketedAddress.Names (.ofInt 123) (ofText "[2001:db8::7]:1123" (.ofInt 123)) ∧
      ofText "2001:db8::7" (.ofInt 123) = ⟨"2001:db8::7", .ofInt 123⟩ := by
  have hform : bracketedAddress.IsWellFormed := by
    simp [bracketedAddress, Written.IsWellFormed, IsBracketable, IsPort, isLineEnd]
  obtain ⟨hwritten, -⟩ := ofText_reads "[2001:db8::7]:1123" (.ofInt 123)
  obtain ⟨-, -, hcolons, -⟩ := ofText_reads "2001:db8::7" (.ofInt 123)
  exact ⟨hform, hwritten bracketedAddress hform (by decide), hcolons (by decide) (by decide)⟩

end Sntp.Endpoint
