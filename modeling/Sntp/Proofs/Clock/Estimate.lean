import Sntp.Clock.Offset
import Sntp.Proofs.Number.Integer

/-!
# Forming an estimate

An operation is applied to safe integers whose exact result is one too (`StaysSafe`), and to nothing else. So an
estimate is formed exactly of safe integers whose sum, offset and round trip are safe integers
(`Sample.estimate_eq_ok_iff`). If none is formed, the fault names the first of the three operations that leaves the safe
integers, with its operands (`Sample.FirstOverflow`, `Sample.estimate_eq_error_iff`).
-/

set_option autoImplicit false

namespace Sntp

open Number

section Operations

/-- An operation is applied exactly to safe integers with a safe result. -/
theorem checked_eq_ok_iff (operation : String) (apply : Int → Int → Int) (a b : Number) (result : Int) :
    checked operation apply a b = .ok result ↔
      ∃ m n, a = ofInt m ∧ b = ofInt n ∧ IsSafe m ∧ IsSafe n ∧ IsSafe (apply m n) ∧ result = apply m n := by
  unfold checked
  constructor
  · intro h
    split at h
    case h_1 m n ha hb =>
      rw [safeInteger?_eq_some_iff] at ha hb
      split at h
      case isTrue hsafe => exact ⟨m, n, ha.1, hb.1, ha.2, hb.2, hsafe, (Except.ok.inj h).symm⟩
      case isFalse => cases h
    case h_2 => cases h
  · rintro ⟨m, n, rfl, rfl, hm, hn, hsafe, rfl⟩
    have ha : (ofInt m).safeInteger? = some m := (safeInteger?_eq_some_iff _ _).mpr ⟨rfl, hm⟩
    have hb : (ofInt n).safeInteger? = some n := (safeInteger?_eq_some_iff _ _).mpr ⟨rfl, hn⟩
    simp only [ha, hb, if_pos hsafe]

/-- An operation that is not applied fails with the fault that names it. -/
theorem checked_eq_error {operation : String} {apply : Int → Int → Int} {a b : Number} {fault : Fault}
    (h : checked operation apply a b = .error fault) : fault = .overflow operation a b := by
  unfold checked at h
  split at h
  · split at h
    · cases h
    · exact (Except.error.inj h).symm
  · exact (Except.error.inj h).symm

/-- Two safe integers whose exact result under an operation is one too. -/
def StaysSafe (apply : Int → Int → Int) (a b : Number) : Prop :=
  ∃ m n, a = ofInt m ∧ b = ofInt n ∧ IsSafe m ∧ IsSafe n ∧ IsSafe (apply m n)

/-- An operation that stays among the safe integers is carried out. -/
theorem StaysSafe.checked_eq {operation : String} {apply : Int → Int → Int} {a b : Number} {m n : Int}
    (h : StaysSafe apply a b) (ha : a = ofInt m) (hb : b = ofInt n) : checked operation apply a b = .ok (apply m n) := by
  obtain ⟨m', n', ha', hb', hm, hn, hsafe⟩ := h
  obtain rfl := ofInt_inj.mp (ha.symm.trans ha')
  obtain rfl := ofInt_inj.mp (hb.symm.trans hb')
  exact (checked_eq_ok_iff operation apply a b _).mpr ⟨m, n, ha, hb, hm, hn, hsafe, rfl⟩

/-- An operation that is carried out stays among the safe integers, and so do its operands. -/
theorem staysSafe_of_checked {operation : String} {apply : Int → Int → Int} {a b : Number} {result : Int}
    (h : checked operation apply a b = .ok result) :
    StaysSafe apply a b ∧ ∃ m n, a = ofInt m ∧ b = ofInt n ∧ result = apply m n := by
  obtain ⟨m, n, ha, hb, hm, hn, hsafe, hresult⟩ := (checked_eq_ok_iff operation apply a b result).mp h
  exact ⟨⟨m, n, ha, hb, hm, hn, hsafe⟩, m, n, ha, hb, hresult⟩

/-- It fails exactly on other operands, with the fault that names it and them. -/
theorem checked_eq_error_iff (operation : String) (apply : Int → Int → Int) (a b : Number) (fault : Fault) :
    checked operation apply a b = .error fault ↔ ¬ StaysSafe apply a b ∧ fault = .overflow operation a b := by
  cases hchecked : checked operation apply a b with
  | error own =>
    obtain rfl := checked_eq_error hchecked
    have hleaves : ¬ StaysSafe apply a b := by
      intro hstays
      have ⟨m, n, ha, hb, _⟩ := hstays
      cases hchecked.symm.trans (hstays.checked_eq ha hb)
    constructor
    · intro h
      exact ⟨hleaves, (Except.error.inj h).symm⟩
    · rintro ⟨-, rfl⟩
      rfl
  | ok result =>
    obtain ⟨hstays, -⟩ := staysSafe_of_checked hchecked
    exact iff_of_false (fun h => by cases h) fun h => h.1 hstays

end Operations

/-- The times of a sample are safe integers, and so are their sum, the offset and the round trip. -/
structure Sample.IsExact (sample : Sample) (sent received remote : Int) : Prop where
  sent_eq : sample.localSendMs = ofInt sent
  received_eq : sample.localRecvMs = ofInt received
  remote_eq : sample.remoteMs = ofInt remote
  sent_safe : IsSafe sent
  received_safe : IsSafe received
  remote_safe : IsSafe remote
  sum_safe : IsSafe (sent + received)
  offset_safe : IsSafe (remote - (sent + received).tdiv 2)
  trip_safe : IsSafe (received - sent)

/-- The half without its fraction, by division to the floor. -/
theorem tdiv_two_eq (n : Int) : n.tdiv 2 = if 0 ≤ n then n / 2 else -(-n / 2) := by
  split
  case isTrue hn => exact Int.tdiv_eq_ediv_of_nonneg hn
  case isFalse hn =>
    have hneg : (-n).tdiv 2 = -n / 2 := Int.tdiv_eq_ediv_of_nonneg (by omega)
    rw [Int.neg_tdiv] at hneg
    omega

/-- Half of a safe integer is one. -/
theorem isSafe_half {n : Int} (h : IsSafe n) : IsSafe (n.tdiv 2) := by
  obtain ⟨hlow, hhigh⟩ := h
  rw [tdiv_two_eq]
  unfold IsSafe safeLimit at *
  split <;> omega

/-- An estimate is formed exactly of safe integers. -/
theorem Sample.estimate_eq_ok_iff (sample : Sample) (estimate : Estimate) :
    sample.estimate = .ok estimate ↔
      ∃ sent received remote, sample.IsExact sent received remote ∧
        estimate = { offsetMs := ofInt (remote - (sent + received).tdiv 2), rttMs := ofInt (received - sent) } := by
  unfold Sample.estimate
  constructor
  · intro h
    split at h
    · cases h
    rename_i sum hsum
    split at h
    · cases h
    rename_i offset hoffset
    split at h
    · cases h
    rename_i trip htrip
    obtain ⟨sent, received, hsend, hrecv, hs, hr, hsafe, rfl⟩ := (checked_eq_ok_iff ..).mp hsum
    obtain ⟨remote, half, hremote, hhalf, hm, -, hsafe', rfl⟩ := (checked_eq_ok_iff ..).mp hoffset
    obtain ⟨received', sent', hrecv', hsend', -, -, hsafe'', rfl⟩ := (checked_eq_ok_iff ..).mp htrip
    -- Each check has named its operands anew: they are the same integers.
    obtain rfl := ofInt_inj.mp hhalf
    obtain rfl := ofInt_inj.mp (hrecv.symm.trans hrecv')
    obtain rfl := ofInt_inj.mp (hsend.symm.trans hsend')
    exact ⟨sent, received, remote, ⟨hsend, hrecv, hremote, hs, hr, hm, hsafe, hsafe', hsafe''⟩,
      (Except.ok.inj h).symm⟩
  · rintro ⟨sent, received, remote, hexact, rfl⟩
    have hsum : checkedAdd sample.localSendMs sample.localRecvMs = .ok (sent + received) :=
      (checked_eq_ok_iff ..).mpr ⟨sent, received, hexact.sent_eq, hexact.received_eq, hexact.sent_safe,
        hexact.received_safe, hexact.sum_safe, rfl⟩
    have hoffset : checkedSub sample.remoteMs (ofInt ((sent + received).tdiv 2)) =
        .ok (remote - (sent + received).tdiv 2) :=
      (checked_eq_ok_iff ..).mpr ⟨remote, (sent + received).tdiv 2, hexact.remote_eq, rfl, hexact.remote_safe,
        isSafe_half hexact.sum_safe, hexact.offset_safe, rfl⟩
    have htrip : checkedSub sample.localRecvMs sample.localSendMs = .ok (received - sent) :=
      (checked_eq_ok_iff ..).mpr ⟨received, sent, hexact.received_eq, hexact.sent_eq, hexact.received_safe,
        hexact.sent_safe, hexact.trip_safe, rfl⟩
    simp only [hsum, hoffset, htrip]

/-- The first operation of an estimate that leaves the safe integers, with its operands. -/
inductive Sample.FirstOverflow (sample : Sample) : String → Number → Number → Prop
  | sum (hsum : ¬ StaysSafe (· + ·) sample.localSendMs sample.localRecvMs) :
      FirstOverflow sample "+" sample.localSendMs sample.localRecvMs
  | offset {sent received : Int} (hsent : sample.localSendMs = ofInt sent) (hreceived : sample.localRecvMs = ofInt received)
      (hsum : StaysSafe (· + ·) sample.localSendMs sample.localRecvMs)
      (hoffset : ¬ StaysSafe (· - ·) sample.remoteMs (ofInt ((sent + received).tdiv 2))) :
      FirstOverflow sample "-" sample.remoteMs (ofInt ((sent + received).tdiv 2))
  | trip {sent received : Int} (hsent : sample.localSendMs = ofInt sent) (hreceived : sample.localRecvMs = ofInt received)
      (hsum : StaysSafe (· + ·) sample.localSendMs sample.localRecvMs)
      (hoffset : StaysSafe (· - ·) sample.remoteMs (ofInt ((sent + received).tdiv 2)))
      (htrip : ¬ StaysSafe (· - ·) sample.localRecvMs sample.localSendMs) :
      FirstOverflow sample "-" sample.localRecvMs sample.localSendMs

/-- Where no estimate is formed, the fault names the first operation that leaves the safe integers. -/
theorem Sample.estimate_eq_error_iff (sample : Sample) (fault : Fault) :
    sample.estimate = .error fault ↔
      ∃ operation left right, sample.FirstOverflow operation left right ∧ fault = .overflow operation left right := by
  unfold estimate checkedAdd checkedSub
  constructor
  · intro h
    split at h
    case h_1 own hsum =>
      obtain ⟨hleaves, rfl⟩ := (checked_eq_error_iff ..).mp hsum
      exact ⟨_, _, _, .sum hleaves, (Except.error.inj h).symm⟩
    rename_i sum hsum
    obtain ⟨hsums, sent, received, hsent, hreceived, rfl⟩ := staysSafe_of_checked hsum
    split at h
    case h_1 own hoffset =>
      obtain ⟨hleaves, rfl⟩ := (checked_eq_error_iff ..).mp hoffset
      exact ⟨_, _, _, .offset hsent hreceived hsums hleaves, (Except.error.inj h).symm⟩
    rename_i offset hoffset
    obtain ⟨hoffsets, -⟩ := staysSafe_of_checked hoffset
    split at h
    case h_1 own htrip =>
      obtain ⟨hleaves, rfl⟩ := (checked_eq_error_iff ..).mp htrip
      exact ⟨_, _, _, .trip hsent hreceived hsums hoffsets hleaves, (Except.error.inj h).symm⟩
    case h_2 => cases h
  · rintro ⟨operation, left, right, hfirst, rfl⟩
    cases hfirst with
    | sum hsum =>
      rw [(checked_eq_error_iff "+" (· + ·) _ _ _).mpr ⟨hsum, rfl⟩]
    | offset hsent hreceived hsum hoffset =>
      rw [hsum.checked_eq hsent hreceived]
      simp only [(checked_eq_error_iff "-" (· - ·) _ _ _).mpr ⟨hoffset, rfl⟩]
    | trip hsent hreceived hsum hoffset htrip =>
      have ⟨remote, middle, hremote, hmiddle, _⟩ := hoffset
      rw [hsum.checked_eq hsent hreceived]
      simp only [hoffset.checked_eq hremote hmiddle, (checked_eq_error_iff "-" (· - ·) _ _ _).mpr ⟨htrip, rfl⟩]

end Sntp
