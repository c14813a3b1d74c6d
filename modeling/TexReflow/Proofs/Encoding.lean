import Mathlib.Tactic.IntervalCases
import TexReflow.Text.Utf8

/-!
# Texts as octets

Every text is read back from its octets. A character of several octets is written with six bits in
each octet but the first; the bounds on the second octet hold because no character has a shorter
form, is a surrogate or lies beyond the last code point.
-/

namespace TexReflow.Text.Utf8

private theorem toNat_octet {m : Nat} (h : m < 256) : (UInt8.ofNat m).toNat = m :=
  UInt8.toNat_ofNat_of_lt h

private theorem octet_lt_iff {m : Nat} (h : m < 256) (b : UInt8) :
    UInt8.ofNat m < b ↔ m < b.toNat := by
  rw [UInt8.lt_iff_toNat_lt, toNat_octet h]

private theorem lt_octet_iff {m : Nat} (h : m < 256) (b : UInt8) :
    b < UInt8.ofNat m ↔ b.toNat < m := by
  rw [UInt8.lt_iff_toNat_lt, toNat_octet h]

/-- An octet that carries six bits and lies in its bounds is taken in. -/
private theorem decodeFrom_follow {i start owed value k : Nat} {lead low high : UInt8}
    (hk : k < 64) (hbounds : low.toNat ≤ k + 128 ∧ k + 128 ≤ high.toNat) (bs : List UInt8) :
    decodeFrom i (some ⟨lead, start, owed, low, high, value⟩) (UInt8.ofNat (k + 128) :: bs) =
      match owed with
      | 0 => (decodeFrom (i + 1) none bs).map (Char.ofNat (value * 64 + k) :: ·)
      | owed + 1 =>
        decodeFrom (i + 1) (some ⟨lead, start, owed, 0x80, 0xBF, value * 64 + k⟩) bs := by
  have hm : k + 128 < 256 := by omega
  have hin : (UInt8.ofNat (k + 128) < low || high < UInt8.ofNat (k + 128)) = false := by
    simp only [Bool.or_eq_false_iff, decide_eq_false_iff_not, octet_lt_iff hm, lt_octet_iff hm]
    omega
  rw [decodeFrom, hin, toNat_octet hm, Nat.add_sub_cancel]
  rfl

/-- Behind the second octet any six bits can follow. -/
private theorem follow_bounds {k : Nat} (hk : k < 64) :
    (0x80 : UInt8).toNat ≤ k + 128 ∧ k + 128 ≤ (0xBF : UInt8).toNat := by
  have hbounds : (0x80 : UInt8).toNat = 128 ∧ (0xBF : UInt8).toNat = 191 := ⟨rfl, rfl⟩
  omega

private theorem decodeFrom_lead {i m : Nat} {p : Pending} (hm : m < 256) (hlarge : 128 ≤ m)
    (hp : Pending.ofLead? i (UInt8.ofNat m) = some p) (bs : List UInt8) :
    decodeFrom i none (UInt8.ofNat m :: bs) = decodeFrom (i + 1) (some p) bs := by
  have hnot : ¬UInt8.ofNat m < 0x80 := by
    rw [octet_lt_iff hm]
    exact Nat.not_lt.mpr hlarge
  rw [decodeFrom, if_neg hnot, hp]

private theorem ofLead?_two (i : Nat) {a : Nat} (hlow : 2 ≤ a) (hhigh : a < 32) :
    Pending.ofLead? i (UInt8.ofNat (a + 192)) =
      some ⟨UInt8.ofNat (a + 192), i, 0, 0x80, 0xBF, a⟩ := by
  interval_cases a <;> rfl

private theorem ofLead?_three (i : Nat) {a : Nat} (h : a < 16) :
    Pending.ofLead? i (UInt8.ofNat (a + 224)) =
      some ⟨UInt8.ofNat (a + 224), i, 1, if a = 0 then 0xA0 else 0x80,
        if a = 13 then 0x9F else 0xBF, a⟩ := by
  interval_cases a <;> rfl

private theorem ofLead?_four (i : Nat) {a : Nat} (h : a < 5) :
    Pending.ofLead? i (UInt8.ofNat (a + 240)) =
      some ⟨UInt8.ofNat (a + 240), i, 2, if a = 0 then 0x90 else 0x80,
        if a = 4 then 0x8F else 0xBF, a⟩ := by
  interval_cases a <;> rfl

private theorem decodeFrom_two {i a b : Nat} (hlow : 2 ≤ a) (hhigh : a < 32) (hb : b < 64)
    (bs : List UInt8) :
    decodeFrom i none (UInt8.ofNat (a + 192) :: UInt8.ofNat (b + 128) :: bs) =
      (decodeFrom (i + 2) none bs).map (Char.ofNat (a * 64 + b) :: ·) := by
  rw [decodeFrom_lead (by omega) (by omega) (ofLead?_two i hlow hhigh),
    decodeFrom_follow hb (follow_bounds hb)]

private theorem decodeFrom_three {i a b c : Nat} (ha : a < 16) (hb : b < 64) (hc : c < 64)
    (hlow : a = 0 → 32 ≤ b) (hhigh : a = 13 → b < 32) (bs : List UInt8) :
    decodeFrom i none
        (UInt8.ofNat (a + 224) :: UInt8.ofNat (b + 128) :: UInt8.ofNat (c + 128) :: bs) =
      (decodeFrom (i + 3) none bs).map (Char.ofNat ((a * 64 + b) * 64 + c) :: ·) := by
  have hfirst : (if a = 0 then (0xA0 : UInt8) else 0x80).toNat ≤ b + 128 ∧
      b + 128 ≤ (if a = 13 then (0x9F : UInt8) else 0xBF).toNat := by
    have hnarrow : (0xA0 : UInt8).toNat = 160 ∧ (0x9F : UInt8).toNat = 159 := ⟨rfl, rfl⟩
    have hwide := follow_bounds hb
    constructor <;> split <;> omega
  rw [decodeFrom_lead (by omega) (by omega) (ofLead?_three i ha),
    decodeFrom_follow hb hfirst]
  exact decodeFrom_follow hc (follow_bounds hc) bs

private theorem decodeFrom_four {i a b c d : Nat} (ha : a < 5) (hb : b < 64) (hc : c < 64)
    (hd : d < 64) (hlow : a = 0 → 16 ≤ b) (hhigh : a = 4 → b < 16) (bs : List UInt8) :
    decodeFrom i none (UInt8.ofNat (a + 240) :: UInt8.ofNat (b + 128) ::
        UInt8.ofNat (c + 128) :: UInt8.ofNat (d + 128) :: bs) =
      (decodeFrom (i + 4) none bs).map (Char.ofNat (((a * 64 + b) * 64 + c) * 64 + d) :: ·) := by
  have hfirst : (if a = 0 then (0x90 : UInt8) else 0x80).toNat ≤ b + 128 ∧
      b + 128 ≤ (if a = 4 then (0x8F : UInt8) else 0xBF).toNat := by
    have hnarrow : (0x90 : UInt8).toNat = 144 ∧ (0x8F : UInt8).toNat = 143 := ⟨rfl, rfl⟩
    have hwide := follow_bounds hb
    constructor <;> split <;> omega
  rw [decodeFrom_lead (by omega) (by omega) (ofLead?_four i ha),
    decodeFrom_follow hb hfirst]
  refine (decodeFrom_follow hc (follow_bounds hc) _).trans ?_
  exact decodeFrom_follow hd (follow_bounds hd) bs

/-- The octets of a character are read as that character. -/
private theorem decodeFrom_encodeChar (i : Nat) (c : Char) (bs : List UInt8) :
    ∃ j, decodeFrom i none (String.utf8EncodeChar c ++ bs) =
      (decodeFrom j none bs).map (c :: ·) := by
  have hvalid : c.toNat < 0xD800 ∨ (0xDFFF < c.toNat ∧ c.toNat < 0x110000) := c.valid
  have hchar {n : Nat} (hn : n = c.toNat) : Char.ofNat n = c := by
    rw [hn, Char.ofNat_toNat]
  rw [String.utf8EncodeChar, show c.val.toNat = c.toNat from rfl]
  generalize c.toNat = n at hvalid hchar
  split
  next hn =>
    have hsmall : UInt8.ofNat n < 0x80 := by
      rw [octet_lt_iff (by omega)]
      exact Nat.lt_succ_of_le hn
    refine ⟨i + 1, ?_⟩
    rw [List.singleton_append, decodeFrom, if_pos hsmall, toNat_octet (by omega), hchar rfl]
    rfl
  · split
    next hn =>
      refine ⟨i + 2, (decodeFrom_two (by omega) (by omega) (by omega) bs).trans ?_⟩
      rw [hchar (by omega)]
    · split
      next hn =>
        refine ⟨i + 3, (decodeFrom_three (by omega) (by omega) (by omega) (by omega) (by omega)
          bs).trans ?_⟩
        rw [hchar (by omega)]
      next hn =>
        refine ⟨i + 4, ?_⟩
        have hlead : n / 262144 % 8 < 5 := by omega
        refine (decodeFrom_four hlead (by omega) (by omega) (by omega) (by omega) (by omega)
          bs).trans ?_
        rw [hchar (by omega)]

/-- Every text is read back from its octets. -/
theorem decode_encode (t : Text) : decode (encode t) = .ok t := by
  have hfrom (i : Nat) : decodeFrom i none (encode t) = .ok t := by
    induction t generalizing i with
    | nil => rfl
    | cons c t ih =>
        obtain ⟨j, hj⟩ := decodeFrom_encodeChar i c (encode t)
        rw [encode, List.flatMap_cons, ← encode, hj, ih]
        rfl
  exact hfrom 0

end TexReflow.Text.Utf8
