import Mathlib.Tactic.SplitIfs
import SellProbe.Text.Utf8

/-!
# The order of texts is that of their bytes

Texts are compared by their characters. The bytes of UTF-8 compare the same: a character is written
in base 64, its highest digit in a lead byte that grows with the number of further bytes, so the
bytes of two characters differ first where their digits do (`encode_lt_encode_iff`).
-/

namespace SellProbe.Utf8

/-- What a one with `k` digits behind it is worth in base 64. -/
def weight : Nat → Nat
  | 0 => 1
  | k + 1 => weight k * 64

/-- A byte for each of the lowest `k` digits of a number in base 64. -/
def trail : (k : Nat) → (v : Nat) → Bytes
  | 0, _ => []
  | k + 1, v => UInt8.ofNat (v / weight k % 64 + 128) :: trail k v

def extra (v : Nat) : Nat :=
  if v ≤ 127 then 0 else if v ≤ 2047 then 1 else if v ≤ 65535 then 2 else 3

def lead (v : Nat) : Nat :=
  if v ≤ 127 then v else if v ≤ 2047 then v / 64 + 192
  else if v ≤ 65535 then v / 4096 + 224 else v / 262144 + 240

theorem toNat_lt (c : Char) : c.toNat < 0x110000 := by
  have hvalid : c.toNat.isValidChar := c.valid
  rcases hvalid with h | h <;> omega

theorem utf8EncodeChar_eq (c : Char) :
    String.utf8EncodeChar c = UInt8.ofNat (lead c.toNat) :: trail (extra c.toNat) c.toNat := by
  have hc := toNat_lt c
  rw [Char.toNat] at hc ⊢
  unfold String.utf8EncodeChar lead extra
  generalize c.val.toNat = v at hc
  dsimp only
  split_ifs
  · rfl
  · rw [Nat.mod_eq_of_lt (show v / 64 < 32 by omega)]
    simp [trail, weight]
  · rw [Nat.mod_eq_of_lt (show v / 4096 < 16 by omega)]
    simp [trail, weight]
  · rw [Nat.mod_eq_of_lt (show v / 262144 < 8 by omega)]
    simp [trail, weight]

theorem lead_lt {v : Nat} (h : v < 0x110000) : lead v < 256 := by
  unfold lead
  split_ifs <;> omega

/-- A greater code has a greater lead byte, or the same one and as many further bytes, which then
tell. -/
theorem lead_lt_or {v w : Nat} (h : v < w) (hw : w < 0x110000) :
    lead v < lead w ∨ lead v = lead w ∧ extra v = extra w ∧
      v / weight (extra v) = w / weight (extra v) := by
  have h₀ : weight 0 = 1 := rfl
  have h₁ : weight 1 = 64 := rfl
  have h₂ : weight 2 = 4096 := rfl
  have h₃ : weight 3 = 262144 := rfl
  unfold lead extra
  split_ifs <;> simp only [h₀, h₁, h₂, h₃, true_and] <;> omega

theorem ofNat_lt_ofNat {a b : Nat} (hb : b < 256) (h : a < b) : UInt8.ofNat a < UInt8.ofNat b :=
  (UInt8.ofNat_lt_iff_lt (by simp only [UInt8.size]; omega) hb).2 h

/-- Numbers that agree above their lowest digits compare as these do. -/
theorem trail_append_lt {k v w : Nat} (h : v < w) (hhigh : v / weight k = w / weight k)
    (x y : Bytes) : trail k v ++ x < trail k w ++ y := by
  induction k with
  | zero =>
    simp only [weight, Nat.div_one] at hhigh
    omega
  | succ k ih =>
    have hle : v / weight k ≤ w / weight k := Nat.div_le_div_right (Nat.le_of_lt h)
    rw [weight, ← Nat.div_div_eq_div_mul, ← Nat.div_div_eq_div_mul] at hhigh
    rw [trail, trail, List.cons_append, List.cons_append, List.cons_lt_cons_iff]
    rcases Nat.lt_or_eq_of_le hle with hlt | heq
    · exact .inl (ofNat_lt_ofNat (by omega) (by omega))
    · exact .inr ⟨by rw [heq], ih heq⟩

/-- The bytes of a smaller character are smaller, whatever comes behind. -/
theorem encodeChar_append_lt {c d : Char} (h : c < d) (x y : Bytes) :
    String.utf8EncodeChar c ++ x < String.utf8EncodeChar d ++ y := by
  replace h : c.toNat < d.toNat := h
  rw [utf8EncodeChar_eq, utf8EncodeChar_eq, List.cons_append, List.cons_append,
    List.cons_lt_cons_iff]
  rcases lead_lt_or h (toNat_lt d) with hlead | ⟨hlead, hextra, hhigh⟩
  · exact .inl (ofNat_lt_ofNat (lead_lt (toNat_lt d)) hlead)
  · refine .inr ⟨by rw [hlead], ?_⟩
    rw [← hextra]
    exact trail_append_lt h hhigh x y

theorem encodeChars_lt {cs ds : List Char} (h : cs < ds) : encodeChars cs < encodeChars ds := by
  induction h with
  | nil =>
    rw [encodeChars, encodeChars, List.flatMap_cons, utf8EncodeChar_eq]
    exact List.nil_lt_cons _ _
  | rel h => exact encodeChar_append_lt h _ _
  | cons _ ih => exact List.append_left_lt ih

/-- **A text is smaller than another just when its bytes are.** -/
theorem encode_lt_encode_iff {s t : String} : encode s < encode t ↔ s < t := by
  refine ⟨fun h => Decidable.byContradiction fun hst => ?_, encodeChars_lt⟩
  have hts : ¬ t < s := fun hts => List.lt_asymm h (encodeChars_lt hts)
  obtain rfl : s = t := String.le_antisymm (String.not_lt.1 hts) (String.not_lt.1 hst)
  exact List.lt_irrefl _ h

end SellProbe.Utf8
