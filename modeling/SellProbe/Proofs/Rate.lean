import SellProbe.Proofs.WordArithmetic
import SellProbe.Reflection

/-!
# The rate of a reflection token

The rate is the number of times that the supply fits into the largest word. So every amount up to
the supply has a number of inner units, and reading that number back gives the amount.
-/

namespace SellProbe

theorem Word.half_le (w : Word) : w / 2 ≤ w := by
  rw [BitVec.le_def, BitVec.toNat_udiv]
  exact Nat.div_le_self _ _

theorem Word.quarter_le_half (w : Word) : w / 4 ≤ w / 2 := by
  rw [BitVec.le_def, BitVec.toNat_udiv, BitVec.toNat_udiv]
  exact Nat.div_le_div_left (by decide) (by decide)

namespace Reflection

variable {amount supply : Word}

/-- Taking the remainder away first does not change the quotient. -/
theorem rate_eq (h : supply ≠ 0) : rate supply = .ok (Word.largest / supply) := by
  have hmod : (Word.largest % supply).toNat ≤ Word.largest.toNat := by
    rw [BitVec.toNat_umod]
    exact Nat.mod_le _ _
  have htotal : (Word.largest - Word.largest % supply).toNat =
      Word.largest.toNat - Word.largest.toNat % supply.toNat := by
    rw [BitVec.toNat_sub_of_le (BitVec.le_def.2 hmod), BitVec.toNat_umod]
  have hquotient : (Word.largest - Word.largest % supply) / supply = Word.largest / supply := by
    apply BitVec.eq_of_toNat_eq
    rw [BitVec.toNat_udiv, BitVec.toNat_udiv, htotal, ← Nat.div_eq_sub_mod_div]
  rw [rate, if_neg h]
  exact congrArg Except.ok hquotient

/-- The largest word holds the supply at least once. -/
theorem toNat_rate_pos (h : supply ≠ 0) : 0 < (Word.largest / supply).toNat := by
  rw [BitVec.toNat_udiv]
  have hle : supply.toNat ≤ Word.largest.toNat := by
    rw [Word.toNat_largest]
    have := supply.isLt
    omega
  exact Nat.div_pos hle (Word.toNat_pos h)

theorem rate_eq_ok_iff {r : Word} :
    rate supply = .ok r ↔ supply ≠ 0 ∧ r = Word.largest / supply := by
  by_cases h : supply = 0
  · rw [rate, if_pos h]
    exact iff_of_false nofun fun hr => hr.1 h
  · rw [rate_eq h, Except.ok.injEq]
    exact ⟨fun hr => ⟨h, hr.symm⟩, fun hr => hr.2.symm⟩

theorem toNat_rate {r : Word} (hr : rate supply = .ok r) :
    r.toNat = (2 ^ 256 - 1) / supply.toNat := by
  obtain ⟨-, rfl⟩ := rate_eq_ok_iff.1 hr
  rw [BitVec.toNat_udiv, Word.toNat_largest]

/-- Amounts up to the supply have a number of inner units that is a word. -/
theorem mul_rate_lt_of_le {r : Word} (hr : rate supply = .ok r) (hle : amount ≤ supply) :
    amount.toNat * r.toNat < 2 ^ 256 := by
  rw [toNat_rate hr]
  calc amount.toNat * ((2 ^ 256 - 1) / supply.toNat)
      ≤ supply.toNat * ((2 ^ 256 - 1) / supply.toNat) :=
        Nat.mul_le_mul_right _ (BitVec.le_def.1 hle)
    _ ≤ 2 ^ 256 - 1 := Nat.mul_div_le _ _
    _ < 2 ^ 256 := by decide

def excess (amount : Word) : ProbeError := .badInput (amount.toDecimal ++ " excede o supply")

/-- Going to inner units is a multiplication whose result must be a word. -/
theorem toInner_eq {r : Word} (hr : rate supply = .ok r) :
    toInner amount supply = (Word.mul? amount r).elim (.error (excess amount)) .ok := by
  rw [toInner, hr]
  simp only [bind, Except.bind]
  cases Word.mul? amount r <;> rfl

theorem toInner_eq_ok_iff {inner r : Word} (hr : rate supply = .ok r) :
    toInner amount supply = .ok inner ↔ inner.toNat = amount.toNat * r.toNat := by
  rw [toInner_eq hr, ← Word.ofNat?_eq_some_iff]
  change _ ↔ Word.mul? amount r = some inner
  cases Word.mul? amount r <;> simp

/-- A product that is a word is the result. -/
theorem exists_toInner_of_lt {r : Word} (hr : rate supply = .ok r)
    (h : amount.toNat * r.toNat < 2 ^ 256) :
    ∃ inner : Word, toInner amount supply = .ok inner ∧ inner.toNat = amount.toNat * r.toNat := by
  have hvalue : (BitVec.ofNat 256 (amount.toNat * r.toNat)).toNat = amount.toNat * r.toNat := by
    rw [BitVec.toNat_ofNat, Nat.mod_eq_of_lt h]
  exact ⟨_, (toInner_eq_ok_iff hr).2 hvalue, hvalue⟩

/-- Going back is a division. -/
theorem ofInner_eq {inner r : Word} (hr : rate supply = .ok r) :
    ofInner inner supply = .ok (inner / r) := by
  rw [ofInner, hr]
  rfl

/-- An amount comes back as it was. -/
theorem ofInner_of_toInner {inner r : Word} (hr : rate supply = .ok r)
    (h : toInner amount supply = .ok inner) : ofInner inner supply = .ok amount := by
  obtain ⟨hsupply, rfl⟩ := rate_eq_ok_iff.1 hr
  have hback : inner / (Word.largest / supply) = amount := by
    apply BitVec.eq_of_toNat_eq
    rw [BitVec.toNat_udiv, (toInner_eq_ok_iff hr).1 h, Nat.mul_div_left _ (toNat_rate_pos hsupply)]
  rw [ofInner_eq hr, hback]

/-- Inner units of an amount up to the supply. -/
theorem toInner_of_le (h : supply ≠ 0) (hle : amount ≤ supply) :
    ∃ inner, toInner amount supply = .ok inner ∧
      inner.toNat = amount.toNat * ((2 ^ 256 - 1) / supply.toNat) ∧
      ofInner inner supply = .ok amount := by
  have hr : rate supply = .ok (Word.largest / supply) := rate_eq h
  obtain ⟨inner, hinner, hvalue⟩ := exists_toInner_of_lt hr (mul_rate_lt_of_le hr hle)
  exact ⟨inner, hinner, by rw [hvalue, toNat_rate hr], ofInner_of_toInner hr hinner⟩

end Reflection

end SellProbe
