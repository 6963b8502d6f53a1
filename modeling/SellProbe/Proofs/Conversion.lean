import Mathlib.Order.Bounds.Defs
import SellProbe.Proofs.Rate

/-!
# Amounts in inner units and back

Going to inner units multiplies by the rate, and going back divides by it and rounds down. The two
are a floor inverse pair: what goes to inner units comes back as it was, and what comes back lies
less than one rate below what went in (`conversions_floor_inverse`).

Going to inner units is refused where the product is no word. That is not the same as an amount
above the supply: the words above the last multiple of the supply may have room for more. It is the
same just where the remainder of the largest word is below the rate, and so for every supply below
`2 ^ 128` (`toInner_error_iff`), and no further (`exists_accepted_excess`).
-/

namespace SellProbe

namespace Reflection

variable {supply r : Word}

def noSupply : ProbeError := .badInput "supply zero não define taxa de reflexão"

theorem toInner_eq_error_iff {amount : Word} {e : ProbeError} (hr : rate supply = .ok r) :
    toInner amount supply = .error e ↔ 2 ^ 256 ≤ amount.toNat * r.toNat ∧ excess amount = e := by
  rw [toInner_eq hr, ← Word.mul?_eq_none_iff]
  cases Word.mul? amount r <;> simp

/-! ## The rate -/

theorem rate_pos (hr : rate supply = .ok r) : 0 < r.toNat := by
  obtain ⟨hsupply, rfl⟩ := rate_eq_ok_iff.1 hr
  exact toNat_rate_pos hsupply

/-- The whole supply in inner units is the last of its multiples that is a word. -/
theorem isGreatest_rate_mul (hr : rate supply = .ok r) :
    IsGreatest {n : Nat | supply.toNat ∣ n ∧ n < 2 ^ 256} (r.toNat * supply.toNat) := by
  rw [toNat_rate hr]
  constructor
  · refine ⟨Nat.dvd_mul_left _ _, ?_⟩
    have hle := Nat.div_mul_le_self (2 ^ 256 - 1) supply.toNat
    omega
  · rintro n ⟨⟨k, rfl⟩, hlt⟩
    rw [Nat.mul_comm]
    refine Nat.mul_le_mul_right _ ((Nat.le_div_iff_mul_le ?_).2 (by rw [Nat.mul_comm]; omega))
    exact Word.toNat_pos (rate_eq_ok_iff.1 hr).1

/-! ## The floor inverse pair -/

/-- A rate is the quotient of the largest word by the supply, and multiplying by it and dividing by
it are the two conversions. -/
structure IsFloorPair (supply r : Word) : Prop where
  eq_quotient : r.toNat = (2 ^ 256 - 1) / supply.toNat
  one_le : 1 ≤ r.toNat
  isGreatest : IsGreatest {n : Nat | supply.toNat ∣ n ∧ n < 2 ^ 256} (r.toNat * supply.toNat)
  /-- Products that are words are the results. -/
  toInner_of_lt : ∀ x : Word, x.toNat * r.toNat < 2 ^ 256 →
    ∃ w : Word, toInner x supply = .ok w ∧ w.toNat = x.toNat * r.toNat
  /-- Products that are no words are errors. -/
  refused_of_le : ∀ x : Word, 2 ^ 256 ≤ x.toNat * r.toNat → toInner x supply = .error (excess x)
  /-- Amounts up to the supply have such products. -/
  lt_of_le_supply : ∀ x ≤ supply, x.toNat * r.toNat < 2 ^ 256
  /-- There and back. -/
  ofInner_toInner : ∀ x w : Word, toInner x supply = .ok w → ofInner w supply = .ok x
  /-- Back and there, less than one rate is lost. -/
  toInner_ofInner : ∀ w : Word, ∃ y v : Word, ofInner w supply = .ok y ∧ toInner y supply = .ok v ∧
    v.toNat = y.toNat * r.toNat ∧ v.toNat ≤ w.toNat ∧ w.toNat < v.toNat + r.toNat

theorem isFloorPair_rate (hr : rate supply = .ok r) : IsFloorPair supply r where
  eq_quotient := toNat_rate hr
  one_le := rate_pos hr
  isGreatest := isGreatest_rate_mul hr
  toInner_of_lt _ := exists_toInner_of_lt hr
  refused_of_le _ h := (toInner_eq_error_iff hr).2 ⟨h, rfl⟩
  lt_of_le_supply _ := mul_rate_lt_of_le hr
  ofInner_toInner _ _ := ofInner_of_toInner hr
  toInner_ofInner w := by
    have hfloor : (w / r).toNat * r.toNat ≤ w.toNat := by
      rw [BitVec.toNat_udiv]
      exact Nat.div_mul_le_self _ _
    have hrest : w.toNat < (w / r).toNat * r.toNat + r.toNat := by
      rw [BitVec.toNat_udiv]
      exact Nat.lt_div_mul_add (rate_pos hr)
    obtain ⟨v, hv, hvalue⟩ := exists_toInner_of_lt hr (Nat.lt_of_le_of_lt hfloor w.isLt)
    exact ⟨w / r, v, ofInner_eq hr, hv, hvalue, hvalue ▸ hfloor, hvalue ▸ hrest⟩

/-- **The conversions are a floor inverse pair.** A supply has a rate, by which one conversion
multiplies exactly or fails and the other divides and rounds down, so that amounts come back as they
were. Without a supply all three are refused. -/
theorem conversions_floor_inverse (supply : Word) :
    if supply = 0 then
      rate supply = .error noSupply ∧
        ∀ x, toInner x supply = .error noSupply ∧ ofInner x supply = .error noSupply
    else ∃ r, rate supply = .ok r ∧ IsFloorPair supply r := by
  split
  next hzero =>
    have hrate : rate supply = .error noSupply := by rw [rate, if_pos hzero, noSupply]
    refine ⟨hrate, fun x => ⟨?_, ?_⟩⟩
    · rw [toInner, hrate]
      rfl
    · rw [ofInner, hrate]
      rfl
  next hsupply => exact ⟨_, rate_eq hsupply, isFloorPair_rate (rate_eq hsupply)⟩

/-! ## Amounts above the supply -/

/-- How far above the supply an amount can be and still have inner units: the remainder of the
largest word holds the rate so often. -/
def slack (supply : Word) : Nat :=
  (2 ^ 256 - 1) % supply.toNat / ((2 ^ 256 - 1) / supply.toNat)

theorem slack_eq_zero_iff (h : supply ≠ 0) :
    slack supply = 0 ↔ (2 ^ 256 - 1) % supply.toNat < (2 ^ 256 - 1) / supply.toNat := by
  rw [slack, Nat.div_eq_zero_iff_lt]
  rw [← toNat_rate (rate_eq h)]
  exact toNat_rate_pos h

/-- The products of amounts up to the supply and its slack are words, and no others. -/
theorem two_pow_le_mul_iff (hr : rate supply = .ok r) (x : Nat) :
    2 ^ 256 ≤ x * r.toNat ↔ supply.toNat + slack supply < x := by
  have hlast : (2 ^ 256 - 1) / r.toNat = supply.toNat + slack supply := by
    have hdivide : 2 ^ 256 - 1 = r.toNat * supply.toNat + (2 ^ 256 - 1) % supply.toNat := by
      rw [toNat_rate hr, Nat.mul_comm]
      exact (Nat.div_add_mod _ _).symm
    calc (2 ^ 256 - 1) / r.toNat
        = (r.toNat * supply.toNat + (2 ^ 256 - 1) % supply.toNat) / r.toNat := by rw [← hdivide]
      _ = supply.toNat + (2 ^ 256 - 1) % supply.toNat / r.toNat :=
          Nat.mul_add_div (rate_pos hr) _ _
      _ = supply.toNat + slack supply := by rw [slack, toNat_rate hr]
  rw [← hlast, Nat.div_lt_iff_lt_mul (rate_pos hr)]
  omega

/-- Refusing what is above the supply, and nothing else, takes a supply without slack. -/
theorem refuses_excess_iff (h : supply ≠ 0) :
    (∀ x : Word, supply.toNat + slack supply < x.toNat ↔ supply < x) ↔ slack supply = 0 := by
  constructor
  · intro hrefuses
    by_contra hslack
    have hproduct : ¬ 2 ^ 256 ≤ (supply.toNat + 1) * (Word.largest / supply).toNat := by
      rw [two_pow_le_mul_iff (rate_eq h)]
      omega
    have hword : supply.toNat + 1 < 2 ^ 256 :=
      calc supply.toNat + 1
          ≤ (supply.toNat + 1) * (Word.largest / supply).toNat :=
            Nat.le_mul_of_pos_right _ (toNat_rate_pos h)
        _ < 2 ^ 256 := Nat.lt_of_not_le hproduct
    have hnext : (BitVec.ofNat 256 (supply.toNat + 1)).toNat = supply.toNat + 1 := by
      rw [BitVec.toNat_ofNat, Nat.mod_eq_of_lt hword]
    have hrefused := (hrefuses (BitVec.ofNat 256 (supply.toNat + 1))).2 (by
      rw [BitVec.lt_def, hnext]
      exact Nat.lt_succ_self _)
    omega
  · intro hslack x
    rw [hslack, Nat.add_zero, BitVec.lt_def]

/-- A small supply is below its rate, and so is the remainder. -/
theorem mod_lt_div_of_lt (h : supply ≠ 0) (hsmall : supply.toNat < 2 ^ 128) :
    (2 ^ 256 - 1) % supply.toNat < (2 ^ 256 - 1) / supply.toNat :=
  calc (2 ^ 256 - 1) % supply.toNat
      < supply.toNat := Nat.mod_lt _ (Word.toNat_pos h)
    _ ≤ (2 ^ 256 - 1) / (2 ^ 128 - 1) := by omega
    _ ≤ (2 ^ 256 - 1) / supply.toNat := Nat.div_le_div_left (by omega) (Word.toNat_pos h)

/-- **Which amounts are refused.** An amount is refused, as one above the supply, if and only if it
is above the supply by more than its slack. These are all the amounts above the supply if and only
if the remainder of the largest word is below the rate, as it is for all supplies below
`2 ^ 128`. -/
theorem toInner_error_iff (h : supply ≠ 0) :
    (∀ amount e, toInner amount supply = .error e ↔
      supply.toNat + slack supply < amount.toNat ∧ e = excess amount) ∧
    ((∀ amount, (∃ e, toInner amount supply = .error e) ↔ supply < amount) ↔
      (2 ^ 256 - 1) % supply.toNat < (2 ^ 256 - 1) / supply.toNat) ∧
    (supply.toNat < 2 ^ 128 →
      (2 ^ 256 - 1) % supply.toNat < (2 ^ 256 - 1) / supply.toNat) := by
  have herror : ∀ amount e, toInner amount supply = .error e ↔
      supply.toNat + slack supply < amount.toNat ∧ e = excess amount := by
    intro amount e
    rw [toInner_eq_error_iff (rate_eq h), two_pow_le_mul_iff (rate_eq h), eq_comm (a := e)]
  refine ⟨herror, ?_, mod_lt_div_of_lt h⟩
  rw [← slack_eq_zero_iff h, ← refuses_excess_iff h]
  simp only [herror, exists_and_left, exists_eq, and_true]

def looseSupply : Word := 0x100000000000000000000000000000000#256

theorem slack_looseSupply : slack looseSupply = 1 := by decide +kernel

/-- What is refused at that supply is not just what is above it. -/
theorem toInner_error_iff_looseSupply :
    looseSupply ≠ 0 ∧
      toInner (looseSupply + 2) looseSupply = .error (excess (looseSupply + 2)) ∧
      ¬ ∀ amount, (∃ e, toInner amount looseSupply = .error e) ↔ looseSupply < amount := by
  have hne : looseSupply ≠ 0 := by decide +kernel
  obtain ⟨herror, hexact, -⟩ := toInner_error_iff hne
  refine ⟨hne, (herror _ _).2 ⟨?_, rfl⟩, fun hrefuses => absurd (hexact.1 hrefuses) ?_⟩
  · rw [slack_looseSupply]
    decide +kernel
  · decide +kernel

/-- One above that supply is not refused. -/
theorem exists_accepted_excess :
    ¬ ∀ supply amount : Word, supply ≠ 0 →
      ((∃ e, toInner amount supply = .error e) ↔ supply < amount) := by
  intro hclaim
  have hne : looseSupply ≠ 0 := by decide +kernel
  obtain ⟨e, he⟩ := (hclaim looseSupply (looseSupply + 1) hne).2 (by decide +kernel)
  have haccepted : toInner (looseSupply + 1) looseSupply = .ok Word.largest :=
    (toInner_eq_ok_iff (rate_eq hne)).2 (by decide +kernel)
  rw [haccepted] at he
  cases he

end Reflection

end SellProbe
