import SellProbe.Proofs.BigEndian

/-!
# Arithmetic of words

The operations on words against those on numbers: a checked one has no result just where the number
is no word, and a sum that saturates at every step is the exact sum, cut off once at the end.
-/

namespace SellProbe.Word

theorem toNat_largest : largest.toNat = 2 ^ 256 - 1 := BitVec.toNat_allOnes

theorem toNat_pos {w : Word} (h : w ≠ 0) : 0 < w.toNat :=
  Nat.pos_of_ne_zero fun hzero => h (BitVec.eq_of_toNat_eq hzero)

theorem exists_toNat_eq {n : Nat} (h : n < 2 ^ 256) : ∃ w : Word, w.toNat = n :=
  ⟨BitVec.ofNat 256 n, by rw [BitVec.toNat_ofNat, Nat.mod_eq_of_lt h]⟩

theorem ofNat?_eq_none_iff {n : Nat} : ofNat? n = none ↔ 2 ^ 256 ≤ n := by
  rw [ofNat?, toNat_largest, ite_eq_right_iff]
  simp only [reduceCtorEq, imp_false]
  omega

theorem mul?_eq_none_iff {a b : Word} : mul? a b = none ↔ 2 ^ 256 ≤ a.toNat * b.toNat :=
  ofNat?_eq_none_iff

theorem tenPow?_eq_some_iff {n : Nat} {w : Word} :
    tenPow? n = some w ↔ n ≤ 77 ∧ w.toNat = 10 ^ n := by
  unfold tenPow?
  by_cases hn : n ≤ 77
  · have hlt : 10 ^ n < 2 ^ 256 := by
      calc 10 ^ n ≤ 10 ^ 77 := Nat.pow_le_pow_right (by decide) hn
        _ < 2 ^ 256 := by decide
    have hvalue : (BitVec.ofNat 256 (10 ^ n)).toNat = 10 ^ n := by
      rw [BitVec.toNat_ofNat, Nat.mod_eq_of_lt hlt]
    rw [if_pos hn, Option.some.injEq]
    constructor
    · rintro rfl
      exact ⟨hn, hvalue⟩
    · rintro ⟨-, hw⟩
      exact BitVec.eq_of_toNat_eq (hvalue.trans hw.symm)
  · rw [if_neg hn]
    simp [hn]

theorem exists_tenPow? {n : Nat} (h : n ≤ 77) : ∃ w, tenPow? n = some w ∧ w.toNat = 10 ^ n :=
  ⟨_, if_pos h, (tenPow?_eq_some_iff.1 (if_pos h)).2⟩

/-! ## Sums that saturate -/

theorem toNat_ofNatClamped (n : Nat) : (ofNatClamped n).toNat = min n (2 ^ 256 - 1) := by
  unfold ofNatClamped
  cases h : ofNat? n with
  | some w =>
    have hw : w.toNat = n := ofNat?_eq_some_iff.1 h
    have hlt := w.isLt
    rw [Option.getD_some]
    omega
  | none =>
    have hle := ofNat?_eq_none_iff.1 h
    rw [Option.getD_none, toNat_largest]
    omega

theorem toNat_addClamped (a b : Word) :
    (addClamped a b).toNat = min (a.toNat + b.toNat) (2 ^ 256 - 1) :=
  toNat_ofNatClamped _

/-- What is cut off on the way is cut off at the end as well. -/
theorem toNat_foldl_addClamped (ws : List Word) (w : Word) :
    (ws.foldl addClamped w).toNat = min (w.toNat + (ws.map BitVec.toNat).sum) (2 ^ 256 - 1) := by
  induction ws generalizing w with
  | nil =>
    have hlt := w.isLt
    simp only [List.foldl_nil, List.map_nil, List.sum_nil]
    omega
  | cons v ws ih =>
    rw [List.foldl_cons, ih, toNat_addClamped, List.map_cons, List.sum_cons]
    omega

end SellProbe.Word
