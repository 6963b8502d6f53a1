import Mathlib.Data.List.DropRight
import Mathlib.Data.Rat.Cast.CharZero
import Mathlib.Tactic.FieldSimp
import SellProbe.Amount
import SellProbe.Proofs.Reparsing
import SellProbe.Proofs.WordArithmetic

/-!
# Amounts as decimal text

The remainder behind the point is filled up with zeros to as many digits as the token has places,
and then loses its zeros at the end. Zeros in front leave the number as it is, and a zero dropped at
the end is one place less, so the text denotes the amount over the power of ten, without a
superfluous digit (`amountText_canonical`).
-/

namespace SellProbe

/-! ## Decimals -/

/-- The number that a decimal denotes: the digits up to the point, and those behind it over a power
of ten. -/
def decimalValue (text : String) : ℚ :=
  let whole := text.toList.takeWhile (· ≠ '.')
  let fraction := (text.toList.dropWhile (· ≠ '.')).tail
  Nat.ofDigitChars 10 whole 0 + Nat.ofDigitChars 10 fraction 0 / 10 ^ fraction.length

def decimalText (whole fraction : List Char) : String :=
  String.ofList (if fraction.isEmpty then whole else whole ++ '.' :: fraction)

/-- A decimal of at most `places` places without superfluous zeros, at the front or at the end. -/
structure IsCanonicalDecimal (places : Nat) (whole fraction : List Char) : Prop where
  isDigits_whole : Json.IsDigits whole
  whole_of_zero : whole.head? = some '0' → whole = ['0']
  isDigit_fraction : ∀ c ∈ fraction, c.isDigit = true
  length_fraction_le : fraction.length ≤ places
  getLast?_fraction : fraction.getLast? ≠ some '0'

theorem decimalValue_decimalText {whole fraction : List Char} (hwhole : Json.IsDigits whole) :
    decimalValue (decimalText whole fraction) =
      Nat.ofDigitChars 10 whole 0 + Nat.ofDigitChars 10 fraction 0 / 10 ^ fraction.length := by
  have hpoint : ∀ c ∈ whole, decide (c ≠ '.') = true := by
    intro c hc
    apply decide_eq_true
    rintro rfl
    exact absurd (hwhole.isDigit _ hc) (by decide)
  unfold decimalValue decimalText
  rw [String.toList_ofList]
  cases fraction with
  | nil =>
    have htake : whole.takeWhile (· ≠ '.') = whole := List.takeWhile_eq_self_iff.2 hpoint
    have hdrop : whole.dropWhile (· ≠ '.') = [] := List.dropWhile_eq_nil_iff.2 hpoint
    simp only [List.isEmpty_nil, if_true, htake, hdrop, List.tail_nil]
  | cons c cs =>
    have htake : ('.' :: c :: cs).takeWhile (· ≠ '.') = [] := rfl
    have hdrop : ('.' :: c :: cs).dropWhile (· ≠ '.') = '.' :: c :: cs := rfl
    simp only [List.isEmpty_cons, Bool.false_eq_true, if_false, htake, hdrop, List.tail_cons,
      List.takeWhile_append_of_pos hpoint, List.dropWhile_append_of_pos hpoint, List.append_nil]

/-! ## The digits behind the point -/

section Fraction

variable {width n : Nat}

theorem isDigit_of_mem_fractionDigits {c : Char} (hc : c ∈ fractionDigits width n) :
    c.isDigit = true := by
  have hmem := (List.rdropWhile_prefix _ _).subset hc
  rw [List.mem_append] at hmem
  cases hmem with
  | inl hzero => rw [List.eq_of_mem_replicate hzero]; rfl
  | inr hdigit => exact Nat.isDigit_of_mem_toDigits (by decide) (by decide) hdigit

theorem getLast?_fractionDigits_ne : (fractionDigits width n).getLast? ≠ some '0' := by
  intro h
  obtain ⟨hne, hlast⟩ := List.mem_getLast?_eq_getLast h
  exact List.rdropWhile_last_not _ _ hne (by rw [beq_iff_eq]; exact hlast.symm)

/-- With the dropped zeros the digits are those of the number, filled up in front. -/
theorem exists_fractionDigits_append (width n : Nat) :
    ∃ k, fractionDigits width n ++ List.replicate k '0' =
      List.replicate (width - (Nat.toDigits 10 n).length) '0' ++ Nat.toDigits 10 n := by
  generalize hpadded : List.replicate (width - (Nat.toDigits 10 n).length) '0' ++ Nat.toDigits 10 n
    = padded
  have hkept : fractionDigits width n = padded.rdropWhile (· == '0') := by rw [← hpadded]; rfl
  obtain ⟨dropped, hdropped⟩ : ∃ dropped, dropped = padded.rtakeWhile (· == '0') := ⟨_, rfl⟩
  have hzeros : dropped = List.replicate dropped.length '0' := by
    apply List.eq_replicate_of_mem
    intro c hc
    rw [hdropped] at hc
    exact beq_iff_eq.1 (List.mem_rtakeWhile_imp (p := (· == '0')) hc)
  exact ⟨dropped.length, by rw [hkept, ← hzeros, hdropped, List.rdropWhile_append_rtakeWhile]⟩

/-- A digit less than there are places is a zero dropped at the end, so a factor of ten. -/
theorem exists_fractionDigits_mul (hn : n < 10 ^ width) :
    ∃ k, (fractionDigits width n).length + k = width ∧
      Nat.ofDigitChars 10 (fractionDigits width n) 0 * 10 ^ k = n := by
  by_cases hwidth : width = 0
  · subst hwidth
    obtain rfl : n = 0 := Nat.lt_one_iff.1 hn
    exact ⟨0, rfl, rfl⟩
  obtain ⟨k, hk⟩ := exists_fractionDigits_append width n
  refine ⟨k, ?_, ?_⟩
  · have hlength := congrArg List.length hk
    have hle := (Nat.length_toDigits_le_iff (by decide) (Nat.pos_of_ne_zero hwidth)).2 hn
    simp only [List.length_append, List.length_replicate] at hlength
    omega
  · have hvalue := congrArg (Nat.ofDigitChars 10 · 0) hk
    simp only [Nat.ofDigitChars_append, Nat.ofDigitChars_replicate_zero, Nat.mul_zero,
      Nat.ofDigitChars_toDigits (by decide : 1 < 10) (Nat.le_refl 10)] at hvalue
    rw [Nat.mul_comm, hvalue]

theorem ofDigitChars_fractionDigits (hn : n < 10 ^ width) :
    (Nat.ofDigitChars 10 (fractionDigits width n) 0 / 10 ^ (fractionDigits width n).length : ℚ) =
      n / 10 ^ width := by
  obtain ⟨k, hlength, hvalue⟩ := exists_fractionDigits_mul hn
  generalize fractionDigits width n = ds at hlength hvalue ⊢
  rw [← hlength, ← hvalue, pow_add]
  push_cast
  field_simp

end Fraction

/-! ## Amounts -/

section Amounts

variable {amount : Word} {decimals : Nat}

theorem amountText?_of_le (h : decimals ≤ 77) :
    amountText? amount decimals = some (decimalText (Nat.toDigits 10 (amount.toNat / 10 ^ decimals))
      (fractionDigits decimals (amount.toNat % 10 ^ decimals))) := by
  by_cases hzero : decimals = 0
  · subst hzero
    have hwhole : amount.toNat / 10 ^ 0 = amount.toNat := Nat.div_one _
    have hfraction : amount.toNat % 10 ^ 0 = 0 := Nat.mod_one _
    rw [hwhole, hfraction]
    rfl
  · obtain ⟨unit, hunit, hvalue⟩ := Word.exists_tenPow? h
    rw [amountText?, if_neg hzero, hunit, ← hvalue]
    rfl

theorem amountText?_eq_none (h : 78 ≤ decimals) : amountText? amount decimals = none := by
  have hunit : Word.tenPow? decimals = none := if_neg (by omega)
  rw [amountText?, if_neg (by omega), hunit, Option.map_none]

/-- Every amount has a text up to 77 places, which is canonical and denotes it. -/
theorem exists_amountText? (amount : Word) (h : decimals ≤ 77) :
    ∃ whole fraction, amountText? amount decimals = some (decimalText whole fraction) ∧
      IsCanonicalDecimal decimals whole fraction ∧
      decimalValue (decimalText whole fraction) = amount.toNat / 10 ^ decimals := by
  have hproper := Json.isProper_ofNat (amount.toNat / 10 ^ decimals)
  have hwhole : Json.IsDigits (Nat.toDigits 10 (amount.toNat / 10 ^ decimals)) := hproper.whole
  have hn : amount.toNat % 10 ^ decimals < 10 ^ decimals := Nat.mod_lt _ (by positivity)
  refine ⟨_, _, amountText?_of_le h, ?_, ?_⟩
  · obtain ⟨k, hlength, -⟩ := exists_fractionDigits_mul hn
    exact {
      isDigits_whole := hwhole
      whole_of_zero := hproper.whole_of_zero
      isDigit_fraction := fun _ => isDigit_of_mem_fractionDigits
      length_fraction_le := by omega
      getLast?_fraction := getLast?_fractionDigits_ne }
  · have hsplit : (amount.toNat : ℚ) = 10 ^ decimals * (amount.toNat / 10 ^ decimals : Nat) +
        (amount.toNat % 10 ^ decimals : Nat) := by
      exact_mod_cast (Nat.div_add_mod amount.toNat (10 ^ decimals)).symm
    rw [decimalValue_decimalText hwhole, ofDigitChars_fractionDigits hn,
      Nat.ofDigitChars_toDigits (by decide) (Nat.le_refl 10), hsplit]
    field_simp

end Amounts

/-- **Amounts print as canonical exact decimals.** Up to 77 places every amount has a text: a whole
part without superfluous zeros, and behind a point, if any, at most as many digits as there are
places, the last of them no zero. It denotes the amount over the power of ten, and so no two amounts
of as many places have one text. From 78 places on no amount has a text. -/
theorem amountText_canonical :
    (∀ (amount : Word) (decimals : Nat), decimals ≤ 77 →
      ∃ whole fraction, amountText? amount decimals = some (decimalText whole fraction) ∧
        IsCanonicalDecimal decimals whole fraction ∧
        decimalValue (decimalText whole fraction) = amount.toNat / 10 ^ decimals) ∧
    (∀ (amount amount' : Word) (decimals : Nat) (text : String),
      amountText? amount decimals = some text → amountText? amount' decimals = some text →
      amount = amount') ∧
    ∀ (amount : Word) (decimals : Nat), 78 ≤ decimals → amountText? amount decimals = none := by
  refine ⟨fun amount decimals => exists_amountText? amount, ?_,
    fun amount decimals => amountText?_eq_none⟩
  intro amount amount' decimals text htext htext'
  have hle : decimals ≤ 77 := by
    by_contra hlarge
    rw [amountText?_eq_none (by omega)] at htext
    cases htext
  obtain ⟨_, _, h, -, hvalue⟩ := exists_amountText? amount hle
  obtain ⟨_, _, h', -, hvalue'⟩ := exists_amountText? amount' hle
  rw [← Option.some.inj (htext.symm.trans h)] at hvalue
  rw [← Option.some.inj (htext'.symm.trans h'), hvalue] at hvalue'
  have hunit : (10 : ℚ) ^ decimals ≠ 0 := by positivity
  apply BitVec.eq_of_toNat_eq
  exact Nat.cast_injective ((div_left_inj' hunit).1 hvalue')

/-- Fifteen hundred units of a token of three places print as one and a half, ten more do not. -/
theorem amountText_canonical_sample :
    3 ≤ 77 ∧ amountText? 1500 3 = some "1.5" ∧
      decimalValue "1.5" = (1500 : Word).toNat / 10 ^ 3 ∧ amountText? 1510 3 ≠ some "1.5" ∧
      78 ≤ 78 ∧ amountText? 1500 78 = none := by
  have htext : amountText? 1500 3 = some "1.5" := by decide
  obtain ⟨hexact, hinj, hnone⟩ := amountText_canonical
  obtain ⟨whole, fraction, h, -, hvalue⟩ := hexact 1500 3 (by decide)
  rw [← Option.some.inj (htext.symm.trans h)] at hvalue
  refine ⟨by decide, htext, hvalue, ?_, Nat.le_refl _, hnone 1500 78 (Nat.le_refl _)⟩
  intro hmore
  exact absurd (hinj 1500 1510 3 "1.5" htext hmore) (by decide)

example : amountText? 1000000000000000042 18 = some "1.000000000000000042" := by decide +kernel

end SellProbe
