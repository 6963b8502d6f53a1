import SellProbe.Proofs.WordArithmetic
import SellProbe.Swap.Cost

/-!
# Percentages are rounded half up

Adding half of the whole, rounded down, before dividing by the whole gives the nearest whole number,
whether the whole is even or odd: if it is odd there are no ties, and the half unit that is missing
makes no difference. So as long as all that is reckoned with are words, a percentage is that number
over a power of ten, and a tax is the percentage of a gap, which shrinks as the output grows
(`percentage_half_up`). Only the last division is one of floats.
-/

namespace SellProbe

/-! ## Nearest whole numbers -/

/-- The whole number nearest to `n / w`, the upper one of two that are equally near: `n / w` is at
least `q - 1 / 2` and below `q + 1 / 2`. -/
def IsNearest (q : Int) (n w : Nat) : Prop := (2 * q - 1) * w ≤ 2 * n ∧ 2 * n < (2 * q + 1) * w

/-- The whole number nearest to `n / w` is `q`, and no other. -/
def RoundsTo (n w q : Nat) : Prop := ∀ z : Int, IsNearest z n w ↔ z = q

variable {q q' : Int} {n n' w : Nat}

instance : Decidable (IsNearest q n w) :=
  inferInstanceAs (Decidable ((2 * q - 1) * w ≤ 2 * n ∧ 2 * n < (2 * q + 1) * w))

theorem isNearest_iff (hw : 0 < w) : IsNearest q n w ↔ q = ((n + w / 2) / w : Nat) := by
  have hpos : (0 : Int) < w := Int.natCast_pos.2 hw
  have hlow : (2 * q - 1) * w = 2 * (q * w) - w := by ring
  have hhigh : (2 * q + 1) * w = 2 * (q * w) + w := by ring
  rw [IsNearest, hlow, hhigh, eq_comm, Int.natCast_ediv, Int.ediv_eq_iff_of_pos hpos]
  generalize q * w = p
  omega

theorem roundsTo_half_up (hw : 0 < w) : RoundsTo n w ((n + w / 2) / w) := fun _ => isNearest_iff hw

theorem IsNearest.le (hw : 0 < w) (h : IsNearest q n w) (h' : IsNearest q' n' w) (hn : n ≤ n') :
    q ≤ q' := by
  rw [isNearest_iff hw] at h h'
  rw [h, h', Int.ofNat_le]
  exact Nat.div_le_div_right (Nat.add_le_add_right hn _)

/-- A part of the whole is at most the scale. -/
theorem IsNearest.le_of_le_mul {s : Nat} (hw : 0 < w) (h : IsNearest q n w) (hn : n ≤ s * w) :
    q ≤ s := by
  have hpos : (0 : Int) < w := Int.natCast_pos.2 hw
  have hwhole : IsNearest s (s * w) w := by
    constructor <;> push_cast <;> linarith
  exact h.le hw hwhole hn

/-! ## Percentages -/

theorem percentScale?_eq_some_iff {decimals : Nat} {scale : Word} :
    percentScale? decimals = some scale ↔ decimals ≤ 75 ∧ scale.toNat = 100 * 10 ^ decimals := by
  have hhundred : (100 : Word).toNat = 100 := rfl
  rw [percentScale?, Option.bind_eq_bind, Option.bind_eq_some_iff]
  simp only [Word.mul?, Word.ofNat?_eq_some_iff, hhundred]
  constructor
  · rintro ⟨unit, hunit, hscale⟩
    obtain ⟨-, hvalue⟩ := Word.tenPow?_eq_some_iff.1 hunit
    rw [hvalue] at hscale
    refine ⟨?_, by rw [hscale, Nat.mul_comm]⟩
    by_contra hlarge
    have hle : 10 ^ 76 ≤ 10 ^ decimals := Nat.pow_le_pow_right (by decide) (by omega)
    have hlt := scale.isLt
    omega
  · rintro ⟨hdecimals, hscale⟩
    obtain ⟨unit, hunit, hvalue⟩ := Word.exists_tenPow? (n := decimals) (by omega)
    exact ⟨unit, hunit, by rw [hscale, hvalue, Nat.mul_comm]⟩

theorem exists_percentScale? {decimals : Nat} (h : decimals ≤ 75) :
    ∃ scale, percentScale? decimals = some scale := by
  have hlt : 100 * 10 ^ decimals < 2 ^ 256 := by
    calc 100 * 10 ^ decimals ≤ 100 * 10 ^ 75 :=
          Nat.mul_le_mul_left _ (Nat.pow_le_pow_right (by decide) h)
      _ < 2 ^ 256 := by decide
  obtain ⟨scale, hvalue⟩ := Word.exists_toNat_eq hlt
  exact ⟨scale, percentScale?_eq_some_iff.2 ⟨h, hvalue⟩⟩

section Rounding

variable {part whole scale share : Word}

theorem roundedShare?_eq_some_iff :
    roundedShare? part whole scale = some share ↔
      part.toNat * scale.toNat + whole.toNat / 2 < 2 ^ 256 ∧
        share.toNat = (part.toNat * scale.toNat + whole.toNat / 2) / whole.toNat := by
  have hhalf : (whole / 2).toNat = whole.toNat / 2 := BitVec.toNat_udiv
  simp only [roundedShare?, Option.bind_eq_bind, Option.bind_eq_some_iff, Word.mul?, Word.add?,
    Word.ofNat?_eq_some_iff, hhalf]
  constructor
  · rintro ⟨scaled, hscaled, shifted, hshifted, hshare⟩
    have hlt := shifted.isLt
    rw [← Option.some.inj hshare, BitVec.toNat_udiv, ← hscaled, ← hshifted]
    exact ⟨hlt, rfl⟩
  · rintro ⟨hlt, hshare⟩
    obtain ⟨scaled, hscaled⟩ := Word.exists_toNat_eq (Nat.lt_of_le_of_lt (Nat.le_add_right _ _) hlt)
    obtain ⟨shifted, hshifted⟩ := Word.exists_toNat_eq hlt
    refine ⟨scaled, hscaled, shifted, by rw [hshifted, hscaled], congrArg some ?_⟩
    apply BitVec.eq_of_toNat_eq
    rw [BitVec.toNat_udiv, hshifted, hshare]

theorem roundedShare?_eq_none_iff :
    roundedShare? part whole scale = none ↔
      2 ^ 256 ≤ part.toNat * scale.toNat + whole.toNat / 2 := by
  rw [Option.eq_none_iff_forall_ne_some]
  constructor
  · intro hnone
    by_contra hlt
    obtain ⟨share, hshare⟩ := Word.exists_toNat_eq
      (Nat.lt_of_le_of_lt (Nat.div_le_self _ whole.toNat) (Nat.lt_of_not_le hlt))
    exact hnone share (roundedShare?_eq_some_iff.2 ⟨Nat.lt_of_not_le hlt, hshare⟩)
  · intro hle share hshare
    exact Nat.not_lt.2 hle (roundedShare?_eq_some_iff.1 hshare).1

variable {decimals : Nat}

/-- A percentage is the rounded share over a power of ten, or else a quotient of floats. -/
theorem percentage?_eq (hwhole : whole ≠ 0) (hscale : percentScale? decimals = some scale) :
    percentage? part whole decimals = some (some ((roundedShare? part whole scale).elim
      (roundTo (part.toFloat / whole.toFloat * 100) decimals)
      fun share => share.toFloat / tenPower decimals)) := by
  rw [percentage?, if_neg hwhole, hscale, Option.map_some, percentageAt]
  cases roundedShare? part whole scale <;> rfl

theorem percentage_fallback_iff (hscale : percentScale? decimals = some scale) :
    roundedShare? part whole scale = none ↔
      2 ^ 256 ≤ part.toNat * 100 * 10 ^ decimals + whole.toNat / 2 := by
  rw [roundedShare?_eq_none_iff, (percentScale?_eq_some_iff.1 hscale).2, Nat.mul_assoc]

theorem exists_roundedShare? (hscale : percentScale? decimals = some scale)
    (hfits : part.toNat * 100 * 10 ^ decimals + whole.toNat / 2 < 2 ^ 256) :
    ∃ share, roundedShare? part whole scale = some share :=
  Option.ne_none_iff_exists'.1 (mt (percentage_fallback_iff hscale).1 (Nat.not_le.2 hfits))

theorem roundsTo_share (hwhole : whole ≠ 0) (hscale : percentScale? decimals = some scale)
    (hshare : roundedShare? part whole scale = some share) :
    RoundsTo (part.toNat * 100 * 10 ^ decimals) whole.toNat share.toNat := by
  rw [(roundedShare?_eq_some_iff.1 hshare).2, (percentScale?_eq_some_iff.1 hscale).2,
    ← Nat.mul_assoc]
  exact roundsTo_half_up (Word.toNat_pos hwhole)

end Rounding

/-- Up to 22 places the power of ten is exact as a float. -/
theorem tenPower_eq : ∀ decimals ≤ 22, tenPower decimals = Float.ofNat (10 ^ decimals) := by
  decide +kernel

namespace Swap

variable {calculated output : Word}

/-- The percentage that a gap is of what was promised, in thousandths. -/
theorem exists_shareOf_gap {gap : Word} (hcalculated : calculated ≠ 0)
    (hfits : gap.toNat * 100000 + calculated.toNat / 2 < 2 ^ 256) :
    ∃ q : Word, RoundsTo (gap.toNat * 100000) calculated.toNat q.toNat ∧
      shareOf gap calculated 100000 3 = some (q.toFloat / 1000) := by
  have hscale : percentScale? 3 = some 100000 := by decide
  have hthousand : tenPower 3 = 1000 := tenPower_eq 3 (by decide)
  have hunits : gap.toNat * 100 * 10 ^ 3 = gap.toNat * 100000 := Nat.mul_assoc _ _ _
  obtain ⟨q, hq⟩ := exists_roundedShare? hscale (by rw [hunits]; exact hfits)
  have hround := roundsTo_share hcalculated hscale hq
  rw [hunits] at hround
  refine ⟨q, hround, ?_⟩
  rw [← Option.some_inj, ← percentage?_of_scale hscale, percentage?_eq hcalculated hscale, hq,
    Option.elim_some, hthousand]

theorem exists_tax_of_le (hcalculated : calculated ≠ 0) (hle : output ≤ calculated)
    (hfits : (calculated.toNat - output.toNat) * 100000 + calculated.toNat / 2 < 2 ^ 256) :
    ∃ q : Word, RoundsTo ((calculated.toNat - output.toNat) * 100000) calculated.toNat q.toNat ∧
      q.toNat ≤ 100000 ∧ tax calculated output = some (q.toFloat / 1000) := by
  have hpart : (calculated.toNat - output.toNat) * 100000 ≤ 100000 * calculated.toNat := by omega
  rw [← BitVec.toNat_sub_of_le hle] at hfits hpart ⊢
  obtain ⟨q, hround, hq⟩ := exists_shareOf_gap hcalculated hfits
  have hbound := ((hround q.toNat).2 rfl).le_of_le_mul (Word.toNat_pos hcalculated) hpart
  exact ⟨q, hround, Int.ofNat_le.1 hbound, by rw [tax, if_pos hle, hq]⟩

theorem exists_tax_of_lt (hcalculated : calculated ≠ 0) (hlt : calculated < output)
    (hfits : (output.toNat - calculated.toNat) * 100000 + calculated.toNat / 2 < 2 ^ 256) :
    ∃ q : Word, RoundsTo ((output.toNat - calculated.toNat) * 100000) calculated.toNat q.toNat ∧
      tax calculated output = some (-(q.toFloat / 1000)) := by
  rw [← BitVec.toNat_sub_of_le (BitVec.le_of_lt hlt)] at hfits ⊢
  obtain ⟨q, hround, hq⟩ := exists_shareOf_gap hcalculated hfits
  exact ⟨q, hround, by rw [tax, if_neg (BitVec.not_le.2 hlt), hq, Option.map_some]⟩

end Swap

/-- **Percentages are rounded half up as long as they fit.** The whole is not zero, and there are at
most 75 places. As long as the scaled part and half of the whole add up to a word, nothing overflows
on the way, and the percentage is the nearest whole number over a power of ten; beyond that, and
only there, it is reckoned in floats. The power of ten is exact up to 22 places.

A tax is such a percentage, of the gap between promise and output, negative for an output above the
promise. Up to the promise it is at most a hundred, and it does not rise when more comes out. -/
theorem percentage_half_up :
    (∀ (part whole : Word) (decimals : Nat), whole ≠ 0 → decimals ≤ 75 →
      ∃ scale : Word, percentScale? decimals = some scale ∧
        if part.toNat * 100 * 10 ^ decimals + whole.toNat / 2 < 2 ^ 256 then
          ∃ q : Word, RoundsTo (part.toNat * 100 * 10 ^ decimals) whole.toNat q.toNat ∧
            roundedShare? part whole scale = some q ∧
            percentage? part whole decimals = some (some (q.toFloat / tenPower decimals))
        else
          roundedShare? part whole scale = none ∧
          percentage? part whole decimals =
            some (some (roundTo (part.toFloat / whole.toFloat * 100) decimals))) ∧
    (∀ decimals ≤ 22, tenPower decimals = Float.ofNat (10 ^ decimals)) ∧
    ∀ calculated : Word, calculated ≠ 0 →
      (∀ output ≤ calculated,
        (calculated.toNat - output.toNat) * 100000 + calculated.toNat / 2 < 2 ^ 256 →
        ∃ q : Word,
          RoundsTo ((calculated.toNat - output.toNat) * 100000) calculated.toNat q.toNat ∧
          q.toNat ≤ 100000 ∧ Swap.tax calculated output = some (q.toFloat / 1000)) ∧
      (∀ output, calculated < output →
        (output.toNat - calculated.toNat) * 100000 + calculated.toNat / 2 < 2 ^ 256 →
        ∃ q : Word,
          RoundsTo ((output.toNat - calculated.toNat) * 100000) calculated.toNat q.toNat ∧
          Swap.tax calculated output = some (-(q.toFloat / 1000))) ∧
      ∀ (output more : Word) (q q' : Nat), output ≤ more →
        RoundsTo ((calculated.toNat - output.toNat) * 100000) calculated.toNat q →
        RoundsTo ((calculated.toNat - more.toNat) * 100000) calculated.toNat q' → q' ≤ q := by
  refine ⟨fun part whole decimals hwhole hdecimals => ?_, tenPower_eq,
    fun calculated hcalculated => ⟨fun output => Swap.exists_tax_of_le hcalculated,
      fun output => Swap.exists_tax_of_lt hcalculated, fun output more q q' hle hq hq' => ?_⟩⟩
  · obtain ⟨scale, hscale⟩ := exists_percentScale? hdecimals
    have hpercentage : percentage? part whole decimals = _ := percentage?_eq hwhole hscale
    refine ⟨scale, hscale, ?_⟩
    split
    next hfits =>
      obtain ⟨q, hq⟩ := exists_roundedShare? hscale hfits
      rw [hq] at hpercentage
      exact ⟨q, roundsTo_share hwhole hscale hq, hq, hpercentage⟩
    next hfits =>
      have hnone : roundedShare? part whole scale = none :=
        (percentage_fallback_iff hscale).2 (Nat.not_lt.1 hfits)
      rw [hnone] at hpercentage
      exact ⟨hnone, hpercentage⟩
  · have hgap := BitVec.le_def.1 hle
    have hle' := ((hq' q').2 rfl).le (Word.toNat_pos hcalculated) ((hq q).2 rfl) (by omega)
    exact Int.ofNat_le.1 hle'

/-- A tie goes up, and a loss of a twentieth is five percent. -/
theorem percentage_half_up_sample :
    (2000 : Word) ≠ 0 ∧ 1 ≤ 75 ∧ percentage? 1 2000 1 = some (some (Word.toFloat 1 / tenPower 1)) ∧
      (1000 : Word) ≠ 0 ∧ (950 : Word) ≤ 1000 ∧ (50 : Nat) * 100000 + 1000 / 2 < 2 ^ 256 ∧
      Swap.tax 1000 950 = some (Word.toFloat 5000 / 1000) := by
  have hwhole : (2000 : Word) ≠ 0 := by decide
  have hcalculated : (1000 : Word) ≠ 0 := by decide
  have hfits : (50 : Nat) * 100000 + 1000 / 2 < 2 ^ 256 := by decide
  obtain ⟨hshares, -, htaxes⟩ := percentage_half_up
  obtain ⟨scale, -, hshare⟩ := hshares 1 2000 1 hwhole (by decide)
  rw [if_pos (by decide)] at hshare
  obtain ⟨q, hround, -, hpercentage⟩ := hshare
  have hq : q = 1 := BitVec.eq_of_toNat_eq (Int.ofNat_inj.1 ((hround 1).1 (by decide)).symm)
  obtain ⟨q', hround', -, htax⟩ := (htaxes 1000 hcalculated).1 950 (by decide) hfits
  have hq' : q' = 5000 :=
    BitVec.eq_of_toNat_eq (Int.ofNat_inj.1 ((hround' 5000).1 (by decide)).symm)
  rw [hq] at hpercentage
  rw [hq'] at htax
  exact ⟨hwhole, by decide, hpercentage, hcalculated, by decide, hfits, htax⟩

example : Swap.tax 1000 950 = some 5 := by decide +kernel

end SellProbe
