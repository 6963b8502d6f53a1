import SellProbe.Word

/-!
# Amounts

A token amount is a whole number of smallest units. Here it becomes a float, or exact decimal text.
The float operations are done in a fixed order, since each of them rounds.
-/

namespace SellProbe

/-- `a ^ n * r`, by squaring from the lowest bit of `n` up. -/
def squarePow (a : Float) (n : Nat) (r : Float) : Float :=
  let r := if n % 2 = 1 then r * a else r
  if h : n / 2 = 0 then r else squarePow (a * a) (n / 2) r
termination_by n
decreasing_by omega

/-- `a ^ n`; for a negative exponent the reciprocal of the positive power. -/
def floatPow (a : Float) (n : Int) : Float :=
  if n < 0 then 1 / squarePow a n.natAbs 1 else squarePow a n.natAbs 1

/-- A power of ten. The exponent is a 32-bit number, so from `2 ^ 31` on it counts as negative. -/
def tenPower (n : Nat) : Float := floatPow 10 (Int.bmod n 0x100000000)

/-- The float nearest to the sum of the four 64-bit parts, added from the lowest part up. -/
def Word.toFloat (w : Word) : Float :=
  (List.range 4).foldl
    (fun acc i =>
      acc + (UInt64.ofBitVec (w.extractLsb' (64 * i) 64)).toFloat * floatPow 2 (64 * i : Nat)) 0

/-- Rounds to a number of decimal places; a half goes away from zero. -/
def roundTo (v : Float) (places : Nat) : Float :=
  let factor := tenPower places
  (v * factor).round / factor

/-- An amount in whole tokens of `decimals` places, rounded to `places` places. -/
def unitsOf (amount : Word) (decimals places : Nat) : Float :=
  roundTo (amount.toFloat / tenPower decimals) places

/-- The digits of a fraction behind zeros up to `width`, without zeros at the end. -/
def fractionDigits (width n : Nat) : List Char :=
  let ds := Nat.toDigits 10 n
  ((List.replicate (width - ds.length) '0' ++ ds).reverse.dropWhile (· == '0')).reverse

/-- An amount in whole tokens, exactly. There is none when `10 ^ decimals` is no word. -/
def amountText? (amount : Word) (decimals : Nat) : Option String :=
  if decimals = 0 then some amount.toDecimal
  else (Word.tenPow? decimals).map fun unit =>
    let whole := Nat.toDigits 10 (amount.toNat / unit.toNat)
    let fraction := fractionDigits decimals (amount.toNat % unit.toNat)
    String.ofList (if fraction.isEmpty then whole else whole ++ '.' :: fraction)

end SellProbe
