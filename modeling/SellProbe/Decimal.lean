/-!
# Floats as decimals

The shortest decimal that reads back as a given binary64 value, and of several the nearest. The
reals that round to the value form an interval; for one digit after another the two neighbours of
the value with so many digits are tried, in exact arithmetic, until one lies in the interval.
-/

namespace SellProbe

/-- The digits of a positive number, and the power of ten that the first of them counts. -/
structure Decimal where
  digits : List Char
  magnitude : Int
deriving DecidableEq

/-- A positive binary64 value, and the ends of the interval of reals that round to it, all three in
units of `1 / 2 ^ halvings`. -/
structure Rounding where
  value : Nat
  low : Nat
  high : Nat
  halvings : Nat
  /-- Whether the ends round to the value too. -/
  closed : Bool

namespace Rounding

/-- The interval of a finite float that is not zero, its sign apart. The gap below a power of two is
half the gap above it. -/
def ofBits (bits : UInt64) : Rounding :=
  let e := ((bits >>> 52) &&& 0x7ff).toNat
  let f := (bits &&& 0xfffffffffffff).toNat
  let m := if e = 0 then f else 0x10000000000000 + f
  let e := if e = 0 then 1 else e
  let below := if f = 0 ∧ 1 < e then 1 else 2
  let scale := Nat.pow 2 (e - 1075)
  { value := 4 * m * scale, low := (4 * m - below) * scale, high := (4 * m + 2) * scale
    halvings := 2 + (1075 - e), closed := m % 2 = 0 }

/-- A number of units on a scale of whole numbers on which it can be compared with multiples of
`10 ^ exponent`. -/
def shift (units : Nat) (exponent : Int) : Nat := units * Nat.pow 10 (-exponent).toNat

/-- The distance between two multiples of a power of ten, on the scale of `shift`. -/
def gridUnit (r : Rounding) (exponent : Int) : Nat :=
  Nat.pow 2 r.halvings * Nat.pow 10 exponent.toNat

/-- Whether `n` times a power of ten lies in the interval. -/
def holds (r : Rounding) (exponent : Int) (n : Nat) : Bool :=
  let x := n * r.gridUnit exponent
  let low := shift r.low exponent
  let high := shift r.high exponent
  if r.closed then low ≤ x && x ≤ high else low < x && x < high

/-- The nearer of the two neighbours of the value on a grid that lie in the interval; of two equally
near ones the even one. -/
def nearest? (r : Rounding) (exponent : Int) : Option Nat :=
  let v := shift r.value exponent
  let unit := r.gridUnit exponent
  let below := v / unit
  let middle := (2 * below + 1) * unit
  let upper := middle < 2 * v || (middle = 2 * v && below % 2 = 1)
  match r.holds exponent below, r.holds exponent (below + 1) with
  | true, true => some (if upper then below + 1 else below)
  | true, false => some below
  | false, true => some (below + 1)
  | false, false => none

/-- The power of ten that the leading digit of the value counts. -/
def magnitude (r : Rounding) : Int :=
  let one := Nat.pow 2 r.halvings
  if one ≤ r.value then ((Nat.toDigits 10 (r.value / one)).length : Int) - 1
  else -((Nat.toDigits 10 ((one - 1) / r.value)).length : Int)

/-- A multiple of a power of ten, without zeros at its end. -/
def toDecimal (n : Nat) (exponent : Int) : Decimal :=
  let digits := Nat.toDigits 10 n
  { digits := (digits.reverse.dropWhile (· == '0')).reverse
    magnitude := exponent + digits.length - 1 }

/-- The shortest decimal in the interval, of up to 17 digits; else the value exactly. -/
def shortest (r : Rounding) : Decimal :=
  let found := (List.range 17).findSome? fun (n : Nat) =>
    let exponent := r.magnitude - n
    (r.nearest? exponent).map fun d => toDecimal d exponent
  found.getD (toDecimal (r.value * Nat.pow 5 r.halvings) (-r.halvings))

end Rounding

namespace Decimal

/-- Digits in their places, with at least one digit on each side of the point. -/
def positional (d : Decimal) : List Char :=
  if d.magnitude < 0 then
    '0' :: '.' :: List.replicate (d.magnitude.natAbs - 1) '0' ++ d.digits
  else
    let whole := d.magnitude.toNat + 1
    let rest := d.digits.drop whole
    d.digits.take whole ++ List.replicate (whole - d.digits.length) '0' ++ '.'
      :: (if rest.isEmpty then ['0'] else rest)

def scientific (d : Decimal) : List Char :=
  let rest := d.digits.drop 1
  d.digits.take 1 ++ (if rest.isEmpty then [] else '.' :: rest)
    ++ ['e', if d.magnitude < 0 then '-' else '+'] ++ Nat.toDigits 10 d.magnitude.natAbs

/-- The text of a positive number: in places from `10 ^ -5` to below `10 ^ 16`. -/
def text (d : Decimal) : List Char :=
  if -5 ≤ d.magnitude ∧ d.magnitude ≤ 15 then d.positional else d.scientific

def textOf (f : Float) : String :=
  let sign := if f.toBits >>> 63 = 1 then ['-'] else []
  let digits := if f == 0 then ['0', '.', '0'] else (Rounding.ofBits f.toBits).shortest.text
  String.ofList (sign ++ digits)

end Decimal

end SellProbe
