import SellProbe.Json.Record

/-!
# Floats in JSON

Reading a number as a binary64 value, and the text form in which a float is written: its bits, so
that a reader gets the very value that was computed.

Reading takes as many leading digits as 64 bits hold, drops the others, and makes one multiplication
or division by a power of ten. It is exact for up to 15 digits and powers up to 22, and beyond that
close; a value that is too large is refused and one that is too small is zero.
-/

namespace SellProbe.Json

namespace Number

structure Significand where
  value : Nat
  /-- How many of the digits were taken. -/
  taken : Nat

/-- Takes digits into a significand up to the first that does not fit. -/
def takeDigits (value : Nat) : List Char → Significand
  | [] => ⟨value, 0⟩
  | c :: cs =>
    let next := value * 10 + (c.toNat - 48)
    if next < 0x10000000000000000 then
      let s := takeDigits next cs
      ⟨s.value, s.taken + 1⟩
    else ⟨value, 0⟩

def tenPow (n : Nat) : Float := Float.ofScientific 1 false n

def scale? (f : Float) (e : Int) : Option Float :=
  if e.natAbs ≤ 308 then
    if e < 0 then some (f / tenPow e.natAbs)
    else
      let g := f * tenPow e.natAbs
      if g.isInf then none else some g
  else if f == 0 then some f
  else if 0 ≤ e then none
  else scale? (f / tenPow 308) (e + 308)
termination_by e.natAbs

def toFloat? (n : Number) : Option Float :=
  let whole := takeDigits 0 n.whole
  let all := takeDigits whole.value n.fraction
  let dropped : Int := (n.whole.length : Int) - whole.taken
  let written : Int := match n.exponent with
    | none => 0
    | some e =>
      let v : Int := Nat.ofDigitChars 10 e.digits 0
      if e.negative then -v else v
  (scale? all.value.toUInt64.toFloat (dropped - all.taken + written)).map fun f =>
    if n.negative then -f else f

end Number

def float? : Json → Option Float
  | .number n => n.toFloat?
  | _ => none

/-- The bits of a float behind `f64:`, most significant first; every NaN has the same text. -/
def floatText (f : Float) : String :=
  if f.isNaN then "f64:nan"
  else "f64:" ++ String.ofList (Hex.digits (Bytes.bigEndian 8 f.toBits.toNat))

def ofFloatText? (s : String) : Option Float :=
  match s.toList with
  | 'f' :: '6' :: '4' :: ':' :: cs =>
    if cs = ['n', 'a', 'n'] then some (0 / 0)
    else (FixedBytes.ofHex? 8 cs).map fun b => Float.ofBits b.toNat.toUInt64
  | _ => none

def float (f : Float) : Json := .text (floatText f)

end SellProbe.Json
