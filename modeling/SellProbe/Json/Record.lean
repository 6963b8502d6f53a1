import SellProbe.Json.Basic
import SellProbe.Hex
import SellProbe.Text.Utf8

/-!
# Records in JSON

A record is an object with known keys, or an array with the fields in their order. A known key may
stand once only, other keys are skipped, and an array may stop early but holds no more than the
fields. A field that is left out takes its default, if it has one.
-/

namespace SellProbe.Json

/-- The value of a key that may stand once: `none` if it is repeated. -/
def once? (members : List (Text × Json)) (key : String) : Option (Option Json) :=
  match members.filter fun m => m.1 == some key with
  | [] => some none
  | [m] => some (some m.2)
  | _ => none

/-- The fields of a record by name, each present or not. Fails if the value is no such record. -/
def fields? (names : List String) : Json → Option (List (Option Json))
  | .object members =>
    if members.all fun m => m.1.isSome then names.mapM (once? members) else none
  | .array xs =>
    if xs.length ≤ names.length then
      some (xs.map some ++ List.replicate (names.length - xs.length) none)
    else none
  | _ => none

def required? {α : Type} (read : Json → Option α) (field : Option Json) : Option α :=
  field.bind read

def withDefault? {α : Type} (standard : α) (read : Json → Option α) : Option Json → Option α
  | none => some standard
  | some j => read j

/-- A field whose absence and whose `null` both mean that there is no value. -/
def nullable? {α : Type} (read : Json → Option α) : Option Json → Option (Option α)
  | none | some .null => some none
  | some j => (read j).map some

def text? : Json → Option String
  | .string s => s
  | _ => none

def bool? : Json → Option Bool
  | .bool b => some b
  | _ => none

/-- An integer from 0 to `bound - 1`. -/
def natBelow? (bound : Nat) : Json → Option Nat
  | .number n => n.toNat?.bind fun v => if v < bound then some v else none
  | _ => none

def uint8? (j : Json) : Option UInt8 := (natBelow? 0x100 j).map Nat.toUInt8

def uint64? (j : Json) : Option UInt64 := (natBelow? 0x10000000000000000 j).map Nat.toUInt64

def list? {α : Type} (read : Json → Option α) : Json → Option (List α)
  | .array xs => xs.mapM read
  | _ => none

def members? {α : Type} (read : Json → Option α) : Json → Option (List (String × α))
  | .object ms => ms.mapM fun (k, v) => do return (← k, ← read v)
  | _ => none

/-- The bytes of a hex text, one optional lower-case mark, then between `least` and `most` bytes of
digits and gaps. Text of odd length starts with half a byte; a half byte at the end is dropped. -/
def hexBytes? (least most : Nat) (s : String) : Option Bytes :=
  let cs := Hex.dropMark s.toList
  let n := Utf8.length cs
  if least ≤ n ∧ n ≤ most then
    (Hex.values? cs).map fun vs => Hex.pack (if n % 2 = 1 then 0 :: vs else vs)
  else none

end SellProbe.Json

namespace SellProbe

/-- An address in a record: 40 characters; what gaps take away is missing at its end. -/
def Address.ofJson? (j : Json) : Option Address := do
  let bs ← Json.hexBytes? 40 40 (← j.text?)
  FixedBytes.ofList? 20 (bs ++ List.replicate (20 - bs.length) 0)

/-- A word in a record: 1 to 64 characters. -/
def Word.ofJson? (j : Json) : Option Word := do
  let bs ← Json.hexBytes? 1 64 (← j.text?)
  return Word.ofBytes bs

def FixedBytes.toJson {n : Nat} (b : FixedBytes n) : Json := .text b.toHex

def Word.toJson (w : Word) : Json := .text w.toHex

end SellProbe
