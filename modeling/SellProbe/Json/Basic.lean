/-!
# JSON values

JSON as it is written: a number keeps its digits, an object keeps its members in order with repeats,
and a string whose escapes name half a surrogate pair is still a string, though it has no text. What
a reader of records makes of these is for `SellProbe.Json.Record` to say.
-/

namespace SellProbe

namespace Json

structure Exponent where
  negative : Bool
  digits : List Char
deriving BEq

/-- A number as written. The fraction is empty when there is no point. -/
structure Number where
  negative : Bool
  whole : List Char
  fraction : List Char
  exponent : Option Exponent
deriving BEq

namespace Number

def ofNat (n : Nat) : Number := ⟨false, Nat.toDigits 10 n, [], none⟩

/-- The natural number, if it is written as one: no sign, no point, no exponent. -/
def toNat? (n : Number) : Option Nat :=
  if n.negative || !n.fraction.isEmpty || n.exponent.isSome then none
  else some (Nat.ofDigitChars 10 n.whole 0)

/-- The integer, if it is written as one; a negative zero is none. -/
def toInt? (n : Number) : Option Int :=
  if !n.fraction.isEmpty || n.exponent.isSome then none
  else
    let v := Nat.ofDigitChars 10 n.whole 0
    if !n.negative then some v else if v = 0 then none else some (-(v : Int))

theorem toNat?_ofNat (n : Nat) : (ofNat n).toNat? = some n := by
  simp [ofNat, toNat?, Nat.ofDigitChars_toDigits]

end Number

/-- The text of a string, or nothing when an escape names half a surrogate pair. -/
abbrev Text := Option String

end Json

inductive Json
  | null
  | bool (b : Bool)
  | number (n : Json.Number)
  | string (s : Json.Text)
  | array (xs : List Json)
  | object (members : List (Json.Text × Json))
deriving BEq

namespace Json

def text (s : String) : Json := .string (some s)

def nat (n : Nat) : Json := .number (.ofNat n)

def record (members : List (String × Json)) : Json :=
  .object (members.map fun (k, v) => (some k, v))

def always (key : String) (v : Json) : Option (String × Json) := some (key, v)

def optional {α : Type} (key : String) (encode : α → Json) (v : Option α) :
    Option (String × Json) :=
  v.map fun a => (key, encode a)

/-- An object of the members that are not left out. -/
def recordOf (members : List (Option (String × Json))) : Json := record (members.filterMap id)

/-- The value of the last member of an object with this key. -/
def get? (key : String) : Json → Option Json
  | .object members => (members.reverse.find? fun m => m.1 == some key).map (·.2)
  | _ => none

end Json

end SellProbe
