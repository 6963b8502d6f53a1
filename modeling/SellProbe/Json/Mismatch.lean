import SellProbe.Decimal
import SellProbe.Json.Binary64
import SellProbe.Text.Quoted

/-!
# Reading JSON with a diagnosis

Readers that tell why a value is not what is expected of it. The members of an object are looked at
in their order, and the first that does not fit decides; only then a missing one is noticed.
-/

namespace SellProbe.Json

inductive Mismatch
  /-- A value of another kind. -/
  | kind (found : Json) (expected : String)
  /-- An integer that is too small. -/
  | range (found : Int) (expected : String)
  /-- A record without a member that it has to have. -/
  | missing (key : String)
  /-- A record written as an array that ends early. -/
  | tooShort (length : Nat) (expected : String)
  /-- A record written as an array with more elements than fields. -/
  | tooLong (length : Nat)

/-- The integer that a number is, if it is written as one and fits 64 bits, with a sign if it is
negative. Any other number counts as a float. -/
def Number.toInt64? (n : Number) : Option Int :=
  n.toInt?.filter fun v => -0x8000000000000000 ≤ v && v < 0x10000000000000000

def integerText (v : Int) : String :=
  String.ofList ((if v < 0 then ['-'] else []) ++ Nat.toDigits 10 v.natAbs)

/-- How a diagnosis calls a value. -/
def describe : Json → String
  | .null => "null"
  | .bool b => "boolean `" ++ (if b then "true" else "false") ++ "`"
  | .number n =>
    match n.toInt64? with
    | some v => "integer `" ++ integerText v ++ "`"
    | none => "floating point `" ++ Decimal.textOf (n.toFloat?.getD 0) ++ "`"
  | .string s => "string " ++ String.ofList (Text.quoted '"' (s.getD "").toList)
  | .array _ => "sequence"
  | .object _ => "map"

def Mismatch.message : Mismatch → String
  | .kind found expected => "invalid type: " ++ found.describe ++ ", expected " ++ expected
  | .range found expected =>
    "invalid value: integer `" ++ integerText found ++ "`, expected " ++ expected
  | .missing key => "missing field `" ++ key ++ "`"
  | .tooShort length expected =>
    "invalid length " ++ integerText length ++ ", expected " ++ expected
  | .tooLong length =>
    "invalid length " ++ integerText length ++ ", expected fewer elements in array"

def expectUInt64 (j : Json) : Except Mismatch UInt64 :=
  match j with
  | .number n =>
    match n.toInt64? with
    | some v => if v < 0 then .error (.range v "u64") else .ok v.toNat.toUInt64
    | none => .error (.kind j "u64")
  | _ => .error (.kind j "u64")

def expectBool : Json → Except Mismatch Bool
  | .bool b => .ok b
  | j => .error (.kind j "a boolean")

def expectText : Json → Except Mismatch String
  | .string (some s) => .ok s
  | j => .error (.kind j "a string")

def expectList {α : Type} (read : Json → Except Mismatch α) : Json → Except Mismatch (List α)
  | .array xs => xs.mapM read
  | j => .error (.kind j "a sequence")

def expectMembers {α : Type} (read : Json → Except Mismatch α) :
    Json → Except Mismatch (List (String × α))
  | .object ms => (ms.filterMap fun (k, v) => k.map (·, v)).mapM fun (k, v) => do
    return (k, ← read v)
  | j => .error (.kind j "a map")

/-- Expects a value, or `null` for none. -/
def expectOptional {α : Type} (read : Json → Except Mismatch α) :
    Json → Except Mismatch (Option α)
  | .null => .ok none
  | j => (read j).map some

/-- How a record is put together: its name, the record with nothing in it yet, and what the value of
each field adds. The fields are in the order of an array that stands for the record. -/
structure Layout (α : Type) where
  name : String
  blank : α
  fields : List (String × (α → Json → Except Mismatch α))

namespace Layout

variable {α : Type}

/-- Adds a member of an object. An unknown one adds nothing. -/
def put (l : Layout α) (a : α) (member : Text × Json) : Except Mismatch α :=
  match l.fields.find? fun f => member.1 == some f.1 with
  | some f => f.2 a member.2
  | none => .ok a

def expect (l : Layout α) : Json → Except Mismatch α
  | .object members => members.foldlM l.put l.blank
  | .array xs => do
    let a ← (xs.zip l.fields).foldlM (fun a (x, f) => f.2 a x) l.blank
    if xs.length ≤ l.fields.length then return a else throw (.tooLong xs.length)
  | j => .error (.kind j ("struct " ++ l.name))

/-- What is wrong with a value that lacks the field at this place. -/
def lack (l : Layout α) (place : Nat) : Json → Mismatch
  | .array _ => .tooShort place
    ("struct " ++ l.name ++ " with " ++ integerText l.fields.length ++ " elements")
  | _ => .missing ((l.fields.map (·.1)).getD place "")

end Layout

end SellProbe.Json
