import SellProbe.Directory
import SellProbe.Json.Record

/-!
# Plain values in JSON

How numbers and byte strings stand outside of records: a word as decimal text, bytes as `0x` and two
digits each. A member that is `null` counts as left out.
-/

namespace SellProbe.Json

/-- The member of an object with this key, unless it is `null`. -/
def member (j : Json) (key : String) : Option Json :=
  match j.get? key with
  | some .null => none
  | v => v

def part? {α : Type} (read : Json → Option α) (j : Json) (key : String) : Option (Option α) :=
  match j.member key with
  | none => some none
  | some v => (read v).map some

def nat? : Json → Option Nat
  | .number n => n.toNat?
  | _ => none

def int? : Json → Option Int
  | .number n => n.toInt?
  | _ => none

def elements? : Json → Option (List Json)
  | .array xs => some xs
  | _ => none

def bytes? (j : Json) : Option Bytes :=
  match j.text?.map String.toList with
  | some ('0' :: 'x' :: cs) =>
    if cs.length % 2 = 0 then (cs.mapM Hex.digit?).map Hex.pack else none
  | _ => none

def fixedBytes? (n : Nat) (j : Json) : Option (FixedBytes n) := j.bytes?.bind (FixedBytes.ofList? n)

def address? : Json → Option Address := fixedBytes? 20

def hash? : Json → Option Hash := fixedBytes? 32

def word? (j : Json) : Option Word := do
  let cs := (← j.text?).toList
  if !cs.isEmpty && cs.all Char.isDigit then Word.ofNat? (Nat.ofDigitChars 10 cs 0) else none

def bytes (bs : Bytes) : Json := .text (Hex.encode bs)

def word (w : Word) : Json := .text w.toDecimal

mutual

/-- The value as a table keeps it: of several members with one key the last, in the order of the
keys. -/
def settle : Json → Json
  | .array xs => .array (settleAll xs)
  | .object members => .record (Directory.ofList (settleMembers members)).entries
  | j => j

/-- Every element as a table keeps it. -/
def settleAll : List Json → List Json
  | [] => []
  | x :: xs => settle x :: settleAll xs

def settleMembers : List (Text × Json) → List (String × Json)
  | [] => []
  | (some k, v) :: ms => (k, settle v) :: settleMembers ms
  | (none, _) :: ms => settleMembers ms

end

end SellProbe.Json
