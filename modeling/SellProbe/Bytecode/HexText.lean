import SellProbe.Bytecode.Scan
import SellProbe.Hex
import SellProbe.Text.Blank
import SellProbe.Text.Quoted

/-!
# Code as text

Reading code that is given in hex: blanks around it are trimmed and any number of leading `0x` marks
is dropped; what is left must be an even number of hex digits.
-/

namespace SellProbe

namespace Hex

inductive Error
  | oddLength
  /-- The first byte that is no digit, and where it stands. -/
  | badByte (b : UInt8) (position : Nat)
deriving DecidableEq

/-- The text of an error. A byte is shown as the character of that number. -/
def Error.message : Error → String
  | .oddLength => "Odd number of digits"
  | .badByte b position =>
    "Invalid character " ++ String.ofList (Text.quoted '\'' [Char.ofNat b.toNat]) ++ " at position "
      ++ String.ofList (Nat.toDigits 10 position)

def byteDigit? (b : UInt8) : Option Nat := digit? (Char.ofNat b.toNat)

/-- The values of bytes as digits, or the first byte that is none. -/
def byteDigits (position : Nat) : Bytes → Except Error (List Nat)
  | [] => .ok []
  | b :: bs =>
    match byteDigit? b with
    | none => .error (.badByte b position)
    | some v => (byteDigits (position + 1) bs).map (v :: ·)

def decodeStrict (cs : List Char) : Except Error Bytes :=
  let bs := Utf8.encodeChars cs
  if bs.length % 2 = 1 then .error .oddLength else (byteDigits 0 bs).map pack

/-- The bytes of a hex text, trimmed and without its leading marks. -/
def decode (s : String) : Except Error Bytes := decodeStrict (dropMarks (Text.trim s.toList))

end Hex

namespace Bytecode

inductive ScanError
  | invalidHex (detail : String)
  | emptyCode
deriving DecidableEq

def ScanError.message : ScanError → String
  | .invalidHex detail => "invalid bytecode hex: " ++ detail
  | .emptyCode => "empty bytecode"

def scanText (s : String) : Except ScanError Scan :=
  match Hex.decode s with
  | .error e => .error (.invalidHex e.message)
  | .ok code => if code.isEmpty then .error .emptyCode else .ok (scan code)

end Bytecode

end SellProbe
