import SellProbe.Text.Utf8
import SellProbe.Word

/-!
# Hexadecimal text

Writing bytes as lower-case hex digits, and the readers for addresses and storage keys. A reader
drops any number of leading `0x` marks. An address may have blanks among its digits; a storage key
may leave out leading zeros.
-/

namespace SellProbe

namespace Hex

def digit? (c : Char) : Option Nat :=
  if '0' ≤ c ∧ c ≤ '9' then some (c.toNat - 48)
  else if 'a' ≤ c ∧ c ≤ 'f' then some (c.toNat - 87)
  else if 'A' ≤ c ∧ c ≤ 'F' then some (c.toNat - 55)
  else none

def digitChar (n : Nat) : Char :=
  Char.ofNat (if n < 10 then 48 + n else 87 + n)

def digits (bs : Bytes) : List Char :=
  bs.flatMap fun b => [digitChar (b.toNat / 16), digitChar (b.toNat % 16)]

def encode (bs : Bytes) : String := String.ofList ('0' :: 'x' :: digits bs)

/-- One byte for each two digit values; a last single value is dropped. -/
def pack : List Nat → Bytes
  | hi :: lo :: rest => UInt8.ofNat (hi * 16 + lo) :: pack rest
  | _ => []

/-- The text behind every leading `0x`. -/
def dropMarks : List Char → List Char
  | '0' :: 'x' :: rest => dropMarks rest
  | cs => cs

/-- The text behind one leading `0x`, if there is one. -/
def dropMark : List Char → List Char
  | '0' :: 'x' :: rest => rest
  | cs => cs

/-- The four blanks that may stand among hex digits. -/
def isGap (c : Char) : Bool := c == ' ' || c == '\r' || c == '\n' || c == '\t'

/-- Digit values, with gaps skipped; anything else fails. -/
def values? (cs : List Char) : Option (List Nat) :=
  (cs.filter fun c => !isGap c).mapM digit?

end Hex

/-- Exactly `n` bytes of hex, behind one optional mark and with gaps skipped. -/
def FixedBytes.ofHex? (n : Nat) (cs : List Char) : Option (FixedBytes n) := do
  let vs ← Hex.values? (Hex.dropMark cs)
  if vs.length = 2 * n then FixedBytes.ofList? n (Hex.pack vs) else none

/-- Any number of marks, then the 40 digits. -/
def Address.ofHex? (s : String) : Option Address :=
  FixedBytes.ofHex? 20 (Hex.dropMarks s.toList)

/-- Any number of marks, then at most 64 bytes of text, read as if padded with zeros on the left. -/
def Hash.ofHex? (s : String) : Option Hash :=
  let cs := Hex.dropMarks s.toList
  if Utf8.length cs ≤ 64 then
    FixedBytes.ofHex? 32 (List.replicate (64 - cs.length) '0' ++ cs)
  else none

def FixedBytes.toHex {n : Nat} (b : FixedBytes n) : String := Hex.encode b.toList

/-- The digits of a word without leading zeros, behind `0x`. -/
def Word.toHex (w : Word) : String :=
  String.ofList ('0' :: 'x' :: Nat.toDigits 16 w.toNat)

end SellProbe
