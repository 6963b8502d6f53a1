import SellProbe.Bytes

/-!
# Words

Unsigned numbers of 256 bits. Nothing here wraps around: an operation either has its result among
the words, or says that it has none, or saturates, and its name tells which.
-/

namespace SellProbe

abbrev Word := BitVec 256

namespace Word

def largest : Word := BitVec.allOnes 256

def ofNat? (n : Nat) : Option Word :=
  if n ≤ largest.toNat then some (BitVec.ofNat 256 n) else none

/-- The word of a number, or the largest word. -/
def ofNatClamped (n : Nat) : Word := (ofNat? n).getD largest

def add? (a b : Word) : Option Word := ofNat? (a.toNat + b.toNat)

/-- Product, if it is a word. -/
def mul? (a b : Word) : Option Word := ofNat? (a.toNat * b.toNat)

def addClamped (a b : Word) : Word := ofNatClamped (a.toNat + b.toNat)

def mulClamped (a b : Word) : Word := ofNatClamped (a.toNat * b.toNat)

def subClamped (a b : Word) : Word := if a ≤ b then 0 else a - b

theorem toNat_subClamped (a b : Word) : (subClamped a b).toNat = a.toNat - b.toNat := by
  unfold subClamped
  split
  · rename_i h
    have := BitVec.le_def.1 h
    simp
    omega
  · rename_i h
    exact BitVec.toNat_sub_of_le (BitVec.le_of_lt (BitVec.not_le.1 h))

/-- The exponents of the powers of ten that are words end at 77. -/
def tenPow? (n : Nat) : Option Word :=
  if n ≤ 77 then some (BitVec.ofNat 256 (Nat.pow 10 n)) else none

def toDecimal (w : Word) : String := String.ofList (Nat.toDigits 10 w.toNat)

def toHash (w : Word) : Hash := FixedBytes.ofNat 32 w.toNat

/-- The word that a big-endian byte string denotes, reduced to 256 bits. -/
def ofBytes (bs : Bytes) : Word := BitVec.ofNat 256 (Bytes.toNat bs)

end Word

def Hash.toWord (h : Hash) : Word := Word.ofBytes h.toList

end SellProbe
