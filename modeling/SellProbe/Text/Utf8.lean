import SellProbe.Bytes

/-!
# UTF-8

Reading bytes as text, either strictly or with one replacement character for each longest invalid
part. Both readers share the split of the bytes into characters and invalid parts.
-/

namespace SellProbe.Utf8

/-- What a lead byte announces: the number of further bytes, and the range of the first of them.
Overlong forms, surrogates and values above `10FFFF` are ruled out by that range. -/
def announced? (lead : UInt8) : Option (Nat × UInt8 × UInt8) :=
  if 0xc2 ≤ lead ∧ lead ≤ 0xdf then some (1, 0x80, 0xbf)
  else if lead = 0xe0 then some (2, 0xa0, 0xbf)
  else if lead = 0xed then some (2, 0x80, 0x9f)
  else if 0xe1 ≤ lead ∧ lead ≤ 0xef then some (2, 0x80, 0xbf)
  else if lead = 0xf0 then some (3, 0x90, 0xbf)
  else if 0xf1 ≤ lead ∧ lead ≤ 0xf3 then some (3, 0x80, 0xbf)
  else if lead = 0xf4 then some (3, 0x80, 0x8f)
  else none

def payload (b : UInt8) : Nat := b.toNat % 64

/-- Reads `k` continuation bytes, the first of them between `lo` and `hi`. The value is absent
when one is missing; what is left is then the text from the first byte that does not fit. -/
def continuation : (k : Nat) → (lo hi : UInt8) → (acc : Nat) → Bytes → Option Nat × Bytes
  | 0, _, _, acc, bs => (some acc, bs)
  | _ + 1, _, _, _, [] => (none, [])
  | k + 1, lo, hi, acc, b :: bs =>
    if lo ≤ b ∧ b ≤ hi then continuation k 0x80 0xbf (acc * 64 + payload b) bs
    else (none, b :: bs)

/-- The bits of a character that its lead byte carries, before so many further bytes. -/
def leadBits : Nat → UInt8 → Nat
  | 1, lead => lead.toNat % 32
  | 2, lead => lead.toNat % 16
  | _, lead => lead.toNat % 8

/-- Reads one character or skips one longest invalid part. -/
def next (lead : UInt8) (bs : Bytes) : Option Char × Bytes :=
  if lead < 0x80 then (some (Char.ofNat lead.toNat), bs)
  else match announced? lead with
    | none => (none, bs)
    | some (k, lo, hi) =>
      let (value, rest) := continuation k lo hi (leadBits k lead) bs
      (value.map Char.ofNat, rest)

theorem length_continuation_le (k : Nat) (lo hi : UInt8) (acc : Nat) (bs : Bytes) :
    (continuation k lo hi acc bs).2.length ≤ bs.length := by
  induction k generalizing lo hi acc bs with
  | zero => simp [continuation]
  | succ k ih =>
    cases bs with
    | nil => simp [continuation]
    | cons b bs =>
      rw [continuation]
      split
      · exact Nat.le_succ_of_le (ih _ _ _ _)
      · exact Nat.le_refl _

theorem length_next_le (lead : UInt8) (bs : Bytes) : (next lead bs).2.length ≤ bs.length := by
  unfold next
  split
  · exact Nat.le_refl _
  · split
    · exact Nat.le_refl _
    · exact length_continuation_le _ _ _ _ _

/-- The characters of a byte string in order, with `none` for each longest invalid part. -/
def pieces : Bytes → List (Option Char)
  | [] => []
  | lead :: bs =>
    have := length_next_le lead bs
    (next lead bs).1 :: pieces (next lead bs).2
termination_by bs => bs.length
decreasing_by simp only [List.length_cons]; omega

def decode? (bs : Bytes) : Option String := ((pieces bs).mapM id).map String.ofList

/-- The text of a byte string, with U+FFFD for each longest invalid part. -/
def decodeLossy (bs : Bytes) : String :=
  String.ofList ((pieces bs).map fun p => p.getD (Char.ofNat 0xfffd))

def encodeChars (cs : List Char) : Bytes := cs.flatMap String.utf8EncodeChar

def length (cs : List Char) : Nat := (encodeChars cs).length

def encode (s : String) : Bytes := encodeChars s.toList

end SellProbe.Utf8
