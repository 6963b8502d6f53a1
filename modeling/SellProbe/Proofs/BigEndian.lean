import Mathlib.Data.List.Induction
import Mathlib.Tactic.Linarith
import Mathlib.Tactic.Ring
import SellProbe.Word

/-!
# Big-endian numbers

Writing a number into `n` bytes and reading it back gives the number modulo `256 ^ n`, and reading
bytes and writing them back gives the bytes. So fixed byte strings are the numbers below `256 ^ n`,
and words and hashes are the same thing.
-/

namespace SellProbe

namespace Bytes

theorem foldl_eq (bs : Bytes) (acc : Nat) :
    bs.foldl (fun acc b => acc * 256 + b.toNat) acc = acc * 256 ^ bs.length + toNat bs := by
  induction bs generalizing acc with
  | nil => simp [toNat]
  | cons b bs ih =>
    rw [toNat, List.foldl_cons, List.foldl_cons, ih, ih (0 * 256 + b.toNat), List.length_cons]
    ring

theorem toNat_append (as bs : Bytes) :
    toNat (as ++ bs) = toNat as * 256 ^ bs.length + toNat bs := by
  rw [toNat, List.foldl_append, foldl_eq, ← toNat]

theorem toNat_cons (b : UInt8) (bs : Bytes) :
    toNat (b :: bs) = b.toNat * 256 ^ bs.length + toNat bs := by
  have h := toNat_append [b] bs
  simpa [toNat] using h

theorem toNat_concat (bs : Bytes) (b : UInt8) : toNat (bs ++ [b]) = toNat bs * 256 + b.toNat := by
  rw [toNat_append]
  simp [toNat]

theorem toNat_lt (bs : Bytes) : toNat bs < 256 ^ bs.length := by
  induction bs with
  | nil => simp [toNat]
  | cons b bs ih =>
    rw [toNat_cons, List.length_cons, pow_succ']
    have hb : b.toNat < 256 := b.toNat_lt
    nlinarith [Nat.pow_pos (n := bs.length) (show 0 < 256 by decide)]

theorem toNat_bigEndian (n v : Nat) : toNat (bigEndian n v) = v % 256 ^ n := by
  induction n generalizing v with
  | zero => simp [bigEndian, toNat, Nat.mod_one]
  | succ n ih =>
    have hv : (UInt8.ofNat v).toNat = v % 256 := by simp
    rw [bigEndian, toNat_concat, ih, hv, pow_succ', Nat.mod_mul]
    ring

theorem bigEndian_toNat (bs : Bytes) : bigEndian bs.length (toNat bs) = bs := by
  induction bs using List.reverseRecOn with
  | nil => rfl
  | append_singleton bs b ih =>
    have hb : b.toNat < 256 := b.toNat_lt
    have hdiv : (toNat bs * 256 + b.toNat) / 256 = toNat bs := by omega
    have hlow : UInt8.ofNat (toNat bs * 256 + b.toNat) = b := by
      apply UInt8.toNat_inj.1
      simp only [UInt8.toNat_ofNat']
      omega
    rw [List.length_append, List.length_singleton, bigEndian, toNat_concat, hdiv, ih, hlow]

theorem toNat_eq_zero_iff {bs : Bytes} : toNat bs = 0 ↔ ∀ b ∈ bs, b = 0 := by
  induction bs with
  | nil => simp [toNat]
  | cons b bs ih =>
    have hweight : 256 ^ bs.length ≠ 0 := by positivity
    rw [toNat_cons, Nat.add_eq_zero_iff, Nat.mul_eq_zero, or_iff_left hweight, ih,
      List.forall_mem_cons]
    exact and_congr_left' (UInt8.toNat_inj (b := 0))

end Bytes

namespace FixedBytes

variable {n : Nat}

theorem toNat_lt (b : FixedBytes n) : b.toNat < 256 ^ n := by
  have h := Bytes.toNat_lt b.toList
  rwa [b.length_toList] at h

@[simp] theorem ofNat_toNat (b : FixedBytes n) : ofNat n b.toNat = b := by
  apply ext
  have h := Bytes.bigEndian_toNat b.toList
  rwa [b.length_toList] at h

end FixedBytes

theorem Word.ofNat?_eq_some_iff {n : Nat} {w : Word} : ofNat? n = some w ↔ w.toNat = n := by
  have hmax : largest.toNat = 2 ^ 256 - 1 := by simp [largest]
  unfold ofNat?
  split
  · rename_i h
    rw [Option.some.injEq]
    constructor
    · rintro rfl
      rw [BitVec.toNat_ofNat]
      omega
    · intro e
      apply BitVec.eq_of_toNat_eq
      rw [BitVec.toNat_ofNat]
      omega
  · rename_i h
    simp only [reduceCtorEq, false_iff]
    intro e
    have := w.isLt
    omega

theorem Hash.toWord_toHash (w : Word) : Hash.toWord w.toHash = w := by
  apply BitVec.eq_of_toNat_eq
  simp only [Hash.toWord, Word.toHash, Word.ofBytes, FixedBytes.ofNat, Bytes.toNat_bigEndian,
    BitVec.toNat_ofNat]
  have := w.isLt
  omega

theorem Word.toHash_toWord (h : Hash) : Word.toHash (Hash.toWord h) = h := by
  have hlt : Bytes.toNat h.toList < 2 ^ 256 := h.toNat_lt
  rw [Word.toHash, Hash.toWord, Word.ofBytes, BitVec.toNat_ofNat, Nat.mod_eq_of_lt hlt]
  exact FixedBytes.ofNat_toNat h

end SellProbe
