import SellProbe.Bytecode.MinimalProxy
import SellProbe.Proofs.Concatenation

/-!
# Minimal proxies in the linear sweep

Code is a minimal proxy only by the bytes at fixed places (`proxyTarget?_eq_some_iff`). The linear
sweep knows nothing of these places, and still comes to the same address: the last byte in front of
it is an address push, so the address is an operand, and none of its bytes is taken for an opcode,
whatever they are (`disassemble_proxyOf`).
-/

namespace SellProbe.Bytecode

variable {code : Bytes} {a : Address}

def proxyOf (a : Address) : Bytes := proxyHead ++ a.toList ++ proxyTail

/-! ## Fixed places -/

theorem proxyTarget?_proxyOf (a : Address) : proxyTarget? (proxyOf a) = some a := by
  have hlength := a.length_toList
  have hcode : proxyOf a = proxyHead ++ (a.toList ++ proxyTail) := List.append_assoc _ _ _
  have hhead : (proxyOf a).take 10 = proxyHead := by
    rw [hcode]
    exact List.take_left' rfl
  have hrest : (proxyOf a).drop 10 = a.toList ++ proxyTail := by
    rw [hcode]
    exact List.drop_left' rfl
  have htail : (proxyOf a).drop 30 = proxyTail :=
    List.drop_left' (by rw [List.length_append, hlength]; rfl)
  rw [proxyTarget?, hhead, htail, if_pos ⟨rfl, rfl⟩, hrest, List.take_left' hlength,
    ofList?_eq_some_iff]

theorem eq_proxyOf_of_proxyTarget? (h : proxyTarget? code = some a) : code = proxyOf a := by
  unfold proxyTarget? at h
  dsimp only at h
  split at h
  next hfixed =>
    obtain ⟨hhead, htail⟩ := hfixed
    have htarget := ofList?_eq_some_iff.1 h
    have hsplit := List.take_append_drop 20 (code.drop 10)
    rw [List.drop_drop, htail, htarget] at hsplit
    rw [proxyOf, List.append_assoc, hsplit, ← hhead, List.take_append_drop]
  next => cases h

theorem proxyTarget?_eq_some_iff : proxyTarget? code = some a ↔ code = proxyOf a := by
  constructor
  · exact eq_proxyOf_of_proxyTarget?
  · rintro rfl
    exact proxyTarget?_proxyOf a

/-! ## The sweep -/

def proxyOpening : Bytes := proxyHead.dropLast

theorem proxyOf_eq (a : Address) :
    proxyOf a = proxyOpening ++ ((push20 :: a.toList) ++ proxyTail) := by
  rw [proxyOf, List.append_assoc]
  rfl

theorem disassemble_addressPush (a : Address) :
    disassemble (push20 :: a.toList) = [⟨push20, a.toList, 0⟩] := by
  rw [disassemble_eq_iff]
  exact ⟨.last ⟨push20, a.toList, 0⟩ (Nat.le_of_eq a.length_toList), by simp [assemble]⟩

theorem endsWhole_addressPush (a : Address) : EndsWhole (push20 :: a.toList) := by
  rw [EndsWhole, disassemble_addressPush]
  rintro i ⟨⟩
  exact decide_eq_false (Nat.not_lt_of_le (Nat.le_of_eq a.length_toList.symm))

theorem endsWhole_proxyOpening : EndsWhole proxyOpening := by
  unfold EndsWhole
  decide +kernel

/-- The address is the operand of one instruction, between those of the fixed parts. -/
theorem disassemble_proxyOf (a : Address) :
    disassemble (proxyOf a) = disassemble proxyOpening ++
      ⟨push20, a.toList, 9⟩ :: (disassemble proxyTail).map (·.shift 30) := by
  have hlength : (push20 :: a.toList).length + proxyOpening.length = 30 := by
    rw [List.length_cons, a.length_toList]
    rfl
  rw [proxyOf_eq, disassemble_append endsWhole_proxyOpening,
    disassemble_append (endsWhole_addressPush a), disassemble_addressPush, List.map_append,
    List.map_map]
  congr 1
  refine congrArg (_ :: ·) (List.map_congr_left fun i _ => ?_)
  simp only [Function.comp_apply, Instruction.shift, Nat.add_assoc, hlength]

theorem filter_addressPush_proxyOf (a : Address) :
    (disassemble (proxyOf a)).filter (·.opcode == push20) = [⟨push20, a.toList, 9⟩] := by
  have hopening : (disassemble proxyOpening).filter (·.opcode == push20) = [] := by decide +kernel
  have htail : ((disassemble proxyTail).map (·.shift 30)).filter (·.opcode == push20) = [] := by
    decide +kernel
  rw [disassemble_proxyOf, List.filter_append, hopening, List.filter_cons_of_pos (by rfl), htail]
  rfl

/-- The constants of one address push. -/
theorem ofInstructions_addressPush (a : Address) (position : Nat) :
    Scan.ofInstructions [⟨push20, a.toList, position⟩] =
      ⟨[], [], if a = FixedBytes.fill 20 0xff then [] else [a]⟩ := by
  have hselector : selectorOf? ⟨push20, a.toList, position⟩ = none :=
    if_neg (show push20 ≠ push4 by decide)
  have hslot : slotOf? ⟨push20, a.toList, position⟩ = none :=
    if_neg (show ¬ (push20 = push1 ∨ push20 = push32) by decide)
  simp only [Scan.ofInstructions, List.filterMap_cons, List.filterMap_nil, hselector, hslot]
  by_cases hmask : a = FixedBytes.fill 20 0xff
  · have hnone : addressOf? ⟨push20, a.toList, position⟩ = none := by
      rw [Option.eq_none_iff_forall_not_mem]
      intro b hb
      obtain ⟨-, hoperand, hne⟩ := addressOf?_eq_some_iff.1 hb
      exact hne ((FixedBytes.ext hoperand).symm.trans hmask)
    rw [hnone, if_pos hmask]
    rfl
  · have hsome : addressOf? ⟨push20, a.toList, position⟩ = some a :=
      addressOf?_eq_some_iff.2 ⟨rfl, rfl, hmask⟩
    rw [hsome, if_neg hmask]
    rfl

theorem scan_proxyOf (a : Address) : scan (proxyOf a) =
    ⟨[], [FixedBytes.ofNat 32 0x2b], if a = FixedBytes.fill 20 0xff then [] else [a]⟩ := by
  have hopening : Scan.ofInstructions (disassemble proxyOpening) = ⟨[], [], []⟩ := by
    decide +kernel
  have htail : Scan.ofInstructions ((disassemble proxyTail).map (·.shift 30)) =
      ⟨[], [FixedBytes.ofNat 32 0x2b], []⟩ := by
    decide +kernel
  rw [scan, disassemble_proxyOf, ← List.singleton_append, Scan.ofInstructions_append,
    Scan.ofInstructions_append, hopening, htail, ofInstructions_addressPush]
  split <;> rfl

/-- **The two readings of a minimal proxy agree.** Code is taken for the minimal proxy of an
implementation exactly if it is the fixed bytes with that address between them. In such code the
linear sweep finds one address push, and that address is its operand; it finds no selector, one slot
in the fixed bytes, and no address but this one, which it leaves out if it is the mask. -/
theorem proxyTarget?_agrees_with_scan (code : Bytes) (a : Address) :
    (proxyTarget? code = some a ↔ code = proxyHead ++ a.toList ++ proxyTail) ∧
    (proxyTarget? code = some a →
      (disassemble code).filter (·.opcode == push20) = [⟨push20, a.toList, 9⟩] ∧
      (scan code).addresses = (if a = FixedBytes.fill 20 0xff then [] else [a]) ∧
      (scan code).selectors = [] ∧
      (scan code).slots = [FixedBytes.ofNat 32 0x2b]) := by
  refine ⟨proxyTarget?_eq_some_iff, fun h => ?_⟩
  obtain rfl := eq_proxyOf_of_proxyTarget? h
  rw [scan_proxyOf]
  exact ⟨filter_addressPush_proxyOf a, rfl, rfl, rfl⟩

/-- An implementation at an address of bytes that would all be word pushes. -/
theorem proxyTarget?_agrees_with_scan_pushes :
    let a : Address := FixedBytes.fill 20 push32
    proxyTarget? (proxyOf a) = some a ∧
      (disassemble (proxyOf a)).filter (·.opcode == push20) = [⟨push20, a.toList, 9⟩] ∧
      (scan (proxyOf a)).addresses = [a] ∧ (scan (proxyOf a)).selectors = [] ∧
      (scan (proxyOf a)).slots = [FixedBytes.ofNat 32 0x2b] := by
  intro a
  have htarget : proxyTarget? (proxyOf a) = some a := by decide +kernel
  exact ⟨htarget, (proxyTarget?_agrees_with_scan (proxyOf a) a).2 htarget⟩

end SellProbe.Bytecode
