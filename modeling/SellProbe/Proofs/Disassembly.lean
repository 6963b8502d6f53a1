import Mathlib.Data.List.Pairwise
import SellProbe.Bytecode.Instruction

/-!
# Disassembly is exact

The linear sweep cuts code into instructions without losing a byte, and in the only way there is: a
list of instructions is the disassembly of some code if and only if it is well formed and its bytes
are that code (`disassemble_eq_iff`). The instructions stand at the boundaries of the code, each
with the bytes behind its opcode as its operand (`mem_disassemble_iff`), so what a push carries is
never taken for an opcode.
-/

namespace SellProbe.Bytecode

variable {code : Bytes} {is : List Instruction} {i : Instruction} {position : Nat}

/-! ## There and back -/

theorem assemble_cons (i : Instruction) (is : List Instruction) :
    assemble (i :: is) = i.opcode :: (i.operand ++ assemble is) :=
  List.flatMap_cons

theorem assemble_disassembleFrom (position : Nat) (code : Bytes) :
    assemble (disassembleFrom position code) = code := by
  fun_induction disassembleFrom position code with
  | case1 position => rfl
  | case2 position opcode rest operand ih => rw [assemble_cons, ih, List.take_append_drop]

theorem wellFormed_disassembleFrom (position : Nat) (code : Bytes) :
    WellFormed position (disassembleFrom position code) := by
  fun_induction disassembleFrom position code with
  | case1 position => exact .nil position
  | case2 position opcode rest operand ih =>
    by_cases hwhole : pushWidth opcode ≤ rest.length
    · exact .cons ⟨opcode, operand, position⟩ _ (List.length_take_of_le hwhole) ih
    · have hend : rest.drop (pushWidth opcode) = [] := List.drop_eq_nil_of_le (by omega)
      rw [hend, disassembleFrom]
      exact .last ⟨opcode, operand, position⟩ (List.length_take_le _ _)

theorem disassembleFrom_assemble (h : WellFormed position is) :
    disassembleFrom position (assemble is) = is := by
  induction h with
  | nil position => exact disassembleFrom.eq_1 position
  | last i h =>
    have hbytes : assemble [i] = i.opcode :: i.operand := List.flatMap_singleton _ i
    have hcut : i.operand.take (pushWidth i.opcode) = i.operand := List.take_of_length_le h
    have hend : i.operand.drop (pushWidth i.opcode) = [] := List.drop_eq_nil_of_le h
    rw [hbytes, disassembleFrom, hcut, hend, disassembleFrom]
  | cons i rest h _ ih =>
    have hcut : (i.operand ++ assemble rest).take (pushWidth i.opcode) = i.operand :=
      List.take_left' h
    have hrest : (i.operand ++ assemble rest).drop (pushWidth i.opcode) = assemble rest :=
      List.drop_left' h
    rw [assemble_cons, disassembleFrom, hcut, hrest, ih]

/-- Code can be cut into well-formed instructions in one way only. -/
theorem disassemble_eq_iff : disassemble code = is ↔ WellFormed 0 is ∧ assemble is = code := by
  constructor
  · rintro rfl
    exact ⟨wellFormed_disassembleFrom 0 code, assemble_disassembleFrom 0 code⟩
  · rintro ⟨hformed, rfl⟩
    exact disassembleFrom_assemble hformed

/-! ## Where the instructions stand -/

theorem WellFormed.le_position (h : WellFormed position is) : ∀ i ∈ is, position ≤ i.position := by
  induction h with
  | nil position => simp
  | last i h => simp
  | cons i rest h _ ih =>
    intro j hj
    rcases List.mem_cons.1 hj with rfl | hj
    · exact Nat.le_refl _
    · have := ih j hj
      omega

/-- Each instruction ends before the next ones begin. -/
theorem WellFormed.pairwise (h : WellFormed position is) :
    is.Pairwise fun i j => i.position + i.operand.length < j.position := by
  induction h with
  | nil position => exact .nil
  | last i h => exact List.pairwise_singleton _ i
  | cons i rest h hrest ih =>
    refine List.pairwise_cons.2 ⟨fun j hj => ?_, ih⟩
    have := hrest.le_position j hj
    omega

/-- Only the last operand can be cut short. -/
theorem WellFormed.isTruncated_eq_false (h : WellFormed position is) :
    ∀ i ∈ is.dropLast, i.isTruncated = false := by
  induction h with
  | nil position => simp
  | last i h => simp
  | cons i rest h _ ih =>
    intro j hj
    cases rest with
    | nil => simp at hj
    | cons k rest =>
      rw [List.dropLast_cons_cons] at hj
      rcases List.mem_cons.1 hj with rfl | hj
      · exact decide_eq_false (by omega)
      · exact ih j hj

/-- An instruction of some code: at a boundary stands its opcode, and its operand is what follows,
as far as the opcode declares and the code reaches. -/
structure StandsIn (code : Bytes) (i : Instruction) : Prop where
  boundary : Boundary code i.position
  opcode : code[i.position]? = some i.opcode
  operand : i.operand = (code.drop (i.position + 1)).take i.width

theorem standsIn_of_mem (hposition : Boundary code position) {rest : Bytes}
    (hrest : rest = code.drop position) (hi : i ∈ disassembleFrom position rest) :
    StandsIn code i := by
  fun_induction disassembleFrom position rest with
  | case1 position => cases hi
  | case2 position opcode rest operand ih =>
    have hopcode : code[position]? = some opcode := by
      rw [← List.head?_drop, ← hrest, List.head?_cons]
    have hbehind : rest = code.drop (position + 1) := by
      rw [← List.drop_drop, ← hrest, List.drop_one, List.tail_cons]
    rcases List.mem_cons.1 hi with rfl | hi
    · exact ⟨hposition, hopcode, congrArg (List.take _) hbehind⟩
    · by_cases hwhole : pushWidth opcode ≤ rest.length
      · have hlength : operand.length = pushWidth opcode := List.length_take_of_le hwhole
        refine ih ?_ ?_ hi
        · rw [hlength]
          exact hposition.next hopcode
        · rw [hbehind, List.drop_drop, hlength]
      · rw [List.drop_eq_nil_of_le (by omega), disassembleFrom] at hi
        cases hi

/-- The sweep comes by every boundary inside the code. -/
theorem exists_suffix_of_boundary (h : Boundary code position) (hinside : position < code.length) :
    ∃ before, disassemble code = before ++ disassembleFrom position (code.drop position) := by
  induction h with
  | start => exact ⟨[], rfl⟩
  | @next offset opcode h hop ih =>
    obtain ⟨before, hbefore⟩ := ih (by omega)
    have hcut : code.drop offset = opcode :: code.drop (offset + 1) := by
      obtain ⟨hlt, hget⟩ := List.getElem?_eq_some_iff.1 hop
      rw [List.drop_eq_getElem_cons hlt, hget]
    have hlength : ((code.drop (offset + 1)).take (pushWidth opcode)).length = pushWidth opcode :=
      List.length_take_of_le (by rw [List.length_drop]; omega)
    rw [hcut, disassembleFrom, hlength, List.drop_drop] at hbefore
    exact ⟨before ++ [_], by rw [hbefore, List.append_assoc]; rfl⟩

/-- The instructions of code are those at its boundaries. -/
theorem mem_disassemble_iff : i ∈ disassemble code ↔ StandsIn code i := by
  constructor
  · exact standsIn_of_mem .start rfl
  · rintro ⟨hboundary, hopcode, hoperand⟩
    obtain ⟨hinside, hget⟩ := List.getElem?_eq_some_iff.1 hopcode
    obtain ⟨before, hbefore⟩ := exists_suffix_of_boundary hboundary hinside
    rw [hbefore, List.drop_eq_getElem_cons hinside, hget, disassembleFrom]
    refine List.mem_append_right _ (List.mem_cons.2 (.inl ?_))
    exact congrArg (Instruction.mk i.opcode · i.position) hoperand

/-- No instruction begins inside the operand of another. -/
theorem WellFormed.not_mem_operand (h : WellFormed position is) {i j : Instruction} (hi : i ∈ is)
    (hj : j ∈ is) : ¬ (i.position < j.position ∧ j.position ≤ i.position + i.operand.length) := by
  let apart (i j : Instruction) : Prop :=
    ¬ (i.position < j.position ∧ j.position ≤ i.position + i.operand.length) ∧
      ¬ (j.position < i.position ∧ i.position ≤ j.position + j.operand.length)
  have hsymm : Std.Symm apart := ⟨fun _ _ h => h.symm⟩
  have hself : ∀ i ∈ is, apart i i := fun i _ =>
    ⟨fun h => Nat.lt_irrefl _ h.1, fun h => Nat.lt_irrefl _ h.1⟩
  have hapart : is.Pairwise apart := h.pairwise.imp fun hends => ⟨by omega, by omega⟩
  exact (List.Pairwise.forall_of_forall hself hapart hi hj).1

/-- **Disassembly is lossless and unambiguous.** The disassembly of code is the one well-formed list
of instructions that is assembled to the code. Only its last instruction can be cut short, and the
opcode of an instruction is the byte at its position, which lies in no operand of another one. -/
theorem disassemble_unique (code : Bytes) :
    (∀ is, disassemble code = is ↔ WellFormed 0 is ∧ assemble is = code) ∧
      (∀ i ∈ (disassemble code).dropLast, i.isTruncated = false) ∧
      ∀ i ∈ disassemble code, code[i.position]? = some i.opcode ∧
        ∀ j ∈ disassemble code,
          ¬ (i.position < j.position ∧ j.position ≤ i.position + i.operand.length) := by
  have hformed : WellFormed 0 (disassemble code) := wellFormed_disassembleFrom 0 code
  refine ⟨fun is => disassemble_eq_iff, hformed.isTruncated_eq_false, fun i hi => ?_⟩
  exact ⟨(mem_disassemble_iff.1 hi).opcode, fun j hj => hformed.not_mem_operand hi hj⟩

/-- A byte that a push carries is no opcode, and the last push is cut short. -/
example : disassemble [0x60, 0x5b, 0x00, 0x7f, 0xaa] =
    [⟨0x60, [0x5b], 0⟩, ⟨0x00, [], 2⟩, ⟨0x7f, [0xaa], 3⟩] := by decide +kernel

end SellProbe.Bytecode
