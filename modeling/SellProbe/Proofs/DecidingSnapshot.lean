import Mathlib.Logic.Relation
import SellProbe.Proofs.ByteOrder
import SellProbe.Proofs.HexReading
import SellProbe.Proofs.Snapshots

/-!
# The snapshot that decides

The keys that count as loaded are those of one snapshot, that of the last step which loads from
storage and shows it. They are read in the byte order of their texts, and the first one that is no
storage key is the error (`Directory.Answers`). Every other step can be changed, left out or put in
at will: one such edit keeps the last snapshot (`Edit.getLast?_snapshots`), and so do any number of
them (`loadedKeys_decided`).
-/

namespace SellProbe

/-! ## The keys of one snapshot -/

def IsKey (name : String) : Prop := ∃ h : Hash, h.IsSpelledBy name

/-- The answer that the keys of a snapshot give: all of them, in the order of the bytes of their
texts, or else the first text that spells none. -/
structure Directory.Answers (d : Directory String) (answer : Except ProbeError (List Hash)) :
    Prop where
  increasing : (d.names.map Utf8.encode).Pairwise (· < ·)
  isOk : (∃ keys, answer = .ok keys) ↔ ∀ name ∈ d.names, IsKey name
  ok : ∀ keys, answer = .ok keys ↔ List.Forall₂ (fun name h => h.IsSpelledBy name) d.names keys
  length : ∀ keys, answer = .ok keys → keys.length = d.names.length
  error : ∀ e, answer = .error e ↔ ∃ good bad rest, d.names = good ++ bad :: rest ∧
    (∀ name ∈ good, IsKey name) ∧ ¬ IsKey bad ∧ e = .trace ("chave de storage inválida: " ++ bad)

namespace ExecutionTrace

theorem readKey_eq_ok {name : String} {h : Hash} : readKey name = .ok h ↔ h.IsSpelledBy name := by
  rw [readKey_eq_ok_iff, Hash.ofHex?_eq_some_iff]

theorem readKey_eq_error {name : String} {e : ProbeError} :
    readKey name = .error e ↔
      ¬ IsKey name ∧ e = .trace ("chave de storage inválida: " ++ name) := by
  unfold IsKey readKey
  simp only [← Hash.ofHex?_eq_some_iff]
  cases Hash.ofHex? name with
  | some h => simp
  | none => simp [eq_comm]

theorem answers_mapM_readKey (d : Directory String) : d.Answers (d.names.mapM readKey) := by
  have hok : ∀ keys, d.names.mapM readKey = .ok keys ↔
      List.Forall₂ (fun name h => Hash.IsSpelledBy h name) d.names keys := by
    intro keys
    simp only [mapM_eq_ok_iff, readKey_eq_ok]
  have herror : ∀ e, d.names.mapM readKey = .error e ↔ ∃ good bad rest,
      d.names = good ++ bad :: rest ∧ (∀ name ∈ good, IsKey name) ∧ ¬ IsKey bad ∧
      e = .trace ("chave de storage inválida: " ++ bad) := by
    intro e
    simp only [mapM_eq_error_iff, readKey_eq_ok, readKey_eq_error, IsKey]
  have hisOk : (∃ keys, d.names.mapM readKey = .ok keys) ↔ ∀ name ∈ d.names, IsKey name := by
    simp only [exists_mapM_eq_ok_iff, readKey_eq_ok, IsKey]
  refine ⟨?_, hisOk, hok, fun keys h => ((hok keys).1 h).length_eq.symm, herror⟩
  rw [List.pairwise_map, Directory.names, List.pairwise_map]
  exact d.increasing.imp Utf8.encode_lt_encode_iff.2

end ExecutionTrace

/-! ## The other steps -/

namespace TraceStep

/-- A step that shows no storage at a load. -/
def IsIdle (s : TraceStep) : Prop := s.op ≠ "SLOAD" ∨ s.storage = none

/-- One edit of the steps that leaves the last snapshot alone: of a step that shows none, or of all
the steps before one that shows one. -/
inductive Edit : List TraceStep → List TraceStep → Prop
  | insert (before behind : List TraceStep) (s : TraceStep) (h : s.IsIdle) :
      Edit (before ++ behind) (before ++ s :: behind)
  | delete (before behind : List TraceStep) (s : TraceStep) (h : s.IsIdle) :
      Edit (before ++ s :: behind) (before ++ behind)
  | change (before behind : List TraceStep) (s s' : TraceStep) (h : s.IsIdle) (h' : s'.IsIdle) :
      Edit (before ++ s :: behind) (before ++ s' :: behind)
  | earlier (before before' behind : List TraceStep) (s : TraceStep) (h : ¬ s.IsIdle) :
      Edit (before ++ s :: behind) (before' ++ s :: behind)

variable {s : TraceStep} {ss ts : List TraceStep}

theorem snapshots_cons_of_isIdle (h : s.IsIdle) (ss : List TraceStep) :
    snapshots (s :: ss) = snapshots ss := by
  unfold snapshots
  by_cases hop : s.op = "SLOAD"
  · have hload : (s.op == "SLOAD") = true := beq_iff_eq.2 hop
    rw [List.filter_cons, if_pos hload, List.filterMap_cons_none (h.resolve_left (not_not.2 hop))]
  · rw [List.filter_cons_of_neg (by simpa using hop)]

theorem exists_of_not_isIdle (h : ¬ s.IsIdle) : ∃ d, s.op = "SLOAD" ∧ s.storage = some d := by
  obtain ⟨hop, hstorage⟩ := not_or.1 h
  obtain ⟨d, hd⟩ := Option.ne_none_iff_exists'.1 hstorage
  exact ⟨d, not_not.1 hop, hd⟩

theorem snapshots_eq_nil (h : ∀ s ∈ ss, s.IsIdle) : snapshots ss = [] := by
  induction ss with
  | nil => rfl
  | cons s ss ih =>
    obtain ⟨hs, hss⟩ := List.forall_mem_cons.1 h
    rw [snapshots_cons_of_isIdle hs, ih hss]

theorem Edit.getLast?_snapshots (h : Edit ss ts) :
    (snapshots ts).getLast? = (snapshots ss).getLast? := by
  cases h with
  | insert before behind s h =>
    rw [snapshots_append, snapshots_append, snapshots_cons_of_isIdle h]
  | delete before behind s h =>
    rw [snapshots_append, snapshots_append, snapshots_cons_of_isIdle h]
  | change before behind s s' h h' =>
    rw [snapshots_append, snapshots_append, snapshots_cons_of_isIdle h,
      snapshots_cons_of_isIdle h']
  | earlier before before' behind s h =>
    obtain ⟨d, hop, hstorage⟩ := exists_of_not_isIdle h
    rw [snapshots_append, snapshots_append, snapshots_cons hop hstorage,
      List.getLast?_append_of_ne_nil _ (List.cons_ne_nil _ _),
      List.getLast?_append_of_ne_nil _ (List.cons_ne_nil _ _)]

theorem getLast?_snapshots_of_edits (h : Relation.ReflTransGen Edit ss ts) :
    (snapshots ts).getLast? = (snapshots ss).getLast? := by
  induction h with
  | refl => rfl
  | tail _ hedit ih => exact hedit.getLast?_snapshots.trans ih

end TraceStep

namespace ExecutionTrace

def DecidedBy (t : ExecutionTrace) (d : Directory String) : Prop :=
  ∃ before s behind, t.steps = before ++ s :: behind ∧ s.op = "SLOAD" ∧ s.storage = some d ∧
    ∀ s ∈ behind, s.IsIdle

variable {t : ExecutionTrace} {d : Directory String}

theorem DecidedBy.lastSnapshot?_eq (h : t.DecidedBy d) : t.lastSnapshot? = some d := by
  obtain ⟨before, s, behind, hsteps, hop, hstorage, hbehind⟩ := h
  rw [ExecutionTrace.lastSnapshot?_eq, hsteps, TraceStep.snapshots_append,
    TraceStep.snapshots_cons hop hstorage, TraceStep.snapshots_eq_nil hbehind,
    List.getLast?_concat]

theorem loadedKeys_congr {t' : ExecutionTrace} (h : t'.lastSnapshot? = t.lastSnapshot?) :
    t'.loadedKeys = t.loadedKeys := by
  rw [loadedKeys, loadedKeys, h]

/-- **One snapshot decides.** Without a step that loads from storage and shows it there are no keys.
Otherwise the answer is that of the last such snapshot. And no edits of other steps, or of the steps
before one that shows its storage, make a difference. -/
theorem loadedKeys_decided (t : ExecutionTrace) :
    ((∀ s ∈ t.steps, s.IsIdle) → t.loadedKeys = .ok []) ∧
    (∀ d, t.DecidedBy d → d.Answers t.loadedKeys) ∧
    ∀ t' : ExecutionTrace, Relation.ReflTransGen TraceStep.Edit t.steps t'.steps →
      t'.loadedKeys = t.loadedKeys := by
  refine ⟨fun hidle => ?_, fun d hd => ?_, fun t' hedits => ?_⟩
  · rw [loadedKeys, lastSnapshot?_eq, TraceStep.snapshots_eq_nil hidle]
    rfl
  · rw [loadedKeys, hd.lastSnapshot?_eq]
    exact answers_mapM_readKey d
  · exact loadedKeys_congr (TraceStep.getLast?_snapshots_of_edits hedits)

def idleStep (op : String) : TraceStep where
  counter := 0
  op
  depth := 1
  storage := none

def muddledTrace : ExecutionTrace := { blank with
  steps := [loadAt 1 ["zz"], idleStep "SLOAD", loadAt 2 ["A", "0x2"], idleStep "STOP"] }

def plainTrace : ExecutionTrace := { blank with steps := [loadAt 2 ["A", "0x2"]] }

theorem loadedKeys_decided_sample :
    let d := Directory.ofList [("0x2", "0"), ("A", "0")]
    muddledTrace.DecidedBy d ∧ d.Answers muddledTrace.loadedKeys ∧
      muddledTrace.loadedKeys = .ok ([0x2, 0xa].map (FixedBytes.ofNat 32)) ∧
      Relation.ReflTransGen TraceStep.Edit muddledTrace.steps plainTrace.steps ∧
      plainTrace.loadedKeys = muddledTrace.loadedKeys ∧
      (∀ s ∈ [idleStep "SLOAD", idleStep "STOP"], s.IsIdle) ∧
      loadedKeys { blank with steps := [idleStep "SLOAD", idleStep "STOP"] } = .ok [] := by
  intro d
  have hidle : ∀ op, (idleStep op).IsIdle := fun op => .inr rfl
  have hdecided : muddledTrace.DecidedBy d :=
    ⟨[loadAt 1 ["zz"], idleStep "SLOAD"], loadAt 2 ["A", "0x2"], [idleStep "STOP"], rfl, rfl, rfl,
      List.forall_mem_singleton.2 (hidle "STOP")⟩
  have hload : ¬ (loadAt 2 ["A", "0x2"]).IsIdle := by
    rintro (h | h)
    · exact h rfl
    · cases h
  have hedits : Relation.ReflTransGen TraceStep.Edit muddledTrace.steps plainTrace.steps :=
    .tail (.single (.earlier [loadAt 1 ["zz"], idleStep "SLOAD"] [] [idleStep "STOP"] _ hload))
      (.delete [loadAt 2 ["A", "0x2"]] [] (idleStep "STOP") (hidle "STOP"))
  have hnone : ∀ s ∈ [idleStep "SLOAD", idleStep "STOP"], s.IsIdle :=
    List.forall_mem_cons.2 ⟨hidle _, List.forall_mem_singleton.2 (hidle _)⟩
  obtain ⟨-, hanswers, hkept⟩ := loadedKeys_decided muddledTrace
  exact ⟨hdecided, hanswers d hdecided, by rfl, hedits, hkept plainTrace hedits, hnone,
    (loadedKeys_decided { blank with steps := [idleStep "SLOAD", idleStep "STOP"] }).1 hnone⟩

end ExecutionTrace

end SellProbe
