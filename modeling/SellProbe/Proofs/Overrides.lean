import Mathlib.Data.List.Induction
import SellProbe.Network.Registry
import SellProbe.Proofs.ByteOrder

/-!
# What a registry holds

A registry is made of a list of profiles, of which the last with a name counts, and its RPC
addresses may then be overridden any number of times. What it holds under a name is known from the
list and the overrides alone: the last profile of that name, with the last RPC address that an
override has for it (`get_overridden`). Overrides leave all else as it is.
-/

namespace SellProbe

namespace Directory

variable {α β : Type}

/-! ## Entries -/

theorem find?_insertEntry (name n : String) (v : α) (es : List (String × α)) :
    (insertEntry name v es).find? (·.1 == n) =
      if name = n then some (name, v) else es.find? (·.1 == n) := by
  induction es with
  | nil => by_cases h : name = n <;> simp [insertEntry, h]
  | cons e es ih =>
    obtain ⟨m, w⟩ := e
    rw [insertEntry]
    split
    · by_cases h : name = n <;> simp [h]
    · split
      next heq =>
        subst heq
        by_cases h : name = n <;> simp [h]
      next hne =>
        by_cases h : m = n
        · subst h
          simp [hne]
        · simp [h, ih]

theorem get?_insert (d : Directory α) (name n : String) (v : α) :
    (d.insert name v).get? n = if name = n then some v else d.get? n := by
  rw [get?, insert, find?_insertEntry]
  split <;> rfl

theorem ofList_concat (es : List (String × α)) (e : String × α) :
    ofList (es ++ [e]) = (ofList es).insert e.1 e.2 := by
  rw [ofList, List.foldl_append]
  rfl

/-- A directory holds the last value that its list has under a name. -/
theorem get?_ofList (es : List (String × α)) (n : String) :
    (ofList es).get? n = ((es.filter (·.1 = n)).getLast?).map Prod.snd := by
  induction es using List.reverseRecOn with
  | nil => rfl
  | append_singleton es e ih =>
    rw [ofList_concat, get?_insert, ih, List.filter_append]
    by_cases h : e.1 = n
    · simp [h]
    · simp [h]

theorem mem_names_iff {d : Directory α} {n : String} : n ∈ d.names ↔ (d.get? n).isSome = true := by
  simp [names, get?]

theorem names_mapWithName (f : String → α → β) (d : Directory α) :
    (d.mapWithName f).names = d.names := by
  simp [names, mapWithName, Function.comp_def]

theorem get?_mapWithName (f : String → α → β) (d : Directory α) (n : String) :
    (d.mapWithName f).get? n = (d.get? n).map (f n) := by
  simp only [get?, mapWithName, List.find?_map, Function.comp_def, Option.map_map]
  refine Option.map_congr fun e he => ?_
  have hname := List.find?_some he
  rw [← beq_iff_eq.1 hname]

/-- Names are in the order of their bytes, each once. -/
theorem names_increasing (d : Directory α) :
    d.names.Pairwise fun m n => Utf8.encode m < Utf8.encode n :=
  List.pairwise_map.2 (d.increasing.imp Utf8.encode_lt_encode_iff.2)

end Directory

namespace Registry

/-! ## Overrides -/

theorem get?_overrideRpc (r : Registry) (f : String → Option String) (n : String) :
    (r.overrideRpc f).networks.get? n =
      (r.networks.get? n).map fun p => { p with rpc := (f n).getD p.rpc } := by
  rw [overrideRpc, Directory.get?_mapWithName]
  congr 1
  funext p
  cases f n <;> rfl

theorem names_overrideRpc (r : Registry) (f : String → Option String) :
    (r.overrideRpc f).names = r.names :=
  Directory.names_mapWithName _ _

/-- After some overrides a network has the last RPC address that one of them has for it. -/
theorem get?_overridden (r : Registry) (fs : List (String → Option String)) (n : String) :
    (fs.foldl overrideRpc r).networks.get? n =
      (r.networks.get? n).map fun p =>
        { p with rpc := ((fs.filterMap fun f => f n).getLast?).getD p.rpc } := by
  induction fs using List.reverseRecOn with
  | nil => simp
  | append_singleton fs f ih =>
    rw [List.foldl_append, List.foldl_cons, List.foldl_nil, get?_overrideRpc, ih,
      List.filterMap_append, Option.map_map]
    congr 1
    funext p
    cases hf : f n <;> simp [hf]

theorem get?_ofProfiles (ps : List Profile) (n : String) :
    (ofProfiles ps).networks.get? n = (ps.filter (·.name = n)).getLast? := by
  rw [ofProfiles, Directory.get?_ofList, List.filter_map, List.getLast?_map, Option.map_map]
  exact Option.map_id'

/-- **What a registry holds after any overrides.** Its names are those of the profiles, each once,
in the order of their bytes. Under a name it has the last profile of that name, with the RPC address
of the last override that has one for it; without an RPC address the network cannot be used. An
override adds and drops no name, leaves the networks that it has no RPC address for, and changes
nothing but the RPC address of the others. -/
theorem get_overridden (ps : List Profile) (fs : List (String → Option String)) :
    let r := fs.foldl overrideRpc (ofProfiles ps)
    (r.names.Pairwise fun m n => Utf8.encode m < Utf8.encode n) ∧
    (∀ n, n ∈ r.names ↔ ∃ p ∈ ps, p.name = n) ∧
    (∀ n, r.get n = match (ps.filter (·.name = n)).getLast? with
      | none => .error (.unknown n)
      | some p =>
        let rpc := ((fs.filterMap fun f => f n).getLast?).getD p.rpc
        if rpc = "" then .error (.withoutRpc n) else .ok { p with rpc }) ∧
    ∀ (r' : Registry) (f : String → Option String), (r'.overrideRpc f).names = r'.names ∧
      ∀ n, (f n = none → (r'.overrideRpc f).networks.get? n = r'.networks.get? n) ∧
        ∀ rpc, f n = some rpc →
          (r'.overrideRpc f).networks.get? n = (r'.networks.get? n).map ({ · with rpc }) := by
  intro r
  have hheld : ∀ n, r.networks.get? n = ((ps.filter (·.name = n)).getLast?).map fun p =>
      { p with rpc := ((fs.filterMap fun f => f n).getLast?).getD p.rpc } := fun n => by
    rw [get?_overridden, get?_ofProfiles]
  refine ⟨r.networks.names_increasing, fun n => ?_, fun n => ?_, fun r' f => ?_⟩
  · rw [names, Directory.mem_names_iff, hheld]
    simp
  · rw [get, hheld]
    cases (ps.filter (·.name = n)).getLast? <;> simp
  · refine ⟨names_overrideRpc r' f, fun n => ⟨fun hf => ?_, fun rpc hf => ?_⟩⟩
    · rw [get?_overrideRpc, hf]
      simp
    · rw [get?_overrideRpc, hf]
      rfl

end Registry

end SellProbe
