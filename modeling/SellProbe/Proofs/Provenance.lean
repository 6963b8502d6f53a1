import SellProbe.Proofs.Records

/-!
# Where a registry comes from

A registry is made of profiles, which all the ways to load one do under the names of the profiles,
except one: the record of a registry has keys of its own, and a profile stays under its key whatever
its name is. Overrides change neither. So what a registry answers for a name is a profile of that
name, after any overrides, unless it comes from a record that says otherwise (`name_of_get_iff`,
`exists_misnamed_network`).
-/

namespace SellProbe.Registry

/-! ## Ways to a registry -/

/-- The ways to come by a registry. -/
inductive Origin
  | profiles (ps : List Profile)
  | builtin
  /-- The text of a list of profiles. -/
  | list (text : String)
  /-- A file with such a list, if it is there. -/
  | file (content : Option Bytes)
  /-- The text of the record of a registry. -/
  | record (text : String)

def Origin.build? : Origin → Option Registry
  | .profiles ps => some (ofProfiles ps)
  | .builtin => some Registry.builtin
  | .list text => (load text).toOption
  | .file content => (loadFile content).toOption
  | .record text => (Json.parse? text).bind ofJson?

inductive Override
  | table (lookup : String → Option String)
  | environment (env : Environment)

def Override.apply (r : Registry) : Override → Registry
  | .table lookup => r.overrideRpc lookup
  | .environment env => r.overrideFromEnvironment env

/-- Every profile stands under its own name. -/
def IsNamed (r : Registry) : Prop := ∀ n p, r.networks.get? n = some p → p.name = n

/-! ## Overrides -/

theorem isNamed_overrideRpc {r : Registry} {f : String → Option String} :
    (r.overrideRpc f).IsNamed ↔ r.IsNamed := by
  constructor
  · intro h n p hp
    exact h n { p with rpc := (f n).getD p.rpc } (by rw [get?_overrideRpc, hp]; rfl)
  · intro h n p hp
    rw [get?_overrideRpc] at hp
    obtain ⟨q, hq, rfl⟩ := Option.map_eq_some_iff.1 hp
    exact h n q hq

theorem isNamed_apply {r : Registry} (o : Override) : (o.apply r).IsNamed ↔ r.IsNamed := by
  cases o <;> exact isNamed_overrideRpc

theorem isNamed_foldl_apply (r : Registry) (os : List Override) :
    (os.foldl Override.apply r).IsNamed ↔ r.IsNamed := by
  induction os generalizing r with
  | nil => rfl
  | cons o os ih => rw [List.foldl_cons, ih, isNamed_apply]

theorem name_of_get {r : Registry} (hr : r.IsNamed) {n : String} {p : Profile}
    (hp : r.get n = .ok p) : p.name = n := by
  refine hr n p ?_
  rw [get] at hp
  split at hp
  next => cases hp
  next q hq =>
    split at hp
    next => cases hp
    next => exact (Except.ok.inj hp) ▸ hq

/-- Whoever can set an RPC address for every network can look at every profile. -/
theorem isNamed_of_get {r : Registry}
    (h : ∀ n p, (r.overrideRpc fun _ => some "rpc").get n = .ok p → p.name = n) : r.IsNamed := by
  intro n p hp
  have hget : (r.overrideRpc fun _ => some "rpc").get n = .ok { p with rpc := "rpc" } := by
    rw [get, get?_overrideRpc, hp]
    rfl
  exact h n { p with rpc := "rpc" } hget

/-! ## Origins -/

theorem isNamed_ofProfiles (ps : List Profile) : (ofProfiles ps).IsNamed := by
  intro n p hp
  rw [get?_ofProfiles] at hp
  have hmem := List.mem_of_getLast? hp
  exact of_decide_eq_true (List.mem_filter.1 hmem).2

theorem isNamed_of_load {text : String} {r : Registry} (h : (load text).toOption = some r) :
    r.IsNamed := by
  rw [load] at h
  split at h
  next ps _ =>
    cases h
    exact isNamed_ofProfiles ps
  next => cases h

theorem isNamed_of_loadFile {content : Option Bytes} {r : Registry}
    (h : (loadFile content).toOption = some r) : r.IsNamed := by
  rw [loadFile] at h
  split at h
  next text _ => exact isNamed_of_load h
  next => cases h

/-- The profiles in the record of a registry, with the keys that they are written under. -/
def entries? (j : Json) : Option (List (String × Profile)) := do
  let [networks] ← j.fields? ["networks"] | none
  Json.required? (Json.members? Profile.ofJson?) networks

theorem ofJson?_eq (j : Json) : ofJson? j = (entries? j).map fun es => ⟨Directory.ofList es⟩ := by
  rw [ofJson?, entries?]
  cases j.fields? ["networks"] with
  | none => rfl
  | some fields =>
    rcases fields with _ | ⟨networks, _ | ⟨other, rest⟩⟩
    · rfl
    · exact Option.map_eq_bind.symm
    · rfl

def writtenEntries? (text : String) : Option (List (String × Profile)) :=
  (Json.parse? text).bind entries?

theorem build?_record (text : String) :
    (Origin.record text).build? = (writtenEntries? text).map fun es => ⟨Directory.ofList es⟩ := by
  rw [Origin.build?, writtenEntries?, Option.map_bind]
  congr 1
  funext j
  exact ofJson?_eq j

theorem isNamed_ofList_iff {es : List (String × Profile)} :
    (Registry.mk (Directory.ofList es)).IsNamed ↔
      ∀ n e, (es.filter (·.1 = n)).getLast? = some e → e.2.name = n := by
  refine forall_congr' fun n => ?_
  rw [Directory.get?_ofList]
  constructor
  · intro h e he
    exact h e.2 (by rw [he]; rfl)
  · intro h p hp
    obtain ⟨e, he, rfl⟩ := Option.map_eq_some_iff.1 hp
    exact h e he

/-- The last profile under a key has the key for its name, if the keys come from a text. -/
def Origin.NamesKeys : Origin → Prop
  | .record text => ∀ es, writtenEntries? text = some es →
      ∀ n e, (es.filter (·.1 = n)).getLast? = some e → e.2.name = n
  | _ => True

theorem Origin.isNamed_iff (o : Origin) : (∀ r, o.build? = some r → r.IsNamed) ↔ o.NamesKeys := by
  cases o with
  | record text =>
    rw [build?_record]
    constructor
    · intro h es hes
      exact isNamed_ofList_iff.1 (h _ (by rw [hes]; rfl))
    · intro h r hr
      obtain ⟨es, hes, rfl⟩ := Option.map_eq_some_iff.1 hr
      exact isNamed_ofList_iff.2 (h es hes)
  | profiles ps =>
    refine iff_of_true ?_ trivial
    rintro r ⟨⟩
    exact isNamed_ofProfiles ps
  | builtin =>
    refine iff_of_true ?_ trivial
    rintro r ⟨⟩
    exact isNamed_ofProfiles _
  | list text => exact iff_of_true (fun r hr => isNamed_of_load hr) trivial
  | file content => exact iff_of_true (fun r hr => isNamed_of_loadFile hr) trivial

/-- **When a name leads to the profile of that name.** A registry from profiles, from the built-in
table, or from a list of profiles in a text or a file has under every name a profile of that name,
whatever overrides follow. A registry from the record of a registry has so exactly if the last
profile under each key of the record is of that name. -/
theorem name_of_get_iff (o : Origin) :
    (∀ (r : Registry) (os : List Override) (n : String) (p : Profile), o.build? = some r →
      (os.foldl Override.apply r).get n = .ok p → p.name = n) ↔ o.NamesKeys := by
  rw [← o.isNamed_iff]
  constructor
  · intro h r hr
    exact isNamed_of_get fun n p => h r [.table fun _ => some "rpc"] n p hr
  · intro h r os n p hr
    exact name_of_get ((isNamed_foldl_apply r os).2 (h r hr))

def misnamed : Registry where
  networks := Directory.ofList [("a", {
    name := "b"
    chainId := 1
    rpc := "http://x"
    wrappedNative := FixedBytes.ofNat 20 6
    router := FixedBytes.ofNat 20 7
    factory := FixedBytes.ofNat 20 8
    burnAddresses := []
    lockers := Directory.empty })]

/-- The text of a record can have a profile under the name of another network. -/
theorem exists_misnamed_network :
    ¬ ∀ (o : Origin) (r : Registry) (os : List Override) (n : String) (p : Profile),
      o.build? = some r → (os.foldl Override.apply r).get n = .ok p → p.name = n := by
  intro hclaim
  have hread : (Origin.record misnamed.toJson.print).build? = some misnamed :=
    restores.parse?_bind misnamed
  have hname := hclaim _ misnamed [] "a" _ hread rfl
  exact absurd hname (by decide)

end SellProbe.Registry
