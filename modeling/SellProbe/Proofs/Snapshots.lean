import SellProbe.Proofs.Collecting
import SellProbe.Session.Trace

/-!
# Which keys a trace tells of

A trace shows the storage of whatever contract runs at a step, and the keys that count as loaded are
those of its last snapshot. The contract that the transaction itself calls runs at depth one. If its
snapshots are cumulative, then the keys hold all that it has loaded exactly when the last snapshot,
whoever's it is, has the keys of its own last one (`loadedKeys_cover_iff`): so when the last
snapshot is its own, and not always when another contract has loaded something since
(`exists_missed_key`).
-/

namespace SellProbe

/-- Every key of a snapshot is also one of the other, if perhaps in another spelling. -/
def Covers (larger smaller : Directory String) : Prop :=
  ∀ key ∈ smaller.names, ∃ key' ∈ larger.names, Hash.ofHex? key' = Hash.ofHex? key

theorem Covers.refl (d : Directory String) : Covers d d := fun key hkey => ⟨key, hkey, rfl⟩

theorem Covers.trans {d e f : Directory String} (hde : Covers d e) (hef : Covers e f) :
    Covers d f := by
  intro key hkey
  obtain ⟨key', hkey', hsame'⟩ := hef key hkey
  obtain ⟨key'', hkey'', hsame''⟩ := hde key' hkey'
  exact ⟨key'', hkey'', hsame''.trans hsame'⟩

def Directory.IsWithin (d : Directory String) (keys : List Hash) : Prop :=
  ∀ key ∈ d.names, ∃ h ∈ keys, Hash.ofHex? key = some h

namespace TraceStep

def snapshots (steps : List TraceStep) : List (Directory String) :=
  (steps.filter fun s => s.op == "SLOAD").filterMap (·.storage)

theorem snapshots_append (ss ts : List TraceStep) :
    snapshots (ss ++ ts) = snapshots ss ++ snapshots ts := by
  rw [snapshots, List.filter_append, List.filterMap_append, ← snapshots, ← snapshots]

theorem snapshots_cons {s : TraceStep} {d : Directory String} (hop : s.op = "SLOAD")
    (hstorage : s.storage = some d) (ss : List TraceStep) :
    snapshots (s :: ss) = d :: snapshots ss := by
  have hload : (s.op == "SLOAD") = true := beq_iff_eq.2 hop
  rw [snapshots, List.filter_cons, if_pos hload, List.filterMap_cons_some hstorage, ← snapshots]

end TraceStep

namespace ExecutionTrace

variable {t : ExecutionTrace} {keys : List Hash}

/-- The steps of the contract that the transaction calls. -/
def ownSteps (t : ExecutionTrace) : List TraceStep := t.steps.filter fun s => s.depth == 1

/-- The snapshots at the loads of the contract that the transaction calls. -/
def ownSnapshots (t : ExecutionTrace) : List (Directory String) := TraceStep.snapshots t.ownSteps

/-- Each of these snapshots has the keys of those before it. -/
def IsCumulative (t : ExecutionTrace) : Prop :=
  t.ownSnapshots.Pairwise fun earlier later => Covers later earlier

/-- The contract that the transaction calls has the last snapshot of all. -/
def EndsOwn (t : ExecutionTrace) : Prop :=
  ∃ before step behind, t.steps = before ++ step :: behind ∧ step.op = "SLOAD" ∧ step.depth = 1 ∧
    step.storage.isSome = true ∧ TraceStep.snapshots behind = []

/-! ## The last snapshot -/

theorem lastSnapshot?_eq (t : ExecutionTrace) :
    t.lastSnapshot? = (TraceStep.snapshots t.steps).getLast? := rfl

theorem EndsOwn.getLast?_ownSnapshots (h : t.EndsOwn) :
    t.ownSnapshots.getLast? = t.lastSnapshot? := by
  obtain ⟨before, step, behind, hsteps, hop, hdepth, hsome, hbehind⟩ := h
  obtain ⟨d, hstorage⟩ := Option.isSome_iff_exists.1 hsome
  have hown : t.ownSteps = before.filter (fun s => s.depth == 1) ++
      step :: behind.filter (fun s => s.depth == 1) := by
    rw [ownSteps, hsteps, List.filter_append, List.filter_cons, if_pos (beq_iff_eq.2 hdepth)]
  -- No step behind shows storage, so neither does one of the same contract.
  have hnone : TraceStep.snapshots (behind.filter fun s => s.depth == 1) = [] := by
    rw [TraceStep.snapshots, List.filterMap_eq_nil_iff] at hbehind ⊢
    intro s hs
    obtain ⟨hmem, hload⟩ := List.mem_filter.1 hs
    exact hbehind s (List.mem_filter.2 ⟨(List.mem_filter.1 hmem).1, hload⟩)
  rw [lastSnapshot?_eq, ownSnapshots, hown, hsteps, TraceStep.snapshots_append,
    TraceStep.snapshots_append, TraceStep.snapshots_cons hop hstorage,
    TraceStep.snapshots_cons hop hstorage, hnone, hbehind, List.getLast?_concat,
    List.getLast?_concat]

/-- The last snapshot of the called contract has the keys of all of them. -/
theorem IsCumulative.covers (h : t.IsCumulative) {last : Directory String}
    (hlast : t.ownSnapshots.getLast? = some last) : ∀ d ∈ t.ownSnapshots, Covers last d := by
  obtain ⟨before, hsplit⟩ := List.getLast?_eq_some_iff.1 hlast
  rw [IsCumulative, hsplit] at h
  intro d hd
  rw [hsplit] at hd
  rcases List.mem_append.1 hd with hd | hd
  · exact (List.pairwise_append.1 h).2.2 d hd last (List.mem_singleton_self last)
  · rw [List.mem_singleton.1 hd]
    exact Covers.refl last

/-! ## The keys -/

theorem readKey_eq_ok_iff {key : String} {h : Hash} :
    readKey key = .ok h ↔ Hash.ofHex? key = some h := by
  unfold readKey
  cases Hash.ofHex? key with
  | some h' => simp
  | none => simp

theorem mapM_readKey_eq_ok {names : List String} (h : names.mapM readKey = .ok keys) :
    names.map Hash.ofHex? = keys.map some := by
  have heach : List.Forall₂ (fun name key => Hash.ofHex? name = some key) names keys :=
    (mapM_eq_ok_iff.1 h).imp fun name key => readKey_eq_ok_iff.1
  rwa [← List.forall₂_eq_eq_eq, List.forall₂_map_left_iff, List.forall₂_map_right_iff]

/-- The keys that count as loaded are those of the last snapshot, in its order. -/
theorem map_names_of_loadedKeys (hkeys : t.loadedKeys = .ok keys) {last : Directory String}
    (hlast : t.lastSnapshot? = some last) : last.names.map Hash.ofHex? = keys.map some := by
  rw [loadedKeys, hlast] at hkeys
  exact mapM_readKey_eq_ok hkeys

/-- A snapshot is within the keys that count as loaded if the last one covers it. -/
theorem isWithin_loadedKeys_iff (hkeys : t.loadedKeys = .ok keys) {last d : Directory String}
    (hlast : t.lastSnapshot? = some last) : d.IsWithin keys ↔ Covers last d := by
  have hnames := map_names_of_loadedKeys hkeys hlast
  constructor
  · intro hd key hkey
    obtain ⟨h, hmem, hdenotes⟩ := hd key hkey
    have hsome : some h ∈ last.names.map Hash.ofHex? := by
      rw [hnames]
      exact List.mem_map_of_mem hmem
    obtain ⟨key', hkey', hsame⟩ := List.mem_map.1 hsome
    exact ⟨key', hkey', hsame.trans hdenotes.symm⟩
  · intro hd key hkey
    obtain ⟨key', hkey', hsame⟩ := hd key hkey
    have hread : Hash.ofHex? key' ∈ keys.map some := by
      rw [← hnames]
      exact List.mem_map_of_mem hkey'
    obtain ⟨h, hmem, hdenotes⟩ := List.mem_map.1 hread
    exact ⟨h, hmem, hsame.symm.trans hdenotes.symm⟩

theorem exists_lastSnapshot?_of_mem {d : Directory String} (hd : d ∈ t.ownSnapshots) :
    ∃ last, t.lastSnapshot? = some last := by
  have hmem : d ∈ TraceStep.snapshots t.steps := by
    obtain ⟨s, hs, hstorage⟩ := List.mem_filterMap.1 hd
    obtain ⟨hown, hload⟩ := List.mem_filter.1 hs
    have hstep : s ∈ t.steps := (List.mem_filter.1 hown).1
    exact List.mem_filterMap.2 ⟨s, List.mem_filter.2 ⟨hstep, hload⟩, hstorage⟩
  rw [lastSnapshot?_eq]
  exact ⟨_, List.getLast?_eq_some_getLast (List.ne_nil_of_mem hmem)⟩

/-- **Whether the keys of a trace miss none.** In a trace in which the snapshots of the called
contract are cumulative, the keys that count as loaded have every key of each of them just when the
last snapshot of all covers the last of them. So they do when the called contract has the last
snapshot of all, whatever other contracts have loaded before. -/
theorem loadedKeys_cover_iff (hcumulative : t.IsCumulative) (hkeys : t.loadedKeys = .ok keys) :
    ((∀ d ∈ t.ownSnapshots, d.IsWithin keys) ↔
      ∀ last own, t.lastSnapshot? = some last → t.ownSnapshots.getLast? = some own →
        Covers last own) ∧
    (t.EndsOwn → ∀ d ∈ t.ownSnapshots, d.IsWithin keys) := by
  have hiff : (∀ d ∈ t.ownSnapshots, d.IsWithin keys) ↔
      ∀ last own, t.lastSnapshot? = some last → t.ownSnapshots.getLast? = some own →
        Covers last own := by
    constructor
    · intro hall last own hlast hown
      exact (isWithin_loadedKeys_iff hkeys hlast).1 (hall own (List.mem_of_getLast? hown))
    · intro hcovers d hd
      obtain ⟨last, hlast⟩ := exists_lastSnapshot?_of_mem hd
      obtain ⟨own, hown⟩ : ∃ own, t.ownSnapshots.getLast? = some own :=
        ⟨_, List.getLast?_eq_some_getLast (List.ne_nil_of_mem hd)⟩
      have hlater : Covers last own := hcovers last own hlast hown
      exact (isWithin_loadedKeys_iff hkeys hlast).2 (hlater.trans (hcumulative.covers hown d hd))
  refine ⟨hiff, fun hends => hiff.2 fun last own hlast hown => ?_⟩
  rw [hends.getLast?_ownSnapshots, hlast] at hown
  cases hown
  exact Covers.refl last

def loadAt (depth : UInt64) (keys : List String) : TraceStep where
  counter := 0
  op := "SLOAD"
  depth
  storage := some (Directory.ofList (keys.map (·, "0")))

/-- The called contract loads its first key, another contract one of its own, and the called
contract its second key. -/
def resumedTrace : ExecutionTrace :=
  { blank with steps := [loadAt 1 ["1"], loadAt 2 ["7"], loadAt 1 ["1", "2"]] }

theorem loadedKeys_cover_iff_resumed :
    let keys : List Hash := [FixedBytes.ofNat 32 1, FixedBytes.ofNat 32 2]
    resumedTrace.IsCumulative ∧ resumedTrace.loadedKeys = .ok keys ∧ resumedTrace.EndsOwn ∧
      ∀ d ∈ resumedTrace.ownSnapshots, d.IsWithin keys := by
  intro keys
  have hcumulative : resumedTrace.IsCumulative := by
    refine List.pairwise_pair.2 fun key hkey => ⟨key, ?_, rfl⟩
    obtain rfl : key = "1" := List.mem_singleton.1 hkey
    decide
  have hkeys : resumedTrace.loadedKeys = .ok keys := by rfl
  have hends : resumedTrace.EndsOwn :=
    ⟨[loadAt 1 ["1"], loadAt 2 ["7"]], loadAt 1 ["1", "2"], [], rfl, rfl, rfl, rfl, rfl⟩
  exact ⟨hcumulative, hkeys, hends, (loadedKeys_cover_iff hcumulative hkeys).2 hends⟩

/-- The called contract loads a key, and then another contract loads one of its own. -/
def interruptedTrace : ExecutionTrace :=
  { blank with steps := [loadAt 1 ["1"], loadAt 2 ["2"]] }

/-- What the called contract has loaded is missed when another contract loads something later. -/
theorem exists_missed_key :
    ¬ ∀ (t : ExecutionTrace) (keys : List Hash), t.IsCumulative → t.loadedKeys = .ok keys →
      ∀ d ∈ t.ownSnapshots, d.IsWithin keys := by
  intro hclaim
  have hcumulative : interruptedTrace.IsCumulative := List.pairwise_singleton _ _
  have hkeys : interruptedTrace.loadedKeys = .ok [FixedBytes.ofNat 32 2] := by rfl
  have hown : Directory.ofList [("1", "0")] ∈ interruptedTrace.ownSnapshots := List.mem_cons_self
  obtain ⟨h, hmem, hdenotes⟩ := hclaim interruptedTrace _ hcumulative hkeys _ hown "1" (by decide)
  rw [List.mem_singleton.1 hmem] at hdenotes
  revert hdenotes
  decide

end ExecutionTrace

end SellProbe
