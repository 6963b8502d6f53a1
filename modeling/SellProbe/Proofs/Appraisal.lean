import SellProbe.Proofs.Mapping
import SellProbe.Proofs.Ownership

/-!
# What is found out before a pair is made

A token without a pair gets one in two parts. The first only looks: a survey finds out which
mappings hold the sentinel's balance, and the supply is read. A survey that succeeds has asked for
all that it knows (`path_survey_iff`), nothing in the first part is done for the pair
(`asksOnly_appraise`), and only where it succeeds does the second part begin (`path_of_provide`).
-/

namespace SellProbe

/-- The requests by which a pair is made: a write, an approval, or liquidity, whoever asks. -/
inductive Request.IsProvision : Request → Prop
  | write (address : Address) (slot : Hash) (value : Word) :
      IsProvision (.setStorage address slot value)
  | approval (tx : Transaction) (spender : Address) (amount : Word)
      (asks : tx.data =
        Contents.calling "approve(address,uint256)" [.address spender, .uint amount]) :
      IsProvision (.send tx)
  | liquidity (tx : Transaction) (token : Address) (amount least leastNative : Word)
      (recipient : Address) (deadline : Word)
      (asks : tx.data =
        Contents.calling "addLiquidityETH(address,uint256,uint256,uint256,address,uint256)"
          [.address token, .uint amount, .uint least, .uint leastNative, .address recipient,
            .uint deadline]) :
      IsProvision (.send tx)

namespace Liquidity

open Program

variable {box : Sandbox} {profile : Profile} {config : Config} {token : Token}
  {address sentinel : Address} {es : List Event}

/-! ## The survey -/

/-- The code that is scanned: that of the implementation for a minimal proxy. -/
def scanned (code implementation : Bytes) : Bytes :=
  match Bytecode.proxyTarget? code with
  | some _ => implementation
  | none => code

def codeEvents (address : Address) (code implementation : Bytes) : List Event :=
  .asked (.code address) (.value code) ::
    match Bytecode.proxyTarget? code with
    | some target => [.asked (.code target) (.value implementation)]
    | none => []

structure Survey where
  code : Bytes
  code_ne_nil : code ≠ []
  implementation : Bytes
  /-- The receipt of the reading of a balance that is traced. -/
  probed : Receipt
  trace : ExecutionTrace
  keys : List Hash
  loaded : trace.loadedKeys = .ok keys

namespace Survey

def candidates (s : Survey) : List Hash := (Bytecode.scan (scanned s.code s.implementation)).slots

def events (s : Survey) (sentinel address : Address) : List Event :=
  .asked (.unlock sentinel) (.value ()) :: (codeEvents address s.code s.implementation ++
    [Event.sent (Contents.balanceProbe address sentinel) s.probed,
      .asked (.trace s.probed.hash) (.value s.trace)])

/-- Where the token keeps the sentinel's balance, as far as the trace tells. -/
def discovery (s : Survey) (sentinel : Address) : Storage.Discovery :=
  .ofKeys sentinel s.candidates s.keys

def read (s : Survey) (sentinel : Address) : List Hash :=
  Storage.readMappings sentinel s.candidates s.keys

end Survey

/-- The first part: where the token keeps the sentinel's balance. -/
def survey (sentinel address : Address) : Session Storage.Discovery := do
  unlock sentinel
  let scan ← Storage.scanTarget address
  Storage.discover sentinel address scan

/-- The first two parts: what the survey has found, the slot to write to, and the supply that is
reported. -/
def appraise (sentinel address : Address) : Session (Storage.Discovery × Hash × Word) := do
  let discovery ← survey sentinel address
  let slot ← Program.ofExcept (slotOf discovery)
  let reported ← Erc20.totalSupply address
  return (discovery, slot, reported)

/-- The third part: the sentinel's balance is written, and a quarter of the supply goes into a new
pair. -/
def seed (box : Sandbox) (profile : Profile) (config : Config) (token : Token)
    (discovery : Storage.Discovery) (slot : Hash) (reported : Word) : Session Report := do
  let totalSupply ← supplyOf config token reported
  let seeded ← Program.ofExcept (seedOf discovery (totalSupply / 2) totalSupply)
  setStorage token.address slot seeded
  let _ ← Erc20.approve { account := box.sentinel } token.address profile.router Word.largest
  let _ ← Exchange.addLiquidity
    { account := box.sentinel, value := some config.liquidityValue } profile.router token.address
    (totalSupply / 4) box.sentinel (config.deadline (box.clock .bootstrap))
  let pair ← Exchange.getPair profile.factory token.address profile.wrappedNative
  if pair.isZero then Program.fail (.liquidity "par não criado após addLiquidityETH")
  else return { discovery, totalSupply, isSynthetic := reported = 0, seeded, pair }

theorem provide_eq :
    provide box profile config token = (do
      let found ← appraise box.sentinel token.address
      seed box profile config token found.1 found.2.1 found.2.2) := by
  simp only [provide, survey, appraise, seed, bind_assoc, pure_bind]

theorem path_scanTarget_iff {scan : Bytecode.Scan} :
    (Storage.scanTarget address).Path es (.value scan) ↔ ∃ code implementation, code ≠ [] ∧
      es = codeEvents address code implementation ∧
      scan = Bytecode.scan (scanned code implementation) := by
  unfold Storage.scanTarget codeEvents scanned
  constructor
  · intro h
    obtain ⟨code, es₁, es₂, rfl, h₁, h₂⟩ := h.of_bind_value
    obtain rfl := Path.of_request h₁
    split at h₂
    next => cases h₂
    next hcode =>
      have hne : code ≠ [] := by simpa using hcode
      cases hproxy : Bytecode.proxyTarget? code with
      | some target =>
        rw [hproxy] at h₂
        obtain ⟨implementation, es₃, es₄, rfl, h₃, h₄⟩ := h₂.of_bind_value
        obtain rfl := Path.of_request h₃
        cases h₄
        exact ⟨code, implementation, hne, by simp [hproxy], by simp [hproxy]⟩
      | none =>
        rw [hproxy] at h₂
        cases h₂
        exact ⟨code, [], hne, by simp [hproxy], by simp [hproxy]⟩
  · rintro ⟨code, implementation, hne, rfl, rfl⟩
    refine Path.bind (path_request (.code address) code) ?_
    rw [if_neg (by simpa using hne)]
    cases hproxy : Bytecode.proxyTarget? code with
    | some target => exact Path.bind (path_request (.code target) implementation) (.done _)
    | none => exact .done _

theorem path_usedSlots_iff {transaction : Hash} {keys : List Hash} :
    (Storage.usedSlots transaction).Path es (.value keys) ↔
      ∃ trace : ExecutionTrace, trace.loadedKeys = .ok keys ∧
        es = [.asked (.trace transaction) (.value trace)] := by
  unfold Storage.usedSlots
  constructor
  · intro h
    obtain ⟨trace, es₁, es₂, rfl, h₁, h₂⟩ := h.of_bind_value
    obtain rfl := Path.of_request h₁
    obtain ⟨rfl, hkeys⟩ := h₂.of_ofExcept
    exact ⟨trace, hkeys, rfl⟩
  · rintro ⟨trace, hkeys, rfl⟩
    refine Path.bind (path_request (.trace transaction) trace) ?_
    rw [hkeys]
    exact .done _

theorem path_discover_iff {scan : Bytecode.Scan} {discovery : Storage.Discovery} :
    (Storage.discover sentinel address scan).Path es (.value discovery) ↔
      ∃ (probed : Receipt) (trace : ExecutionTrace) (keys : List Hash),
        trace.loadedKeys = .ok keys ∧
        es = [.sent (Contents.balanceProbe address sentinel) probed,
          .asked (.trace probed.hash) (.value trace)] ∧
        discovery = .ofKeys sentinel scan.slots keys := by
  rw [Storage.discover, Storage.balanceProbeTx_eq]
  constructor
  · intro h
    obtain ⟨probed, es₁, es₂, rfl, h₁, h₂⟩ := h.of_bind_value
    obtain ⟨keys, es₃, es₄, rfl, h₃, h₄⟩ := h₂.of_bind_value
    obtain rfl := h₁.of_send
    obtain ⟨trace, hkeys, rfl⟩ := path_usedSlots_iff.1 h₃
    cases h₄
    exact ⟨probed, trace, keys, hkeys, rfl, rfl⟩
  · rintro ⟨probed, trace, keys, hkeys, rfl, rfl⟩
    refine Path.bind (path_request (.send _) probed) ?_
    exact Path.bind (path_usedSlots_iff.2 ⟨trace, hkeys, rfl⟩) (.done _)

/-- A survey that succeeds has asked what a survey asks, and has found what follows from that. -/
theorem path_survey_iff {discovery : Storage.Discovery} :
    (survey sentinel address).Path es (.value discovery) ↔
      ∃ s : Survey, es = s.events sentinel address ∧ discovery = s.discovery sentinel := by
  unfold survey
  constructor
  · intro h
    obtain ⟨_, es₁, es₂, rfl, h₁, h₂⟩ := h.of_bind_value
    obtain ⟨scan, es₃, es₄, rfl, h₃, h₄⟩ := h₂.of_bind_value
    obtain rfl := Path.of_request h₁
    obtain ⟨code, implementation, hne, rfl, rfl⟩ := path_scanTarget_iff.1 h₃
    obtain ⟨probed, trace, keys, hkeys, rfl, rfl⟩ := path_discover_iff.1 h₄
    exact ⟨⟨code, hne, implementation, probed, trace, keys, hkeys⟩, rfl, rfl⟩
  · rintro ⟨s, rfl, rfl⟩
    refine Path.bind (path_request (.unlock sentinel) ()) ?_
    refine Path.bind (path_scanTarget_iff.2 ⟨s.code, s.implementation, s.code_ne_nil, rfl, rfl⟩) ?_
    exact path_discover_iff.2 ⟨s.probed, s.trace, s.keys, s.loaded, rfl, rfl⟩

theorem slotOf_eq_ok {discovery : Storage.Discovery} {slot : Hash}
    (h : slotOf discovery = .ok slot) : discovery.balanceSlot? = some slot := by
  unfold slotOf at h
  split at h <;> cases h
  assumption

theorem path_of_appraise {found : Storage.Discovery × Hash × Word}
    (h : (appraise sentinel address).Path es (.value found)) :
    ∃ (s : Survey) (slot : Hash) (x : Reading Abi.readUint?),
      es = s.events sentinel address ++ [Event.called (Contents.totalSupply address) x] ∧
      (s.discovery sentinel).balanceSlot? = some slot ∧
      found = (s.discovery sentinel, slot, x.value) := by
  unfold appraise at h
  obtain ⟨discovery, es₁, es₂, rfl, h₁, h₂⟩ := h.of_bind_value
  obtain ⟨slot, es₃, es₄, rfl, h₃, h₄⟩ := h₂.of_bind_value
  obtain ⟨reported, es₅, es₆, rfl, h₅, h₆⟩ := h₄.of_bind_value
  obtain ⟨s, rfl, rfl⟩ := path_survey_iff.1 h₁
  obtain ⟨rfl, hslot⟩ := h₃.of_ofExcept
  obtain ⟨x, rfl, rfl⟩ := h₅.of_totalSupply
  cases h₆
  exact ⟨s, slot, x, rfl, slotOf_eq_ok hslot, rfl⟩

/-! ## Nothing is written too early -/

/-- The balance probe has fewer arguments than the transactions by which a pair is made. -/
theorem not_isProvision_balanceProbe (address owner : Address) :
    ¬ (Request.send (Contents.balanceProbe address owner)).IsProvision := by
  have hprobe : (Contents.balanceProbe address owner).data.length = 36 :=
    Contents.length_calling _ _
  intro h
  cases h with
  | approval _ spender amount asks =>
    rw [asks, Contents.length_calling] at hprobe
    cases hprobe
  | liquidity _ token amount least leastNative recipient deadline asks =>
    rw [asks, Contents.length_calling] at hprobe
    cases hprobe

theorem asksOnly_survey (sentinel address : Address) :
    (survey sentinel address).AsksOnly fun r => ¬ r.IsProvision := by
  rw [survey]
  simp only [Storage.discover, Storage.balanceProbeTx_eq]
  unfold Storage.scanTarget Storage.usedSlots
  have hcode (target : Address) : (Storage.codeAt target).AsksOnly fun r => ¬ r.IsProvision :=
    asksOnly_request (by rintro ⟨⟩)
  refine (asksOnly_request (by rintro ⟨⟩)).bind fun _ => AsksOnly.bind ?_ fun scan => ?_
  · refine (hcode address).bind fun code => ?_
    split
    · trivial
    · split
      · exact (hcode _).bind fun _ => trivial
      · trivial
  · refine (asksOnly_request (not_isProvision_balanceProbe _ _)).bind fun probed => ?_
    refine AsksOnly.bind ?_ fun _ => trivial
    exact (asksOnly_request (by rintro ⟨⟩)).bind fun trace => asksOnly_ofExcept _

theorem asksOnly_appraise (sentinel address : Address) :
    (appraise sentinel address).AsksOnly fun r => ¬ r.IsProvision := by
  unfold appraise
  refine (asksOnly_survey sentinel address).bind fun discovery => ?_
  refine (asksOnly_ofExcept _).bind fun slot => ?_
  exact (asksOnly_query (by rintro ⟨⟩)).bind fun _ => trivial

/-- Nothing has been done for a pair, and there is an error, or a panic of the other side. -/
structure EndsEarly (es : List Event) (o : Outcome ProbeError Report) : Prop where
  untouched : ∀ r ∈ Event.requests es, ¬ r.IsProvision
  fails : (∃ e, o = .error e) ∨
    ∃ before r t, es = before ++ [Event.asked r (.panic t)] ∧ o = .panic t

/-- A path either surveys, reads the supply and goes on to the seeding, or ends before. -/
theorem path_of_provide {o : Outcome ProbeError Report}
    (h : (provide box profile config token).Path es o) :
    (∃ (s : Survey) (slot : Hash) (x : Reading Abi.readUint?) (rest : List Event),
      es = s.events box.sentinel token.address ++
        Event.called (Contents.totalSupply token.address) x :: rest ∧
      (s.discovery box.sentinel).balanceSlot? = some slot ∧
      (seed box profile config token (s.discovery box.sentinel) slot x.value).Path rest o ∧
      ∀ r ∈ Event.requests es, r.IsProvision → r ∈ Event.requests rest) ∨
    EndsEarly es o := by
  have hasks := asksOnly_appraise box.sentinel token.address
  rw [provide_eq] at h
  rcases h.of_bind with ⟨found, es₁, rest, rfl, hfound, hseed⟩ | ⟨e, rfl, hfound⟩ |
    ⟨t, rfl, hfound⟩
  · refine .inl ?_
    have hearly := hasks.mem hfound
    obtain ⟨s, slot, x, rfl, hslot, rfl⟩ := path_of_appraise hfound
    refine ⟨s, slot, x, rest, by simp, hslot, hseed, fun r hr hprovision => ?_⟩
    rw [Event.requests_append] at hr
    exact (List.mem_append.1 hr).resolve_left fun hr => hearly r hr hprovision
  · exact .inr ⟨hasks.mem hfound, .inl ⟨e, rfl⟩⟩
  · obtain ⟨before, r, hes, -⟩ := hasks.ends_at_panic hfound
    exact .inr ⟨hasks.mem hfound, .inr ⟨before, r, t, hes, rfl⟩⟩

end Liquidity

end SellProbe
