import SellProbe.Proofs.HexReading
import SellProbe.Proofs.Seeding
import SellProbe.Proofs.Snapshots
import SellProbe.Proofs.WordArithmetic

/-!
# When making a pair panics

A token that reports no supply is taken to have a number of whole tokens that the settings name, in
its own smallest units. This is the only reckoning that can fail without an error. So a pair is
made, or refused with an error, on every chain that does not panic itself if and only if that
product is a word (`provide_ends_iff`), and it is not one for a token of enough places
(`exists_overflowing_token`).
-/

namespace SellProbe

def Config.syntheticNat (c : Config) (places : UInt8) : Nat :=
  c.syntheticSupplyUnits.toNat * 10 ^ places.toNat

theorem Config.syntheticSupply?_eq_some_iff {c : Config} {places : UInt8} {supply : Word} :
    c.syntheticSupply? places = some supply ↔
      places.toNat ≤ 77 ∧ supply.toNat = c.syntheticNat places := by
  have hunits : (BitVec.ofNat 256 c.syntheticSupplyUnits.toNat).toNat =
      c.syntheticSupplyUnits.toNat := by
    have hlt : c.syntheticSupplyUnits.toNat < 2 ^ 64 := c.syntheticSupplyUnits.toNat_lt
    rw [BitVec.toNat_ofNat]
    omega
  rw [syntheticSupply?, Option.bind_eq_bind, Option.bind_eq_some_iff]
  simp only [Word.mul?, Word.ofNat?_eq_some_iff, hunits]
  constructor
  · rintro ⟨unit, hunit, hsupply⟩
    obtain ⟨hplaces, hvalue⟩ := Word.tenPow?_eq_some_iff.1 hunit
    exact ⟨hplaces, by rw [hsupply, hvalue, syntheticNat]⟩
  · rintro ⟨hplaces, hsupply⟩
    obtain ⟨unit, hunit, hvalue⟩ := Word.exists_tenPow? hplaces
    exact ⟨unit, hunit, by rw [hsupply, hvalue, syntheticNat]⟩

theorem Config.exists_syntheticSupply?_iff {c : Config} {places : UInt8} :
    (∃ supply, c.syntheticSupply? places = some supply) ↔
      places.toNat ≤ 77 ∧ c.syntheticNat places < 2 ^ 256 := by
  simp only [syntheticSupply?_eq_some_iff]
  constructor
  · rintro ⟨supply, hplaces, hsupply⟩
    exact ⟨hplaces, hsupply ▸ supply.isLt⟩
  · rintro ⟨hplaces, hlt⟩
    exact ⟨BitVec.ofNat 256 (c.syntheticNat places), hplaces,
      by rw [BitVec.toNat_ofNat, Nat.mod_eq_of_lt hlt]⟩

/-- A backend that answers or refuses, but never panics. -/
def Backend.IsCalm (b : Backend) : Prop := ∀ history r t, b history r ≠ .panic t

/-- An outcome that is a value or an error. -/
def Outcome.IsOrderly {ε α : Type} (o : Outcome ε α) : Prop :=
  (∃ a, o = .value a) ∨ ∃ e, o = .error e

theorem Outcome.isOrderly_iff {ε α : Type} {o : Outcome ε α} :
    o.IsOrderly ↔ ∀ t, o ≠ .panic t := by
  cases o with
  | value a => simp [IsOrderly]
  | error e => simp [IsOrderly]
  | panic t => simp [IsOrderly]

namespace Program

variable {ε α : Type} {b : Backend}

/-- No reply of a calm backend is a panic. -/
theorem not_mem_events_of_isCalm (hb : b.IsCalm) {p : Program ε α} {s : List Request} {r : Request}
    {t : String} : .asked r (.panic t) ∉ (p.runWith b.responder s).events := by
  intro hmem
  obtain ⟨history, hreply⟩ := exists_history_of_mem hmem
  exact hb history r t hreply.symm

end Program

namespace Liquidity

open Program

variable {box : Sandbox} {profile : Profile} {config : Config} {token : Token} {es : List Event}

/-! ## With a supply to reckon with -/

theorem asksOnly_seed {discovery : Storage.Discovery} {slot : Hash} {reported supply : Word}
    (h : IsSupply config token reported supply) :
    (seed box profile config token discovery slot reported).AsksOnly fun _ => True := by
  rw [seed, supplyOf_eq h, pure_bind]
  refine (asksOnly_ofExcept _).bind fun seeded => ?_
  refine (asksOnly_request trivial).bind fun _ => ?_
  refine (asksOnly_request trivial).bind fun approved => ?_
  refine (asksOnly_request trivial).bind fun given => ?_
  refine (asksOnly_query trivial).bind fun pair => ?_
  split
  · trivial
  · trivial

/-- Without a supply to reckon with, nothing is reported and none can be made up. -/
theorem eq_zero_of_not_isSupply {reported : Word}
    (h : ¬ ∃ supply, IsSupply config token reported supply) :
    reported = 0 ∧ config.syntheticSupply? token.decimals = none := by
  have hzero : reported = 0 := by
    by_contra hne
    exact h ⟨reported, by rw [IsSupply, if_neg hne]⟩
  refine ⟨hzero, Option.eq_none_iff_forall_not_mem.2 fun supply hsupply => h ⟨supply, ?_⟩⟩
  rw [IsSupply, if_pos hzero]
  exact hsupply

def overflowText : String := "arithmetic operation overflow"

theorem seed_eq_panic {discovery : Storage.Discovery} {slot : Hash}
    (h : config.syntheticSupply? token.decimals = none) :
    seed box profile config token discovery slot 0 = .done (.panic overflowText) := by
  rw [seed, supplyOf, if_pos rfl, h]
  rfl

/-- On a chain that does not panic itself, there is a panic only behind a supply that is read as
zero where none can be made up. -/
theorem path_of_provide_panic {t : String} (hes : ∀ r t, .asked r (.panic t) ∉ es)
    (h : (provide box profile config token).Path es (.panic t)) :
    config.syntheticSupply? token.decimals = none ∧
      ∃ (s : Survey) (x : Reading Abi.readUint?), x.value = 0 ∧
        es = s.events box.sentinel token.address ++
          [Event.called (Contents.totalSupply token.address) x] := by
  rcases path_of_provide h with ⟨s, slot, x, rest, rfl, hslot, hseed, -⟩ |
    ⟨-, ⟨e, ho⟩ | ⟨before, r, t', rfl, ho⟩⟩
  · by_cases hsupply : ∃ supply, IsSupply config token x.value supply
    · obtain ⟨supply, hsupply⟩ := hsupply
      obtain ⟨before, r, rfl, -⟩ := (asksOnly_seed hsupply).ends_at_panic hseed
      exact absurd (by simp) (hes r t)
    · obtain ⟨hzero, hnone⟩ := eq_zero_of_not_isSupply hsupply
      rw [hzero, seed_eq_panic hnone] at hseed
      cases hseed
      exact ⟨hnone, s, x, hzero, rfl⟩
  · cases ho
  · exact absurd (by simp) (hes r t')

/-! ## Without one -/

theorem path_query {α : Type} {read : Bytes → Option α} {tx : Transaction} (x : Reading read) :
    (Contract.query read tx).Path [.called tx x] (.value x.value) := by
  rw [Contract.query]
  refine Path.bind (path_request (.call tx) x.data) ?_
  rw [x.decoded]
  exact .done _

def twoCode : Bytes := [0x60, 0x02]

/-- The storage key that a chain shows as read: the account's entry in the mapping at two. -/
def entryAtTwo (account : Address) : Hash := Storage.mappingSlot account (FixedBytes.ofNat 32 2)

def traceOf (key : Hash) : ExecutionTrace :=
  { ExecutionTrace.blank with steps := [ExecutionTrace.loadAt 1 [key.toHex]] }

theorem loadedKeys_traceOf (key : Hash) : (traceOf key).loadedKeys = .ok [key] := by
  show [key.toHex].mapM ExecutionTrace.readKey = .ok [key]
  rw [List.mapM_cons, ExecutionTrace.readKey_eq_ok_iff.2 (Hash.ofHex?_toHex key)]
  rfl

/-- A chain on which a token keeps balances in a mapping at two, and reports no supply. -/
def unsuppliedChain (account : Address) : Backend := fun _ r =>
  match r with
  | .code _ => .value twoCode
  | .call _ => .value (Abi.word 0)
  | .send _ => .value Receipt.blank
  | .trace _ => .value (traceOf (entryAtTwo account))
  | .unlock _ => .value ()
  | _ => .error .closed

theorem isCalm_unsuppliedChain (account : Address) : (unsuppliedChain account).IsCalm := by
  intro history r t
  cases r <;> simp [unsuppliedChain]

def surveyAtTwo (account : Address) : Survey where
  code := twoCode
  code_ne_nil := by decide
  implementation := []
  probed := Receipt.blank
  trace := traceOf (entryAtTwo account)
  keys := [entryAtTwo account]
  loaded := loadedKeys_traceOf _

theorem balanceSlot?_surveyAtTwo (account : Address) :
    ((surveyAtTwo account).discovery account).balanceSlot? = some (entryAtTwo account) := by
  have hcandidates : (surveyAtTwo account).candidates = [FixedBytes.ofNat 32 2] := by
    show (Bytecode.scan (scanned twoCode [])).slots = [FixedBytes.ofNat 32 2]
    decide +kernel
  refine Storage.Discovery.balanceSlot?_eq_some_iff.2 ⟨FixedBytes.ofNat 32 2, ?_, rfl⟩
  exact ⟨[], [], hcandidates, List.mem_singleton_self _, fun c hc => nomatch hc⟩

def noSupply : Reading Abi.readUint? where
  data := Abi.word 0
  value := 0
  decoded := by rfl

/-- Where no supply can be made up, there is a chain that does not panic itself on which making a
pair does. -/
theorem outcome_unsuppliedChain (h : config.syntheticSupply? token.decimals = none) :
    ((provide box profile config token).run (unsuppliedChain box.sentinel)).outcome =
      .panic overflowText := by
  let s := surveyAtTwo box.sentinel
  have hslot : slotOf (s.discovery box.sentinel) = .ok (entryAtTwo box.sentinel) := by
    rw [slotOf, balanceSlot?_surveyAtTwo]
  have hread : (Erc20.totalSupply token.address).Path
      [.called (Contents.totalSupply token.address) noSupply] (.value 0) := by
    rw [Erc20.totalSupply, Erc20.totalSupplyCall_eq]
    exact path_query noSupply
  have happraise : (appraise box.sentinel token.address).Path
      (s.events box.sentinel token.address ++
        [.called (Contents.totalSupply token.address) noSupply])
      (.value (s.discovery box.sentinel, entryAtTwo box.sentinel, 0)) := by
    rw [appraise]
    refine (path_survey_iff.2 ⟨s, rfl, rfl⟩).bind ?_
    rw [hslot]
    exact hread.bind (.done _)
  have hpath : (provide box profile config token).Path
      (s.events box.sentinel token.address ++
        [.called (Contents.totalSupply token.address) noSupply]) (.panic overflowText) := by
    rw [provide_eq, ← List.append_nil (s.events _ _ ++ _)]
    refine happraise.bind ?_
    rw [seed_eq_panic h]
    exact .done _
  refine (runWith_of_path hpath ?_ []).2
  intro r reply hmem history
  have hevents : s.events box.sentinel token.address = [.asked (.unlock box.sentinel) (.value ()),
      .asked (.code token.address) (.value twoCode),
      .sent (Contents.balanceProbe token.address box.sentinel) Receipt.blank,
      .asked (.trace Receipt.blank.hash) (.value (traceOf (entryAtTwo box.sentinel)))] := by
    have hproxy : Bytecode.proxyTarget? twoCode = none := by decide
    show _ :: (codeEvents token.address twoCode [] ++ _) = _
    rw [codeEvents, hproxy]
    rfl
  rw [hevents] at hmem
  simp only [List.cons_append, List.nil_append, List.mem_cons, List.not_mem_nil, or_false] at hmem
  rcases hmem with hmem | hmem | hmem | hmem | hmem <;> cases hmem <;> rfl

/-- **Making a pair panics only where no supply can be made up.** On every chain that does not panic
itself, making a pair ends with a value or with an error, exactly if the units of the settings in
the token's smallest units are a word, and the token has at most 77 places. A supply that was made
up is that product, and there is a panic only behind a supply that is read as zero. -/
theorem provide_ends_iff (box : Sandbox) (profile : Profile) (config : Config) (token : Token) :
    ((∀ b : Backend, b.IsCalm → ((provide box profile config token).run b).outcome.IsOrderly) ↔
      token.decimals.toNat ≤ 77 ∧ config.syntheticNat token.decimals < 2 ^ 256) ∧
    ∀ b : Backend,
      let run := (provide box profile config token).run b
      (∀ report, run.outcome = .value report → report.isSynthetic = true →
        report.totalSupply.toNat = config.syntheticNat token.decimals) ∧
      (b.IsCalm → ∀ t, run.outcome = .panic t → ∃ (s : Survey) (x : Reading Abi.readUint?),
        x.value = 0 ∧ run.events = s.events box.sentinel token.address ++
          [Event.called (Contents.totalSupply token.address) x]) := by
  have hpath (b : Backend) : (provide box profile config token).Path
      ((provide box profile config token).run b).events
      ((provide box profile config token).run b).outcome := path_runWith b.responder _ []
  have hcalm (b : Backend) (hb : b.IsCalm) (r : Request) (t : String) :
      .asked r (.panic t) ∉ ((provide box profile config token).run b).events :=
    not_mem_events_of_isCalm hb
  refine ⟨⟨fun hall => ?_, fun hsupply b hb => ?_⟩, fun b => ⟨fun report hreport hsynthetic => ?_,
    fun hb t ht => ?_⟩⟩
  · -- Were there no supply, the chain without one would make the pair panic.
    by_contra hnot
    rw [← Config.exists_syntheticSupply?_iff, not_exists] at hnot
    have hnone := Option.eq_none_iff_forall_not_mem.2 hnot
    have horderly := hall (unsuppliedChain box.sentinel) (isCalm_unsuppliedChain box.sentinel)
    exact Outcome.isOrderly_iff.1 horderly overflowText (outcome_unsuppliedChain hnone)
  · refine Outcome.isOrderly_iff.2 fun t ht => ?_
    have hpanic := hpath b
    rw [ht] at hpanic
    obtain ⟨hnone, -⟩ := path_of_provide_panic (hcalm b hb) hpanic
    obtain ⟨supply, hsome⟩ := Config.exists_syntheticSupply?_iff.2 hsupply
    rw [hnone] at hsome
    cases hsome
  · have hvalue := hpath b
    rw [hreport] at hvalue
    obtain ⟨s, x, -, rfl, -⟩ := path_of_provide_value hvalue
    have hzero : x.reported.value = 0 := of_decide_eq_true hsynthetic
    have hsupply := x.isSupply
    rw [IsSupply, if_pos hzero] at hsupply
    exact (Config.syntheticSupply?_eq_some_iff.1 hsupply).2
  · have hpanic := hpath b
    rw [ht] at hpanic
    exact (path_of_provide_panic (hcalm b hb) hpanic).2

/-- A token of 78 places overflows with the standard settings. -/
theorem exists_overflowing_token :
    ¬ ∀ (box : Sandbox) (profile : Profile) (config : Config) (token : Token) (b : Backend),
      b.IsCalm → ((provide box profile config token).run b).outcome.IsOrderly := by
  intro hclaim
  let token := { Probe.sampleToken with decimals := 78 }
  have hnone : ({} : Config).syntheticSupply? token.decimals = none := by decide
  have horderly := hclaim Probe.sampleBox Probe.sampleProfile {} token
    (unsuppliedChain Probe.sampleBox.sentinel) (isCalm_unsuppliedChain _)
  exact Outcome.isOrderly_iff.1 horderly overflowText (outcome_unsuppliedChain hnone)

end Liquidity

end SellProbe
