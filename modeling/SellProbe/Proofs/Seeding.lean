import SellProbe.Proofs.Appraisal
import SellProbe.Proofs.Rate

/-!
# What a pair rests on

The second part of making a pair writes the sentinel's balance and gives some of it to a new pair.
It begins with the write (`path_of_seed`). A pair that is made therefore rests on one write, of half
of the supply to the entry of the last mapping that was read, and whatever goes wrong before that
write leaves the sandbox as it was (`provide_seeds_or_fails`).
-/

open scoped List

namespace SellProbe

/-- Whether a request writes to a contract directly. -/
def Request.isWrite : Request → Bool
  | .setStorage _ _ _ => true
  | _ => false

namespace Liquidity

open Program

variable {box : Sandbox} {profile : Profile} {config : Config} {token : Token} {es : List Event}

/-! ## The seeding -/

/-- Which supply is reckoned with when a token reports one. -/
def IsSupply (config : Config) (token : Token) (reported supply : Word) : Prop :=
  if reported = 0 then config.syntheticSupply? token.decimals = some supply else supply = reported

structure Seeding (box : Sandbox) (config : Config) (token : Token) (s : Survey) where
  reported : Reading Abi.readUint?
  supply : Word
  isSupply : IsSupply config token reported.value supply
  /-- The mapping that is taken for the balances. -/
  mapping : Hash
  isLast : Storage.IsLastRead box.sentinel s.candidates s.keys mapping
  /-- What is written as the sentinel's balance. -/
  seeded : Word
  /-- Half of the supply, if one mapping was read. -/
  seeded_of_one : (s.read box.sentinel).length = 1 → seeded = supply / 2
  /-- The inner units of half of the supply, if more were. -/
  seeded_of_more : 1 < (s.read box.sentinel).length →
    seeded.toNat = (supply / 2).toNat * ((2 ^ 256 - 1) / supply.toNat) ∧
      Reflection.ofInner seeded supply = .ok (supply / 2)
  approved : Receipt
  given : Receipt
  pair : Reading Abi.readAddress?
  pair_isZero : pair.value.isZero = false

namespace Seeding

variable {s : Survey} (x : Seeding box config token s)

def write : Request :=
  .setStorage token.address (Storage.mappingSlot box.sentinel x.mapping) x.seeded

def events (profile : Profile) : List Event :=
  [.called (Contents.totalSupply token.address) x.reported,
    .asked x.write (.value ()),
    .sent (Contents.approval box.sentinel token.address profile.router) x.approved,
    .sent (Contents.liquidity box.sentinel profile.router token.address (x.supply / 4)
      config.liquidityValue (config.deadline (box.clock .bootstrap))) x.given,
    .called (Contents.pair profile.factory token.address profile.wrappedNative) x.pair]

def report : Report where
  discovery := s.discovery box.sentinel
  totalSupply := x.supply
  isSynthetic := x.reported.value = 0
  seeded := x.seeded
  pair := x.pair.value

end Seeding

theorem path_of_supplyOf {reported : Word} {o : Outcome ProbeError Word}
    (h : (supplyOf config token reported).Path es o) :
    es = [] ∧ ∀ supply, o = .value supply → IsSupply config token reported supply := by
  unfold supplyOf at h
  unfold IsSupply
  split at h
  next hzero =>
    cases hsynthetic : config.syntheticSupply? token.decimals with
    | some w =>
      rw [hsynthetic] at h
      cases h
      refine ⟨rfl, fun supply ho => ?_⟩
      cases ho
      rw [if_pos hzero]
    | none =>
      rw [hsynthetic] at h
      cases h
      exact ⟨rfl, fun supply ho => nomatch ho⟩
  next hzero =>
    cases h
    refine ⟨rfl, fun supply ho => ?_⟩
    cases ho
    rw [if_neg hzero]

theorem Survey.isReflection_discovery (s : Survey) (sentinel : Address) :
    (s.discovery sentinel).isReflection = true ↔ 1 < (s.read sentinel).length :=
  Storage.Discovery.isReflection_ofKeys

theorem seeded_of_one {s : Survey} {sentinel : Address} {supply seeded : Word}
    (h : seedOf (s.discovery sentinel) (supply / 2) supply = .ok seeded)
    (hone : (s.read sentinel).length = 1) : seeded = supply / 2 := by
  have hplain : ¬ (s.discovery sentinel).isReflection = true := by
    rw [s.isReflection_discovery, hone]
    exact Nat.lt_irrefl 1
  rw [seedOf, if_neg hplain] at h
  cases h
  rfl

theorem seeded_of_more {s : Survey} {sentinel : Address} {supply seeded : Word}
    (h : seedOf (s.discovery sentinel) (supply / 2) supply = .ok seeded)
    (hmore : 1 < (s.read sentinel).length) :
    seeded.toNat = (supply / 2).toNat * ((2 ^ 256 - 1) / supply.toNat) ∧
      Reflection.ofInner seeded supply = .ok (supply / 2) := by
  rw [seedOf, if_pos ((s.isReflection_discovery sentinel).2 hmore)] at h
  have hsupply : supply ≠ 0 := by
    rintro rfl
    cases h
  obtain ⟨inner, hinner, hvalue, hback⟩ := Reflection.toInner_of_le hsupply supply.half_le
  rw [hinner] at h
  cases h
  exact ⟨hvalue, hback⟩

/-- On a path that makes a pair, the seeding has read and asked what a seeding does. -/
theorem path_of_seed_value {s : Survey} {slot : Hash} {x : Reading Abi.readUint?} {report : Report}
    (hslot : (s.discovery box.sentinel).balanceSlot? = some slot)
    (h : (seed box profile config token (s.discovery box.sentinel) slot x.value).Path es
      (.value report)) :
    ∃ y : Seeding box config token s,
      .called (Contents.totalSupply token.address) x :: es = y.events profile ∧
        report = y.report := by
  obtain ⟨mapping, hlast, rfl⟩ := Storage.Discovery.balanceSlot?_eq_some_iff.1 hslot
  unfold seed at h
  obtain ⟨supply, es₁, es₂, rfl, h₁, h₂⟩ := h.of_bind_value
  obtain ⟨rfl, hsupply⟩ := path_of_supplyOf h₁
  obtain ⟨seeded, es₃, es₄, rfl, h₃, h₄⟩ := h₂.of_bind_value
  obtain ⟨rfl, hseeded⟩ := h₃.of_ofExcept
  obtain ⟨_, es₅, es₆, rfl, h₅, h₆⟩ := h₄.of_bind_value
  obtain rfl := Path.of_request h₅
  obtain ⟨approved, es₇, es₈, rfl, h₇, h₈⟩ := h₆.of_bind_value
  obtain rfl := h₇.of_approve
  rw [Exchange.addLiquidity, Exchange.addLiquidityTx_eq] at h₈
  obtain ⟨given, es₉, es₁₀, rfl, h₉, h₁₀⟩ := h₈.of_bind_value
  obtain rfl := h₉.of_send
  obtain ⟨pair, es₁₁, es₁₂, rfl, h₁₁, h₁₂⟩ := h₁₀.of_bind_value
  obtain ⟨p, rfl, rfl⟩ := h₁₁.of_getPair
  split at h₁₂
  next => cases h₁₂
  next hzero =>
    cases h₁₂
    exact ⟨⟨x, supply, hsupply supply rfl, mapping, hlast, seeded, seeded_of_one hseeded,
      seeded_of_more hseeded, approved, given, p, by simpa using hzero⟩, rfl, rfl⟩

/-- The seeding begins with the write, if it asks anything. -/
theorem path_of_seed {discovery : Storage.Discovery} {slot : Hash} {reported : Word}
    {o : Outcome ProbeError Report}
    (h : (seed box profile config token discovery slot reported).Path es o) :
    es = [] ∨
      ∃ value reply rest, es = .asked (.setStorage token.address slot value) reply :: rest := by
  unfold seed at h
  rcases h.of_bind with ⟨supply, es₁, es₂, rfl, h₁, h₂⟩ | ⟨e, -, h₁⟩ | ⟨t, -, h₁⟩
  · obtain ⟨rfl, -⟩ := path_of_supplyOf h₁
    rcases h₂.of_bind with ⟨seeded, es₃, es₄, rfl, h₃, h₄⟩ | ⟨e, -, h₃⟩ | ⟨t, -, h₃⟩
    · obtain rfl := h₃.events_of_ofExcept
      cases h₄ with
      | ask reply _ => exact .inr ⟨seeded, reply, _, rfl⟩
    · exact .inl h₃.events_of_ofExcept
    · exact .inl h₃.events_of_ofExcept
  · exact .inl (path_of_supplyOf h₁).1
  · exact .inl (path_of_supplyOf h₁).1

theorem supplyOf_eq {reported supply : Word} (h : IsSupply config token reported supply) :
    supplyOf config token reported = pure supply := by
  unfold IsSupply at h
  unfold supplyOf
  split at h
  next hzero => rw [if_pos hzero, h, orPanic, pure_eq]
  next hzero => rw [if_neg hzero, h]

theorem exists_seedOf (discovery : Storage.Discovery) {supply : Word} (h : supply ≠ 0) :
    ∃ seeded, seedOf discovery (supply / 2) supply = .ok seeded := by
  unfold seedOf
  split
  · obtain ⟨inner, hinner, -⟩ := Reflection.toInner_of_le h supply.half_le
    exact ⟨inner, hinner⟩
  · exact ⟨_, rfl⟩

/-- With a supply to reckon with, the seeding gets as far as the write. -/
theorem exists_write_of_seed {discovery : Storage.Discovery} {slot : Hash} {reported supply : Word}
    {o : Outcome ProbeError Report} (hsupply : IsSupply config token reported supply)
    (hne : supply ≠ 0)
    (h : (seed box profile config token discovery slot reported).Path es o) :
    ∃ value, .setStorage token.address slot value ∈ Event.requests es := by
  obtain ⟨seeded, hseeded⟩ := exists_seedOf discovery hne
  rw [seed, supplyOf_eq hsupply, pure_bind, hseeded] at h
  cases h with
  | ask reply _ => exact ⟨seeded, by simp⟩

/-! ## Both parts together -/

theorem Survey.filter_isWrite_events (s : Survey) (sentinel address : Address) :
    (Event.requests (s.events sentinel address)).filter Request.isWrite = [] := by
  unfold Survey.events codeEvents
  cases Bytecode.proxyTarget? s.code <;> rfl

theorem Survey.isWrite_eq_false (s : Survey) {sentinel address : Address} {r : Request}
    (hr : r ∈ Event.requests (s.events sentinel address)) : r.isWrite = false := by
  have hnone := List.filter_eq_nil_iff.1 (s.filter_isWrite_events sentinel address) r hr
  exact Bool.eq_false_iff.2 hnone

theorem Seeding.filter_isWrite_events {s : Survey} (x : Seeding box config token s) :
    (Event.requests (x.events profile)).filter Request.isWrite = [x.write] := rfl

theorem path_of_provide_value {report : Report}
    (h : (provide box profile config token).Path es (.value report)) :
    ∃ (s : Survey) (x : Seeding box config token s),
      es = s.events box.sentinel token.address ++ x.events profile ∧ report = x.report ∧
      (Event.requests es).filter Request.isWrite = [x.write] := by
  rcases path_of_provide h with ⟨s, slot, reported, rest, rfl, hslot, hseed, -⟩ |
    ⟨-, ⟨e, ho⟩ | ⟨before, r, t, -, ho⟩⟩
  · obtain ⟨x, hevents, hreport⟩ := path_of_seed_value hslot hseed
    refine ⟨s, x, by rw [hevents], hreport, ?_⟩
    rw [hevents, Event.requests_append, List.filter_append, s.filter_isWrite_events,
      x.filter_isWrite_events, List.nil_append]
  · cases ho
  · cases ho

/-- A survey that finds no mapping that was read ends the path with its error. -/
theorem path_of_provide_of_read_eq_nil {s : Survey} {o : Outcome ProbeError Report}
    (hread : s.read box.sentinel = [])
    (h : (provide box profile config token).Path
      (s.events box.sentinel token.address ++ es) o) :
    es = [] ∧ o = .error (.liquidity "slot de saldos não encontrado") := by
  have hnone : (s.discovery box.sentinel).balanceSlot? = none := by
    change (Storage.Discovery.ofKeys _ _ _).balanceSlot? = none
    rw [Storage.Discovery.balanceSlot?_ofKeys, ← Survey.read, hread]
    rfl
  rw [provide_eq, appraise, bind_assoc] at h
  have hbehind := Path.behind (path_survey_iff.2 ⟨s, rfl, rfl⟩) h
  rw [slotOf, hnone] at hbehind
  cases hbehind
  exact ⟨rfl, rfl⟩

/-- Without a write nothing else is done for a pair. -/
theorem not_isProvision_of_no_write {o : Outcome ProbeError Report}
    (h : (provide box profile config token).Path es o)
    (hno : ∀ q ∈ Event.requests es, q.isWrite = false) :
    ∀ q ∈ Event.requests es, ¬ q.IsProvision := by
  rcases path_of_provide h with ⟨s, slot, reported, rest, rfl, -, hseed, hlate⟩ | hearly
  · rcases path_of_seed hseed with rfl | ⟨value, reply, rest, rfl⟩
    · intro q hq hp
      cases hlate q hq hp
    · have hwrite : .setStorage token.address slot value ∈ Event.requests
          (.asked (.setStorage token.address slot value) reply :: rest) := by simp
      rw [Event.requests_append] at hno
      cases hno _ (List.mem_append_right _ (List.mem_cons_of_mem _ hwrite))
  · exact hearly.untouched

/-- An error in reply to a request before the write ends the path. -/
theorem path_of_provide_error {before behind : List Event} {r : Request} {e : ProbeError}
    {o : Outcome ProbeError Report}
    (h : (provide box profile config token).Path (before ++ Event.asked r (.error e) :: behind) o)
    (hno : ∀ q ∈ Event.requests before ++ [r], q.isWrite = false) :
    (∃ e', o = .error e') ∧
      ∀ q ∈ Event.requests (before ++ Event.asked r (.error e) :: behind), ¬ q.IsProvision := by
  have hkeeps : (provide box profile config token).Keeps ⟨fun _ => True, fun _ => False⟩ :=
    keeps_provide box profile config token
  obtain ⟨rfl, he⟩ := hkeeps.ends_at_error not_false h
  refine ⟨he, not_isProvision_of_no_write h ?_⟩
  rw [Event.requests_append]
  exact hno

/-- A path that gets as far as the supply has found a mapping that was read, and with a supply to
reckon with it goes on to the write. -/
theorem path_of_provide_cases {o : Outcome ProbeError Report}
    (h : (provide box profile config token).Path es o) :
    (∃ (s : Survey) (x : Reading Abi.readUint?),
      s.events box.sentinel token.address ++
          [Event.called (Contents.totalSupply token.address) x] <+: es ∧
      s.read box.sentinel ≠ [] ∧
      ∀ supply, supply ≠ 0 → IsSupply config token x.value supply →
        ∃ slot value, .setStorage token.address slot value ∈ Event.requests es) ∨
    EndsEarly es o := by
  refine (path_of_provide h).imp_left ?_
  rintro ⟨s, slot, x, rest, rfl, hslot, hseed, -⟩
  refine ⟨s, x, ⟨rest, by rw [List.append_assoc, List.singleton_append]⟩, fun hread => ?_,
    fun supply hne hsupply => ?_⟩
  · obtain ⟨mapping, hlast, -⟩ := Storage.Discovery.balanceSlot?_eq_some_iff.1 hslot
    rw [← Storage.getLast?_readMappings, ← Survey.read, hread] at hlast
    cases hlast
  · obtain ⟨value, hwrite⟩ := exists_write_of_seed hsupply hne hseed
    refine ⟨slot, value, ?_⟩
    rw [Event.requests_append]
    exact List.mem_append_right _ (List.mem_cons_of_mem _ hwrite)

/-- **A pair rests on one write.** If a pair is made, the run was a survey and the seeding behind
it: one write only, to the sentinel's entry in the last mapping that was read, of half of the
supply, or of its inner units if more than one mapping was read; then the approval, a quarter of it
for the pair, and a pair that is not zero. There are such inner units for every supply but zero, and
they denote half of it. If no mapping was read, or if a request before the write fails, the run ends
with an error before anything is written, approved or given. So does every run that does not get as
far as the supply, unless it ends at a panic of the other side. -/
theorem provide_seeds_or_fails (box : Sandbox) (profile : Profile) (config : Config) (token : Token)
    (b : Backend) :
    let run := (provide box profile config token).run b
    let asked := Event.requests run.events
    let surveyed (s : Survey) := s.events box.sentinel token.address
    (∀ report, run.outcome = .value report → ∃ (s : Survey) (x : Seeding box config token s),
      run.events = surveyed s ++ x.events profile ∧ report = x.report ∧
      asked.filter Request.isWrite = [x.write] ∧ x.supply / 4 ≤ x.supply / 2 ∧
      report.pair.isZero = false) ∧
    (∀ supply : Word, supply ≠ 0 → ∃ seeded, Reflection.toInner (supply / 2) supply = .ok seeded ∧
      seeded.toNat = (supply / 2).toNat * ((2 ^ 256 - 1) / supply.toNat) ∧
      Reflection.ofInner seeded supply = .ok (supply / 2)) ∧
    (∀ s : Survey, surveyed s <+: run.events → s.read box.sentinel = [] →
      run.outcome = .error (.liquidity "slot de saldos não encontrado") ∧
      ∀ r ∈ asked, ¬ r.IsProvision) ∧
    (∀ before r e behind, run.events = before ++ Event.asked r (.error e) :: behind →
      (∀ q ∈ Event.requests before ++ [r], q.isWrite = false) →
        (∃ e', run.outcome = .error e') ∧ ∀ q ∈ asked, ¬ q.IsProvision) ∧
    ((∃ (s : Survey) (x : Reading Abi.readUint?),
        surveyed s ++ [Event.called (Contents.totalSupply token.address) x] <+: run.events ∧
        s.read box.sentinel ≠ [] ∧
        ∀ supply, supply ≠ 0 → IsSupply config token x.value supply →
          ∃ slot value, .setStorage token.address slot value ∈ asked) ∨
      EndsEarly run.events run.outcome) := by
  intro run asked surveyed
  have hpath : (provide box profile config token).Path run.events run.outcome :=
    path_runWith b.responder _ []
  refine ⟨fun report hreport => ?_, fun supply hne => Reflection.toInner_of_le hne supply.half_le,
    fun s hs hread => ?_, fun before r e behind hes hno => ?_, path_of_provide_cases hpath⟩
  · rw [hreport] at hpath
    obtain ⟨s, x, hevents, rfl, hwrites⟩ := path_of_provide_value hpath
    exact ⟨s, x, hevents, rfl, hwrites, x.supply.quarter_le_half, x.pair_isZero⟩
  · obtain ⟨rest, hes⟩ := hs
    have hcut := hpath
    rw [← hes] at hcut
    obtain ⟨rfl, ho⟩ := path_of_provide_of_read_eq_nil hread hcut
    refine ⟨ho, not_isProvision_of_no_write hpath fun q hq => ?_⟩
    rw [← hes, List.append_nil] at hq
    exact s.isWrite_eq_false hq
  · change (∃ e', run.outcome = .error e') ∧ ∀ q ∈ Event.requests run.events, ¬ q.IsProvision
    rw [hes] at hpath ⊢
    exact path_of_provide_error hpath hno

/-- A chain on which a token reports a supply of a thousand, and reads the sentinel's entries in its
mappings at two and at three. -/
def reflectingChain : Backend := fun _ r =>
  match r with
  | .code _ => .value ([0x60, 0x02, 0x60, 0x03] : Bytes)
  | .call _ => .value (Abi.word 1000)
  | .send _ => .value Receipt.blank
  | .trace _ =>
    let read := Directory.ofList
      [("6a9609baa168169acaea398c4407efea4be641bb08e21e88806d9836fd9333cc", "1"),
        ("262bb27bbdd95c1cdc8e16957e36e38579ea44f7f6413dd7a9c75939def06b2c", "1")]
    .value { ExecutionTrace.blank with
      steps := [{ counter := 0, op := "SLOAD", depth := 1, storage := some read }] }
  | .unlock _ | .setStorage _ _ _ => .value ()
  | _ => .error .closed

/-- Whether a pair was made on a balance. -/
def restsOn (seeded : Nat) : Outcome ProbeError Report → Bool
  | .value report => report.seeded.toNat == seeded
  | _ => false

theorem exists_report_of_restsOn {seeded : Nat} {o : Outcome ProbeError Report}
    (h : restsOn seeded o = true) : ∃ report, o = .value report ∧ report.seeded.toNat = seeded := by
  cases o with
  | value report => exact ⟨report, rfl, beq_iff_eq.1 h⟩
  | error e => cases h
  | panic text => cases h

/-- A pair for a reflection token: the balance that is written is half of the supply in inner
units. -/
theorem provide_seeds_or_fails_sample :
    let provision := provide Probe.sampleBox Probe.sampleProfile {} Probe.sampleToken
    let run := provision.run reflectingChain
    ∃ report, run.outcome = .value report ∧ report.seeded.toNat = 500 * ((2 ^ 256 - 1) / 1000) ∧
      ∃ (s : Survey) (x : Seeding Probe.sampleBox {} Probe.sampleToken s),
        run.events = s.events Probe.sampleBox.sentinel Probe.sampleToken.address ++
          x.events Probe.sampleProfile ∧ report = x.report := by
  intro provision run
  have hseeded : restsOn (500 * ((2 ^ 256 - 1) / 1000)) run.outcome = true := by decide +kernel
  obtain ⟨report, hreport, hvalue⟩ := exists_report_of_restsOn hseeded
  obtain ⟨hsucceeds, -⟩ := provide_seeds_or_fails Probe.sampleBox Probe.sampleProfile {}
    Probe.sampleToken reflectingChain
  obtain ⟨s, x, hevents, hx, -⟩ := hsucceeds report hreport
  exact ⟨report, hreport, hvalue, s, x, hevents, hx⟩

end Liquidity

end SellProbe
