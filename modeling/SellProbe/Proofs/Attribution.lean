import SellProbe.Proofs.Release
import SellProbe.Proofs.Standing

/-!
# A failed probe names the stage it failed in

The stage in a verdict comes from two places: from the label of the step that an error was raised
in, and for a panic from the last stage entered. Phase by phase, every step carries the label of the
stage that the probe is at work in (`accounts_stages`), so the two never differ. Hence a failed
verdict always names the last stage entered, and the request that a probe failed at could as well
have panicked (`run_names_last_stage`).
-/

namespace SellProbe

/-- The same backend, except that it panics when a request comes after some others. -/
def Backend.panicAt (b : Backend) (h : List Request) (r : Request) (text : String) : Backend :=
  fun h' r' => if h' = h ∧ r' = r then .panic text else b h' r'

theorem Backend.panicAt_self (b : Backend) (h : List Request) (r : Request) (text : String) :
    b.panicAt h r text h r = .panic text :=
  if_pos ⟨rfl, rfl⟩

theorem Backend.panicAt_of_ne {b : Backend} {h h' : List Request} {r r' : Request} {text : String}
    (hne : ¬ (h' = h ∧ r' = r)) : b.panicAt h r text h' r' = b h' r' :=
  if_neg hne

/-- A panic amid the work does not touch the release of the sandbox. -/
theorem Backend.Releases.panicAt {b : Backend} (hb : b.Releases) (h : List Request) {r : Request}
    (hr : r.isWork = true) (text : String) : (b.panicAt h r text).Releases := by
  refine ⟨fun h' a t => ?_, fun h' t => ?_⟩
  · rw [panicAt_of_ne (by rintro ⟨-, rfl⟩; cases hr)]
    exact hb.1 h' a t
  · rw [panicAt_of_ne (by rintro ⟨-, rfl⟩; cases hr)]
    exact hb.2 h' t

namespace Probe

open Program

variable (box : Sandbox) (profile : Profile) (config : Config) (token : Token) {t : Standing}

/-- The pair and the supply are looked up in the preparation, and whether or not liquidity is made,
the purchase still lies ahead. -/
theorem accounts_ensureLiquidity {Q : Unit → Standing → Prop}
    (hQ : ∀ t, t.isBefore .buy → Q () t) :
    (ensureLiquidity box profile config token).Accounts (.working .prepare) Q := by
  unfold ensureLiquidity
  refine Accounts.bind (accounts_within (keeps_query _ _) fun pair => ?_)
  refine Accounts.bind (accounts_within (keeps_query _ _) fun supply => ?_)
  split
  · refine Accounts.bind (accounts_enter (by simp [Stage.index]) ?_)
    refine Accounts.bind (accounts_begin ⟨_, _, rfl⟩ (keeps_provide _ _ _ _) fun report => ?_)
    exact hQ _ (by simp [Stage.index])
  · exact hQ _ (by simp [Stage.index])

namespace PublicRouter

theorem accounts_prepare {Q : Address → Standing → Prop} (ht : t.isBefore .prepare)
    (hQ : ∀ a, Q a (.working .prepare)) : (prepare box profile config).Accounts t Q := by
  unfold prepare
  refine Accounts.bind (accounts_enter ht ?_)
  refine Accounts.bind (accounts_begin ⟨_, _, rfl⟩ (keeps_request rfl) fun _ => ?_)
  refine Accounts.bind (accounts_within (keeps_resolve trivial trivial) fun quote => ?_)
  refine Accounts.bind (accounts_within (keeps_send _) fun _ => ?_)
  exact hQ _

/-- A trade begins with a request: for an allowance, or on an empty route for a quote. -/
theorem trade_asks (stage : Stage) (amount : Word) (route : List Address) :
    ∃ r next, trade box profile config stage amount route = .ask r next := by
  cases route <;> exact ⟨_, _, rfl⟩

theorem accounts_buy {Q : Swap.Quoted × Word → Standing → Prop} (ht : t.isBefore .buy)
    (hQ : ∀ a, Q a (.working .buy)) (route : List Address) :
    (buy box profile config token route).Accounts t Q := by
  unfold buy
  refine Accounts.bind (accounts_enter ht ?_)
  refine Accounts.bind (accounts_begin ⟨_, _, rfl⟩ (keeps_request rfl) fun _ => ?_)
  refine Accounts.bind (accounts_within (keeps_query _ _) fun before => ?_)
  refine Accounts.bind (accounts_within (keeps_trade _ _ _ _ _ _) fun swap => ?_)
  refine Accounts.bind (accounts_within (keeps_query _ _) fun after => ?_)
  exact hQ _

theorem accounts_approve {Q : Unit → Standing → Prop} (ht : t.isBefore .approve)
    (hQ : ∀ a, Q a (.working .approve)) : (approve box profile config token).Accounts t Q := by
  unfold approve
  refine Accounts.bind (accounts_enter ht ?_)
  refine Accounts.bind (accounts_begin ⟨_, _, rfl⟩ (keeps_send _) fun _ => ?_)
  refine Accounts.bind (accounts_within (keeps_send _) fun _ => ?_)
  exact accounts_within (keeps_request rfl) hQ

theorem accounts_sell {Q : Swap.Quoted → Standing → Prop} (ht : t.isBefore .sell)
    (hQ : ∀ a, Q a (.working .sell)) (route : List Address) :
    (sell box profile config token route).Accounts t Q := by
  unfold sell
  refine Accounts.bind (accounts_enter ht ?_)
  refine Accounts.bind (accounts_begin ⟨_, _, rfl⟩ (keeps_query _ _) fun holding => ?_)
  refine Accounts.bind (accounts_within (keeps_trade _ _ _ _ _ _) fun swap => ?_)
  refine Accounts.bind (accounts_within (keeps_request rfl) fun _ => ?_)
  exact hQ _

theorem accounts_secondBuy {Q : Word → Standing → Prop} (ht : t.isBefore .secondBuy)
    (hQ : ∀ a, Q a (.working .secondBuy)) (route : List Address) :
    (secondBuy box profile config token route).Accounts t Q := by
  unfold secondBuy
  refine Accounts.bind (accounts_enter ht ?_)
  refine Accounts.bind (accounts_begin (trade_asks _ _ _ _ _ _) (keeps_trade _ _ _ _ _ _)
    fun swap => ?_)
  refine Accounts.bind (accounts_within (keeps_query _ _) fun holding => ?_)
  refine Accounts.bind (accounts_within (keeps_request rfl) fun _ => ?_)
  exact hQ _

/-- A transfer carries no label: whether refused or not it ends with a value. -/
theorem accounts_isRefused {Q : Bool → Standing → Prop} {s : Stage} (ht : t.asked = .working s)
    (hQ : ∀ a, Q a (.working s)) (sender recipient : Address) (amount : Word) :
    (isRefused config token sender recipient amount).Accounts t Q := by
  unfold isRefused
  refine Accounts.bind fun reply => ?_
  rw [ht]
  cases reply with
  | value receipt => exact hQ false
  | error e => exact hQ true
  | panic text => exact ⟨s, rfl⟩

theorem accounts_transfer {Q : Bool → Standing → Prop} (ht : t.isBefore .transfer)
    (hQ : ∀ a, Q a (.working .transfer)) (holding : Word) :
    (transfer box config token holding).Accounts t Q := by
  unfold transfer
  refine Accounts.bind (accounts_enter ht ?_)
  refine Accounts.bind (accounts_isRefused _ _ rfl (fun refused => ?_) _ _ _)
  refine Accounts.bind (accounts_within (keeps_request rfl) fun _ => ?_)
  exact hQ _

theorem accounts_transferBack {Q : Bool × Word → Standing → Prop} (ht : t.isBefore .transferBack)
    (hQ : ∀ a, Q a (.working .transferBack)) : (transferBack box config token).Accounts t Q := by
  unfold transferBack
  refine Accounts.bind (accounts_enter ht ?_)
  refine Accounts.bind (accounts_begin ⟨_, _, rfl⟩ (keeps_query _ _) fun received => ?_)
  refine Accounts.bind (accounts_isRefused _ _ rfl (fun refused => ?_) _ _ _)
  refine Accounts.bind (accounts_within (keeps_request rfl) fun price => ?_)
  exact hQ _

theorem accounts_probe {Q : Verdict → Standing → Prop}
    (hQ : ∀ bought sold gained price refused t, Q (verdictOf bought sold gained price refused) t) :
    (probe box profile config token).Accounts .outside Q := by
  unfold probe
  refine Accounts.bind (accounts_prepare _ _ _ (by simp) fun quote => ?_)
  refine Accounts.bind (accounts_ensureLiquidity _ _ _ _ fun t ht => ?_)
  refine Accounts.bind (accounts_buy _ _ _ _ ht (fun bought => ?_) _)
  refine Accounts.bind (accounts_approve _ _ _ _ (by simp [Stage.index]) fun _ => ?_)
  refine Accounts.bind (accounts_sell _ _ _ _ (by simp [Stage.index]) (fun sold => ?_) _)
  refine Accounts.bind (accounts_secondBuy _ _ _ _ (by simp [Stage.index]) (fun holding => ?_) _)
  refine Accounts.bind (accounts_transfer _ _ _ (by simp [Stage.index]) (fun refused => ?_) _)
  refine Accounts.bind (accounts_transferBack _ _ _ (by simp [Stage.index]) fun back => ?_)
  exact hQ _ _ _ _ _ _

end PublicRouter

namespace TransitRouter

theorem accounts_prepare {Q : Address → Standing → Prop} (ht : t.isBefore .prepare)
    (hQ : ∀ a, Q a (.working .prepare)) : (prepare box profile config).Accounts t Q := by
  unfold prepare
  refine Accounts.bind (accounts_enter ht ?_)
  refine Accounts.bind (accounts_begin ⟨_, _, rfl⟩ (keeps_request rfl) fun _ => ?_)
  refine Accounts.bind (accounts_within (keeps_ofExcept _) fun code => ?_)
  exact accounts_within (keeps_deploy _ _ _ _) hQ

theorem accounts_buy {Q : Address × Receipt × Swap.TransitReport → Standing → Prop}
    (ht : t.isBefore .buy) (hQ : ∀ a, Q a (.working .buy)) (router : Address) :
    (buy box profile config token router).Accounts t Q := by
  unfold buy
  refine Accounts.bind (accounts_enter ht ?_)
  refine Accounts.bind (accounts_begin ⟨_, _, rfl⟩ (keeps_request rfl) fun _ => ?_)
  refine Accounts.bind (accounts_within (keeps_query _ _) fun pair => ?_)
  refine Accounts.bind (accounts_within (keeps_allow _ _ _) fun _ => ?_)
  refine Accounts.bind (accounts_within (keeps_allow _ _ _) fun _ => ?_)
  refine Accounts.bind (accounts_within (keeps_send _) fun receipt => ?_)
  refine Accounts.bind (accounts_within (keeps_ofExcept _) fun report => ?_)
  exact hQ _

theorem accounts_transferCheck {Q : Unit → Standing → Prop} (ht : t.isBefore .transferCheck)
    (hQ : ∀ a, Q a (.working .transferCheck)) (router : Address) :
    (transferCheck box config token router).Accounts t Q := by
  unfold transferCheck
  refine Accounts.bind (accounts_enter ht ?_)
  refine Accounts.bind (accounts_begin ⟨_, _, rfl⟩ (keeps_request rfl) fun _ => ?_)
  refine Accounts.bind (accounts_within (keeps_allow _ _ _) fun _ => ?_)
  refine Accounts.bind (accounts_within (keeps_allow _ _ _) fun _ => ?_)
  refine Accounts.bind (accounts_within (keeps_send _) fun _ => ?_)
  exact hQ _

theorem accounts_sellCheck {Q : Receipt × Swap.TransitReport × Word → Standing → Prop}
    (ht : t.isBefore .sellCheck) (hQ : ∀ a, Q a (.working .sellCheck)) (router pair : Address) :
    (sellCheck box profile config token router pair).Accounts t Q := by
  unfold sellCheck
  refine Accounts.bind (accounts_enter ht ?_)
  refine Accounts.bind (accounts_begin ⟨_, _, rfl⟩ (keeps_request rfl) fun _ => ?_)
  refine Accounts.bind (accounts_within (keeps_query _ _) fun holding => ?_)
  refine Accounts.bind (accounts_within (keeps_send _) fun receipt => ?_)
  refine Accounts.bind (accounts_within (keeps_ofExcept _) fun report => ?_)
  refine Accounts.bind (accounts_within (keeps_request rfl) fun price => ?_)
  exact hQ _

theorem accounts_probe {Q : Verdict → Standing → Prop}
    (hQ : ∀ bought sold buyReport sellReport price t,
      Q (verdictOf bought sold buyReport sellReport price) t) :
    (probe box profile config token).Accounts .outside Q := by
  unfold probe
  refine Accounts.bind (accounts_prepare _ _ _ (by simp) fun router => ?_)
  refine Accounts.bind (accounts_ensureLiquidity _ _ _ _ fun t ht => ?_)
  refine Accounts.bind (accounts_buy _ _ _ _ ht (fun bought => ?_) _)
  refine Accounts.bind (accounts_transferCheck _ _ _ (by simp [Stage.index]) (fun _ => ?_) _)
  refine Accounts.bind (accounts_sellCheck _ _ _ _ (by simp [Stage.index]) (fun sold => ?_) _ _)
  exact hQ _ _ _ _ _ _

end TransitRouter

/-- A verdict that the stages themselves end with is good, and every failure has the right label. -/
theorem accounts_stages (protocol : Protocol) :
    (stages protocol box profile config token).Accounts .outside
      fun v _ => v.isSellable = true ∧ v.failedStage = none := by
  cases protocol with
  | publicRouter => exact PublicRouter.accounts_probe _ _ _ _ fun _ _ _ _ _ _ => ⟨rfl, rfl⟩
  | transitRouter => exact TransitRouter.accounts_probe _ _ _ _ fun _ _ _ _ _ _ => ⟨rfl, rfl⟩

/-! ## The stage in a verdict -/

theorem getLast?_stages {es : List Event} {s : Stage}
    (h : Standing.outside.after es = .working s) : (Event.stages es).getLast? = some s := by
  have hlast := Standing.stage?_after .outside es
  rw [h] at hlast
  simpa [Standing.stage?] using hlast.symm

variable {protocol : Protocol}

/-- A bad verdict names the stage that the probe was at work in. -/
theorem failedStage_verdictOf {es : List Event} {o : Outcome Failure Verdict}
    (h : (stages protocol box profile config token).Path es o)
    (hv : (verdictOf o (Event.lastStage .prepare es)).isSellable = false) :
    ∃ s, Standing.outside.after es = .working s ∧
      (verdictOf o (Event.lastStage .prepare es)).failedStage = some s.name := by
  have haccounts := accounts_stages box profile config token protocol
  cases o with
  | value v =>
    obtain ⟨hgood, -⟩ := haccounts.value h
    rw [verdictOf, hgood] at hv
    cases hv
  | error f => exact ⟨f.stage, haccounts.error h, rfl⟩
  | panic text =>
    obtain ⟨s, hs⟩ := haccounts.panic h
    refine ⟨s, hs, ?_⟩
    rw [Event.lastStage, getLast?_stages hs]
    rfl

theorem failedStage_eq_none {es : List Event} {o : Outcome Failure Verdict}
    (h : (stages protocol box profile config token).Path es o)
    (hv : (verdictOf o (Event.lastStage .prepare es)).isSellable = true) :
    (verdictOf o (Event.lastStage .prepare es)).failedStage = none := by
  cases o with
  | value v => exact ((accounts_stages box profile config token protocol).value h).2
  | error f => cases hv
  | panic text => cases hv

/-- The first thing that a probe does is to enter the preparation. -/
theorem head?_stages {es : List Event} {o : Outcome Failure Verdict}
    (h : (stages protocol box profile config token).Path es o) :
    (Event.stages es).head? = some .prepare := by
  obtain ⟨next, hnext⟩ : ∃ next, stages protocol box profile config token =
      Program.enter .prepare next := by
    cases protocol <;> exact ⟨_, rfl⟩
  rw [hnext] at h
  cases h
  rfl

/-- Stages that fail do so at their last request: had that request panicked instead, they would have
asked the same and entered the same stages. -/
theorem run_stages_panicAt {b : Backend} {h : List Request} {r : Request} (text : String)
    (hreq : Event.requests ((stages protocol box profile config token).run b).events = h ++ [r])
    {s : Stage} (hs : Standing.outside.after
      ((stages protocol box profile config token).run b).events = .working s) :
    let work := (stages protocol box profile config token).run (b.panicAt h r text)
    work.outcome = .panic text ∧ Event.requests work.events = h ++ [r] ∧
      Event.stages work.events =
        Event.stages ((stages protocol box profile config token).run b).events := by
  intro work
  obtain ⟨before, reply, behind, hes, hbefore, hbehind⟩ := Event.split_last_request hreq
  have hfork : ∀ h' : List Request, h'.length < ([] ++ Event.requests before).length →
      b.panicAt h r text h' = b h' := by
    intro h' hlt
    funext r'
    refine Backend.panicAt_of_ne fun hsame => ?_
    rw [hsame.1, List.nil_append, hbefore] at hlt
    exact Nat.lt_irrefl _ hlt
  obtain ⟨behind', hes'⟩ := runWith_fork _ hfork hes
  rw [List.nil_append, hbefore, Backend.panicAt_self] at hes'
  change work.events = _ at hes'
  -- Nothing comes behind the panic, and nothing but entries came behind the reply before.
  have hpath : (stages protocol box profile config token).Path work.events work.outcome :=
    path_runWith _ _ _
  rw [hes'] at hpath
  obtain ⟨rfl, hpanic⟩ := (stages_keeps box profile config token protocol).ends_at_panic hpath
  have hnothing : behind = [] := by
    rw [hes, Standing.after, List.foldl_append, List.foldl_cons] at hs
    exact Standing.eq_nil_of_after_eq_working hbehind hs
  refine ⟨hpanic, ?_, ?_⟩
  · rw [hes', Event.requests_append, hbefore]
    rfl
  · rw [hes', hes, hnothing, Event.stages_append, Event.stages_append]
    rfl

/-- **A failed probe names the last stage it entered.** The stages entered are those of the protocol
in their order, beginning with the preparation. Whatever a probe has failed by, its verdict names
the last of them, and it would ask the same and name the same if the request at which it failed had
panicked. -/
theorem run_names_last_stage {ε : Type} (protocol : Protocol) {b : Backend} (hb : b.Releases) :
    let probe : Program ε Verdict := run protocol box profile config token
    ∃ v, (probe.run b).outcome = .value v ∧
      (Event.stages (probe.run b).events).Pairwise (·.index < ·.index) ∧
      (Event.stages (probe.run b).events).head? = some .prepare ∧
      (∀ s ∈ Event.stages (probe.run b).events, s ∈ protocol.order) ∧
      (v.isSellable = true → v.failedStage = none) ∧
      (v.isSellable = false → ∃ s, (Event.stages (probe.run b).events).getLast? = some s ∧
        v.failedStage = some s.name) ∧
      ∀ h r text, v.isSellable = false →
        Event.requests (probe.run b).events = h ++ [r, .lock box.sentinel, .destroy] →
        Event.requests (probe.run (b.panicAt h r text)).events =
          Event.requests (probe.run b).events ∧
        ∃ v', (probe.run (b.panicAt h r text)).outcome = .value v' ∧ v'.isSellable = false ∧
          v'.failedStage = v.failedStage := by
  intro probe
  have hpath : (stages protocol box profile config token).Path
      ((stages protocol box profile config token).run b).events
      ((stages protocol box profile config token).run b).outcome := path_runWith _ _ _
  have hstages : Event.stages (probe.run b).events = _ :=
    stages_run protocol box profile config token hb
  have hreqs : Event.requests (probe.run b).events = _ :=
    requests_run protocol box profile config token hb
  rw [hstages, hreqs]
  refine ⟨_, outcome_run protocol box profile config token hb,
    ((accounts_stages box profile config token protocol).stages_increasing hpath).1,
    head?_stages box profile config token hpath,
    (stages_keeps box profile config token protocol).enters hpath,
    failedStage_eq_none box profile config token hpath, fun hv => ?_, fun h r text hv hreq => ?_⟩
  · obtain ⟨s, hs, hname⟩ := failedStage_verdictOf box profile config token hpath hv
    exact ⟨s, getLast?_stages hs, hname⟩
  · obtain ⟨s, hs, hname⟩ := failedStage_verdictOf box profile config token hpath hv
    have hwork : Event.requests ((stages protocol box profile config token).run b).events =
        h ++ [r] :=
      List.append_cancel_right (hreq.trans (List.append_cons h r _))
    have hr : r.isWork = true :=
      isWork_of_mem_requests protocol box profile config token b r (by simp [hwork])
    have hb' := hb.panicAt h hr text
    obtain ⟨hpanic, hreq', hstages'⟩ := run_stages_panicAt box profile config token text hwork hs
    refine ⟨?_, _, outcome_run protocol box profile config token hb', ?_, ?_⟩
    · rw [requests_run protocol box profile config token hb', hreq', hwork]
    · rw [hpanic]
      rfl
    · rw [hpanic, hname, Event.lastStage, hstages', getLast?_stages hs]
      rfl

def isUnlimited : Request → Bool
  | .send tx => tx.gas.isNone
  | _ => false

/-- A probe that fails at its first approval, and would fail there in a panic too. -/
theorem run_names_last_stage_approve :
    let probe : Program ProbeError Verdict :=
      run .publicRouter sampleBox sampleProfile {} sampleToken
    let b := failingAt isUnlimited
    b.Releases ∧ ∃ v h r, (probe.run b).outcome = .value v ∧ v.isSellable = false ∧
      v.failedStage = some "Approve" ∧
      Event.requests (probe.run b).events = h ++ [r, .lock sampleBox.sentinel, .destroy] ∧
      ∀ text, ∃ v', (probe.run (b.panicAt h r text)).outcome = .value v' ∧
        v'.failedStage = some "Approve" := by
  intro probe b
  have hb : b.Releases := failingAt_releases _
  obtain ⟨v, hv, -, -, -, -, hnames, hpanic⟩ :=
    run_names_last_stage sampleBox sampleProfile {} sampleToken .publicRouter hb
  change (probe.run b).outcome = .value v at hv
  obtain ⟨hbad, hlast, hlength⟩ : isGood (probe.run b).outcome = false ∧
      (Event.stages (probe.run b).events).getLast? = some .approve ∧
      (Event.requests (probe.run b).events).length = 17 := by decide +kernel
  rw [hv] at hbad
  change v.isSellable = false at hbad
  obtain ⟨s, hs, hname⟩ := hnames hbad
  obtain rfl : Stage.approve = s := Option.some.inj (hlast.symm.trans hs)
  obtain ⟨h, r, hreq⟩ : ∃ h r, Event.requests (probe.run b).events =
      h ++ [r, .lock sampleBox.sentinel, .destroy] := by
    have hreqs : Event.requests (probe.run b).events = _ :=
      requests_run .publicRouter sampleBox sampleProfile {} sampleToken hb
    rw [hreqs] at hlength ⊢
    rcases List.eq_nil_or_concat (Event.requests
      ((stages .publicRouter sampleBox sampleProfile {} sampleToken).run b).events)
      with hnil | ⟨h, r, hwork⟩
    · rw [hnil] at hlength
      cases hlength
    · rw [hwork, List.concat_eq_append, List.append_assoc]
      exact ⟨h, r, rfl⟩
  refine ⟨hb, v, h, r, hv, hbad, hname, hreq, fun text => ?_⟩
  obtain ⟨-, v', hv', -, hsame⟩ := hpanic h r text hbad hreq
  exact ⟨v', hv', hsame.trans hname⟩

end Probe

end SellProbe
