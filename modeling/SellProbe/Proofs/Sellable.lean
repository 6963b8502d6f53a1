import SellProbe.Proofs.Reading

/-!
# What a good verdict rests on

A verdict that a token can be sold is the end of a long chain: every amount, pair and address in it
comes out of a call or a receipt of the same run. For each protocol the chain is written down as a
structure, with the calls, the receipts and the numbers that are read from them; a probe that calls
the token sellable has gone through the chain in order, and its taxes are reckoned from these
numbers (`run_publicRouter_sellable`, `run_transitRouter_sellable`).
-/

open scoped List

namespace SellProbe.Probe

open Program

variable {box : Sandbox} {profile : Profile} {config : Config} {token : Token} {es : List Event}

namespace PublicRouter

/-- The transaction by which the main wallet swaps an amount for itself, with a deadline that is
reckoned from the clock of a stage. -/
def tradeTx (box : Sandbox) (profile : Profile) (config : Config) (stage : Stage) (amount : Word)
    (route : List Address) : Transaction :=
  Contents.swap box.main profile.router amount route config.publicRouter.gas
    (config.deadline (box.clock stage))

/-- What a purchase has read, and what its receipt tells. -/
structure Purchase (box : Sandbox) (profile : Profile) where
  /-- The balance of the main wallet before the swap. -/
  before : Reading Abi.readUint?
  quote : Reading Abi.readUints?
  swap : Swap.Quoted
  quoted : quote.value.getLast? = some swap.calculated
  yields : Swap.output? swap.receipt.logs box.main profile.router = some swap.output
  /-- The balance of the main wallet after the swap. -/
  after : Reading Abi.readUint?

def Purchase.events (x : Purchase box profile) (config : Config) (token : Token)
    (route : List Address) : List Event :=
  [.entered .buy, .called (Contents.balance token.address box.main) x.before,
    .called (Contents.quote profile.router config.publicRouter.buyAmount route) x.quote,
    .sent (tradeTx box profile config .buy config.publicRouter.buyAmount route) x.swap.receipt,
    .called (Contents.balance token.address box.main) x.after]

def approvalEvents (box : Sandbox) (profile : Profile) (token : Token)
    (approved approvedTransit : Receipt) : List Event :=
  [.entered .approve, .sent (Contents.approval box.main token.address profile.router) approved,
    .sent (Contents.approval box.transit token.address profile.router) approvedTransit]

structure Sale (box : Sandbox) (profile : Profile) where
  /-- The balance of the main wallet, all of which is sold. -/
  holding : Reading Abi.readUint?
  quote : Reading Abi.readUints?
  swap : Swap.Quoted
  quoted : quote.value.getLast? = some swap.calculated
  yields : Swap.output? swap.receipt.logs box.main profile.router = some swap.output

def Sale.events (x : Sale box profile) (config : Config) (token : Token)
    (route : List Address) : List Event :=
  [.entered .sell, .called (Contents.balance token.address box.main) x.holding,
    .called (Contents.quote profile.router x.holding.value route) x.quote,
    .sent (tradeTx box profile config .sell x.holding.value route) x.swap.receipt]

theorem quote_of_prepare {quote : Address}
    (h : (prepare box profile config).Path es (.value quote)) :
    quote = config.quoteFor profile.wrappedNative := by
  unfold prepare at h
  obtain ⟨_, es₁, es₂, rfl, -, h⟩ := h.of_bind_value
  obtain ⟨_, es₃, es₄, rfl, -, h⟩ := h.of_bind_value
  obtain ⟨resolved, es₅, es₆, rfl, hresolve, h⟩ := h.of_bind_value
  obtain ⟨_, es₇, es₈, rfl, -, h⟩ := h.of_bind_value
  cases h
  exact hresolve.of_within.of_resolve

theorem purchase_of_buy {route : List Address} {swap : Swap.Quoted} {gained : Word}
    (h : (buy box profile config token route).Path es (.value (swap, gained))) :
    ∃ x : Purchase box profile, x.swap = swap ∧
      gained = Word.subClamped x.after.value x.before.value ∧
      x.events config token route <+ es := by
  unfold buy at h
  obtain ⟨_, es₁, es₂, rfl, henter, h⟩ := h.of_bind_value
  obtain ⟨_, es₃, es₄, rfl, -, h⟩ := h.of_bind_value
  obtain ⟨_, es₅, es₆, rfl, hbefore, h⟩ := h.of_bind_value
  obtain ⟨_, es₇, es₈, rfl, htrade, h⟩ := h.of_bind_value
  obtain ⟨_, es₉, es₁₀, rfl, hafter, h⟩ := h.of_bind_value
  cases h
  obtain rfl := henter.of_enter
  obtain ⟨before, rfl, rfl⟩ := hbefore.of_within.of_balanceOf
  obtain ⟨quote, hquoted, hyields, hswap⟩ := htrade.of_within.of_swapWithQuote
  obtain ⟨after, rfl, rfl⟩ := hafter.of_within.of_balanceOf
  refine ⟨⟨before, quote, swap, hquoted, hyields, after⟩, rfl, rfl, .cons_cons _ ?_⟩
  refine .trans (.cons_cons _ ?_) (List.sublist_append_right _ _)
  exact hswap.append (List.sublist_append_left _ _)

theorem approvals_of_approve {u : Unit}
    (h : (approve box profile config token).Path es (.value u)) :
    ∃ approved approvedTransit,
      approvalEvents box profile token approved approvedTransit <+ es := by
  unfold approve at h
  obtain ⟨_, es₁, es₂, rfl, henter, h⟩ := h.of_bind_value
  obtain ⟨approved, es₃, es₄, rfl, hmain, h⟩ := h.of_bind_value
  obtain ⟨approvedTransit, es₅, es₆, rfl, htransit, h⟩ := h.of_bind_value
  obtain rfl := henter.of_enter
  obtain rfl := hmain.of_within.of_approve
  obtain rfl := htransit.of_within.of_approve
  exact ⟨approved, approvedTransit, .cons_cons _ (.cons_cons _ (List.sublist_append_left _ _))⟩

theorem sale_of_sell {route : List Address} {swap : Swap.Quoted}
    (h : (sell box profile config token route).Path es (.value swap)) :
    ∃ x : Sale box profile, x.swap = swap ∧ x.events config token route <+ es := by
  unfold sell at h
  obtain ⟨_, es₁, es₂, rfl, henter, h⟩ := h.of_bind_value
  obtain ⟨_, es₃, es₄, rfl, hholding, h⟩ := h.of_bind_value
  obtain ⟨_, es₅, es₆, rfl, htrade, h⟩ := h.of_bind_value
  obtain ⟨_, es₇, es₈, rfl, -, h⟩ := h.of_bind_value
  cases h
  obtain rfl := henter.of_enter
  obtain ⟨holding, rfl, rfl⟩ := hholding.of_within.of_balanceOf
  obtain ⟨quote, hquoted, hyields, hswap⟩ := htrade.of_within.of_swapWithQuote
  refine ⟨⟨holding, quote, swap, hquoted, hyields⟩, rfl, .cons_cons _ (.cons_cons _ ?_)⟩
  exact hswap.trans (List.sublist_append_left _ _)

theorem secondBuy_entered {route : List Address} {holding : Word}
    (h : (secondBuy box profile config token route).Path es (.value holding)) :
    [.entered .secondBuy] <+ es := by
  unfold secondBuy at h
  obtain ⟨_, es₁, es₂, rfl, henter, -⟩ := h.of_bind_value
  obtain rfl := henter.of_enter
  exact List.sublist_append_left _ _

/-- What the stages of a good verdict have been, up to the second purchase. -/
theorem trades_before_secondBuy {v : Verdict}
    (h : (probe box profile config token).Path es (.value v)) :
    let quote := config.quoteFor profile.wrappedNative
    let buyRoute := Swap.buyRoute profile.wrappedNative quote token.address
    let sellRoute := Swap.sellRoute profile.wrappedNative quote token.address
    ∃ (bought : Purchase box profile) (approved approvedTransit : Receipt)
      (sold : Sale box profile),
      bought.events config token buyRoute ++
          (approvalEvents box profile token approved approvedTransit ++
            (sold.events config token sellRoute ++ [.entered .secondBuy])) <+ es ∧
      v.buyTax = Swap.tax bought.swap.calculated
        (Word.subClamped bought.after.value bought.before.value) ∧
      v.sellTax = Swap.tax sold.swap.calculated sold.swap.output := by
  unfold probe at h
  obtain ⟨quote, es₁, es₂, rfl, hprepare, h⟩ := h.of_bind_value
  obtain ⟨_, es₃, es₄, rfl, -, h⟩ := h.of_bind_value
  obtain ⟨⟨swap, gained⟩, es₅, es₆, rfl, hbuy, h⟩ := h.of_bind_value
  obtain ⟨_, es₇, es₈, rfl, happrove, h⟩ := h.of_bind_value
  obtain ⟨_, es₉, es₁₀, rfl, hsell, h⟩ := h.of_bind_value
  obtain ⟨_, es₁₁, es₁₂, rfl, hsecond, h⟩ := h.of_bind_value
  obtain ⟨_, es₁₃, es₁₄, rfl, -, h⟩ := h.of_bind_value
  obtain ⟨⟨_, price⟩, es₁₅, es₁₆, rfl, -, h⟩ := h.of_bind_value
  cases h
  obtain rfl := quote_of_prepare hprepare
  obtain ⟨bought, rfl, rfl, hbought⟩ := purchase_of_buy hbuy
  obtain ⟨approved, approvedTransit, happroved⟩ := approvals_of_approve happrove
  obtain ⟨sold, rfl, hsold⟩ := sale_of_sell hsell
  have hentered : [.entered .secondBuy] <+ es₁₁ ++ (es₁₃ ++ (es₁₅ ++ [])) :=
    (secondBuy_entered hsecond).trans (List.sublist_append_left _ _)
  refine ⟨bought, approved, approvedTransit, sold, ?_, rfl, rfl⟩
  refine .trans ?_ (List.sublist_append_right es₁ _)
  refine .trans ?_ (List.sublist_append_right es₃ _)
  exact hbought.append (happroved.append (hsold.append hentered))

theorem trades_of_probe {v : Verdict}
    (h : (probe box profile config token).Path es (.value v)) :
    let quote := config.quoteFor profile.wrappedNative
    let buyRoute := Swap.buyRoute profile.wrappedNative quote token.address
    let sellRoute := Swap.sellRoute profile.wrappedNative quote token.address
    ∃ (bought : Purchase box profile) (approved approvedTransit : Receipt)
      (sold : Sale box profile),
      bought.events config token buyRoute ++
          (approvalEvents box profile token approved approvedTransit ++
            sold.events config token sellRoute) <+ es ∧
      v.buyTax = Swap.tax bought.swap.calculated
        (Word.subClamped bought.after.value bought.before.value) ∧
      v.sellTax = Swap.tax sold.swap.calculated sold.swap.output := by
  intro quote buyRoute sellRoute
  obtain ⟨bought, approved, approvedTransit, sold, htrades, htaxes⟩ := trades_before_secondBuy h
  refine ⟨bought, approved, approvedTransit, sold, .trans ?_ htrades, htaxes⟩
  exact .append (.refl _) (.append (.refl _) (List.sublist_append_left _ _))

end PublicRouter

namespace TransitRouter

structure Deployment (config : Config) where
  code : Bytes
  configured : config.transitRouterCode = some code
  receipt : Receipt
  router : Address
  created : receipt.created = some router

def Deployment.events (x : Deployment config) (box : Sandbox) (profile : Profile) : List Event :=
  [.entered .prepare,
    .sent
      { sender := some box.transit, target := none
        data := x.code ++ Abi.encode [.address profile.factory, .address profile.wrappedNative]
        value := none, gas := some config.transitRouter.gas }
      x.receipt]

/-- What a purchase has read, and what the router has reported. -/
structure Purchase where
  pair : Reading Abi.readAddress?
  receipt : Receipt
  report : Swap.TransitReport
  reported : Swap.TransitReport.ofLogs? receipt.logs = some report

def Purchase.events (x : Purchase) (box : Sandbox) (profile : Profile) (config : Config)
    (token : Token) (router : Address) : List Event :=
  [.entered .buy,
    .called (Contents.pair profile.factory token.address profile.wrappedNative) x.pair,
    .sent (Contents.transitPurchase box.main router [profile.wrappedNative, token.address]
      x.pair.value config.transitRouter.buyAmount config.transitRouter.gas) x.receipt]

def checkEvents (box : Sandbox) (config : Config) (token : Token) (router : Address)
    (receipt : Receipt) : List Event :=
  [.entered .transferCheck,
    .sent (Contents.transferCheck box.main router token.address box.transit
      config.transitRouter.gas) receipt]

structure Sale where
  /-- The balance of the main wallet, all of which is sold. -/
  holding : Reading Abi.readUint?
  receipt : Receipt
  report : Swap.TransitReport
  reported : Swap.TransitReport.ofLogs? receipt.logs = some report

def Sale.events (x : Sale) (box : Sandbox) (profile : Profile) (config : Config) (token : Token)
    (router pair : Address) : List Event :=
  [.entered .sellCheck, .called (Contents.balance token.address box.main) x.holding,
    .sent (Contents.transitSale box.main router [token.address, profile.wrappedNative] pair
      x.holding.value config.transitRouter.gas) x.receipt]

theorem reportOf_eq_ok {receipt : Receipt} {report : Swap.TransitReport}
    (h : reportOf receipt = .ok report) :
    Swap.TransitReport.ofLogs? receipt.logs = some report := by
  unfold reportOf at h
  split at h <;> cases h
  assumption

theorem routerCode_eq_ok {code : Bytes} (h : routerCode config = .ok code) :
    config.transitRouterCode = some code := by
  unfold routerCode at h
  split at h <;> cases h
  assumption

theorem deployment_of_prepare {router : Address}
    (h : (prepare box profile config).Path es (.value router)) :
    ∃ x : Deployment config, x.router = router ∧ x.events box profile <+ es := by
  unfold prepare at h
  obtain ⟨_, es₁, es₂, rfl, henter, h⟩ := h.of_bind_value
  obtain ⟨_, es₃, es₄, rfl, -, h⟩ := h.of_bind_value
  obtain ⟨code, es₅, es₆, rfl, hcode, hdeploy⟩ := h.of_bind_value
  obtain rfl := henter.of_enter
  obtain ⟨rfl, hconfigured⟩ := hcode.of_within.of_ofExcept
  obtain ⟨receipt, rfl, hcreated⟩ := hdeploy.of_within.of_deploy
  refine ⟨⟨code, routerCode_eq_ok hconfigured, receipt, router, hcreated⟩, rfl, .cons_cons _ ?_⟩
  exact List.sublist_append_right _ _

theorem purchase_of_buy {router pair : Address} {receipt : Receipt} {report : Swap.TransitReport}
    (h : (buy box profile config token router).Path es (.value (pair, receipt, report))) :
    ∃ x : Purchase, x.pair.value = pair ∧ x.receipt = receipt ∧ x.report = report ∧
      x.events box profile config token router <+ es := by
  unfold buy at h
  obtain ⟨_, es₁, es₂, rfl, henter, h⟩ := h.of_bind_value
  obtain ⟨_, es₃, es₄, rfl, -, h⟩ := h.of_bind_value
  obtain ⟨_, es₅, es₆, rfl, hpair, h⟩ := h.of_bind_value
  obtain ⟨_, es₇, es₈, rfl, -, h⟩ := h.of_bind_value
  obtain ⟨_, es₉, es₁₀, rfl, -, h⟩ := h.of_bind_value
  obtain ⟨_, es₁₁, es₁₂, rfl, hbuy, h⟩ := h.of_bind_value
  obtain ⟨_, es₁₃, es₁₄, rfl, hreport, h⟩ := h.of_bind_value
  cases h
  obtain rfl := henter.of_enter
  obtain ⟨pair, rfl, rfl⟩ := hpair.of_within.of_getPair
  obtain rfl := hbuy.of_within.of_transitBuy
  obtain ⟨rfl, hreported⟩ := hreport.of_within.of_ofExcept
  refine ⟨⟨pair, receipt, report, reportOf_eq_ok hreported⟩, rfl, rfl, rfl, .cons_cons _ ?_⟩
  refine .trans (.cons_cons _ ?_) (List.sublist_append_right _ _)
  exact (List.sublist_append_right _ _).trans (List.sublist_append_right _ _)

theorem check_of_transferCheck {router : Address} {u : Unit}
    (h : (transferCheck box config token router).Path es (.value u)) :
    ∃ receipt, checkEvents box config token router receipt <+ es := by
  unfold transferCheck at h
  obtain ⟨_, es₁, es₂, rfl, henter, h⟩ := h.of_bind_value
  obtain ⟨_, es₃, es₄, rfl, -, h⟩ := h.of_bind_value
  obtain ⟨_, es₅, es₆, rfl, -, h⟩ := h.of_bind_value
  obtain ⟨_, es₇, es₈, rfl, -, h⟩ := h.of_bind_value
  obtain ⟨receipt, es₉, es₁₀, rfl, hcheck, h⟩ := h.of_bind_value
  cases h
  obtain rfl := henter.of_enter
  obtain rfl := hcheck.of_within.of_transferCheck
  refine ⟨receipt, .cons_cons _ ?_⟩
  exact ((List.sublist_append_right _ _).trans (List.sublist_append_right _ _)).trans
    (List.sublist_append_right _ _)

theorem sale_of_sellCheck {router pair : Address} {receipt : Receipt}
    {report : Swap.TransitReport} {price : Word}
    (h : (sellCheck box profile config token router pair).Path es
      (.value (receipt, report, price))) :
    ∃ x : Sale, x.receipt = receipt ∧ x.report = report ∧
      x.events box profile config token router pair <+ es := by
  unfold sellCheck at h
  obtain ⟨_, es₁, es₂, rfl, henter, h⟩ := h.of_bind_value
  obtain ⟨_, es₃, es₄, rfl, -, h⟩ := h.of_bind_value
  obtain ⟨_, es₅, es₆, rfl, hholding, h⟩ := h.of_bind_value
  obtain ⟨_, es₇, es₈, rfl, hsell, h⟩ := h.of_bind_value
  obtain ⟨_, es₉, es₁₀, rfl, hreport, h⟩ := h.of_bind_value
  obtain ⟨_, es₁₁, es₁₂, rfl, -, h⟩ := h.of_bind_value
  cases h
  obtain rfl := henter.of_enter
  obtain ⟨holding, rfl, rfl⟩ := hholding.of_within.of_balanceOf
  obtain rfl := hsell.of_within.of_transitSell
  obtain ⟨rfl, hreported⟩ := hreport.of_within.of_ofExcept
  refine ⟨⟨holding, receipt, report, reportOf_eq_ok hreported⟩, rfl, rfl, .cons_cons _ ?_⟩
  refine .trans (.cons_cons _ ?_) (List.sublist_append_right _ _)
  exact List.sublist_append_left _ _

/-- What the stages of a good verdict have been. -/
theorem trades_of_probe {v : Verdict}
    (h : (probe box profile config token).Path es (.value v)) :
    ∃ (deployed : Deployment config) (bought : Purchase) (checked : Receipt) (sold : Sale),
      deployed.events box profile ++
          (bought.events box profile config token deployed.router ++
            (checkEvents box config token deployed.router checked ++
              sold.events box profile config token deployed.router bought.pair.value)) <+ es ∧
      v.buyTax = Swap.tax bought.report.calculated bought.report.output ∧
      v.sellTax = Swap.tax sold.report.calculated sold.report.output ∧
      v.transferError = none := by
  unfold probe at h
  obtain ⟨router, es₁, es₂, rfl, hprepare, h⟩ := h.of_bind_value
  obtain ⟨_, es₃, es₄, rfl, -, h⟩ := h.of_bind_value
  obtain ⟨⟨pair, receipt, report⟩, es₅, es₆, rfl, hbuy, h⟩ := h.of_bind_value
  obtain ⟨_, es₇, es₈, rfl, hcheck, h⟩ := h.of_bind_value
  obtain ⟨⟨receipt', report', price⟩, es₉, es₁₀, rfl, hsell, h⟩ := h.of_bind_value
  cases h
  obtain ⟨deployed, rfl, hdeployed⟩ := deployment_of_prepare hprepare
  obtain ⟨bought, rfl, rfl, rfl, hbought⟩ := purchase_of_buy hbuy
  obtain ⟨checked, hchecked⟩ := check_of_transferCheck hcheck
  obtain ⟨sold, rfl, rfl, hsold⟩ := sale_of_sellCheck hsell
  refine ⟨deployed, bought, checked, sold, hdeployed.append ?_, rfl, rfl, rfl⟩
  refine .trans ?_ (List.sublist_append_right es₃ _)
  exact hbought.append (hchecked.append (hsold.trans (List.sublist_append_left _ _)))

end TransitRouter

/-! ## Good verdicts -/

/-- **What a good verdict through the public router rests on.** Against any backend, a probe that
calls the token sellable has read the balance, been quoted the purchase, bought, read the balance
again, approved the router from both wallets, read the balance, been quoted its sale and sold all of
it, in this order. The tax on buying is that of the gain in balance against the quote, and the tax
on selling is that of what the sale has given against its quote. -/
theorem run_publicRouter_sellable {ε : Type} {b : Backend} {v : Verdict}
    (hrun : ((run .publicRouter box profile config token : Program ε Verdict).run b).outcome =
      .value v) (hv : v.isSellable = true) :
    let quote := config.quoteFor profile.wrappedNative
    let buyRoute := Swap.buyRoute profile.wrappedNative quote token.address
    let sellRoute := Swap.sellRoute profile.wrappedNative quote token.address
    ∃ (bought : PublicRouter.Purchase box profile) (approved approvedTransit : Receipt)
      (sold : PublicRouter.Sale box profile),
      bought.events config token buyRoute ++
          (PublicRouter.approvalEvents box profile token approved approvedTransit ++
            sold.events config token sellRoute) <+
        ((run .publicRouter box profile config token : Program ε Verdict).run b).events ∧
      v.buyTax = Swap.tax bought.swap.calculated
        (BitVec.ofNat 256 (bought.after.value.toNat - bought.before.value.toNat)) ∧
      v.sellTax = Swap.tax sold.swap.calculated sold.swap.output := by
  intro quote buyRoute sellRoute
  obtain ⟨work, rest, hes, -, hwork⟩ := exists_work_of_sellable hrun hv
  obtain ⟨bought, approved, approvedTransit, sold, htrades, hbuyTax, hsellTax⟩ :=
    PublicRouter.trades_of_probe hwork
  refine ⟨bought, approved, approvedTransit, sold, ?_, ?_, hsellTax⟩
  · rw [hes]
    exact htrades.trans (List.sublist_append_left _ _)
  · rw [hbuyTax, ← Word.toNat_subClamped, BitVec.ofNat_toNat, BitVec.setWidth_eq]

theorem exists_verdict_of_isGood {ε : Type} {o : Outcome ε Verdict} (h : isGood o = true) :
    ∃ v, o = .value v ∧ v.isSellable = true := by
  cases o with
  | value v => exact ⟨v, rfl, h⟩
  | error e => cases h
  | panic text => cases h

/-- A token that can be sold through the public router. -/
theorem run_publicRouter_sellable_sample :
    let b := failingAt fun _ => false
    let probe : Program ProbeError Verdict :=
      run .publicRouter sampleBox sampleProfile {} sampleToken
    let quote := Config.quoteFor {} sampleProfile.wrappedNative
    let buyRoute := Swap.buyRoute sampleProfile.wrappedNative quote sampleToken.address
    let sellRoute := Swap.sellRoute sampleProfile.wrappedNative quote sampleToken.address
    ∃ v, (probe.run b).outcome = .value v ∧ v.isSellable = true ∧
      ∃ (bought : PublicRouter.Purchase sampleBox sampleProfile)
        (approved approvedTransit : Receipt) (sold : PublicRouter.Sale sampleBox sampleProfile),
        bought.events {} sampleToken buyRoute ++
            (PublicRouter.approvalEvents sampleBox sampleProfile sampleToken approved
              approvedTransit ++ sold.events {} sampleToken sellRoute) <+ (probe.run b).events ∧
        v.buyTax = Swap.tax bought.swap.calculated
          (BitVec.ofNat 256 (bought.after.value.toNat - bought.before.value.toNat)) ∧
        v.sellTax = Swap.tax sold.swap.calculated sold.swap.output := by
  intro b probe quote buyRoute sellRoute
  have hgood : isGood (probe.run b).outcome = true := by decide +kernel
  obtain ⟨v, hrun, hv⟩ := exists_verdict_of_isGood hgood
  exact ⟨v, hrun, hv, run_publicRouter_sellable hrun hv⟩

/-- **What a good verdict through the transit router rests on.** Against any backend, a probe that
calls the token sellable has deployed the configured router, looked up the pair, bought through
both, passed the transfer check, read the balance and sold all of it through the same router and
pair, in this order. The taxes are those of the amounts that the router has reported, and no
transaction of such a run has failed, so none of its transfer checks. -/
theorem run_transitRouter_sellable {ε : Type} {b : Backend} {v : Verdict}
    (hrun : ((run .transitRouter box profile config token : Program ε Verdict).run b).outcome =
      .value v) (hv : v.isSellable = true) :
    let events := ((run .transitRouter box profile config token : Program ε Verdict).run b).events
    (∃ (deployed : TransitRouter.Deployment config) (bought : TransitRouter.Purchase)
      (checked : Receipt) (sold : TransitRouter.Sale),
      deployed.events box profile ++
          (bought.events box profile config token deployed.router ++
            (TransitRouter.checkEvents box config token deployed.router checked ++
              sold.events box profile config token deployed.router bought.pair.value)) <+ events ∧
      v.buyTax = Swap.tax bought.report.calculated bought.report.output ∧
      v.sellTax = Swap.tax sold.report.calculated sold.report.output ∧
      v.transferError = none) ∧
    ∀ tx reply, .asked (.send tx) reply ∈ events → ∃ receipt, reply = .value receipt := by
  intro events
  obtain ⟨work, rest, hes, hrest, hwork⟩ := exists_work_of_sellable hrun hv
  change events = work ++ rest at hes
  rw [hes]
  refine ⟨?_, fun tx reply hmem => ?_⟩
  · obtain ⟨deployed, bought, checked, sold, htrades, htaxes⟩ :=
      TransitRouter.trades_of_probe hwork
    exact ⟨deployed, bought, checked, sold, htrades.trans (List.sublist_append_left _ _), htaxes⟩
  · rcases List.mem_append.1 hmem with hmem | hmem
    · exact (stages_keeps box profile config token .transitRouter).answered hwork id hmem
    · have hsend : .send tx ∈ Event.requests rest := List.mem_filterMap.2 ⟨_, hmem, rfl⟩
      simp [hrest] at hsend

/-- A token that can be sold through the transit router. -/
theorem run_transitRouter_sellable_sample :
    let b := failingAt fun _ => false
    let config : Config := { transitRouterCode := some [0x60, 0x00] }
    let probe : Program ProbeError Verdict :=
      run .transitRouter sampleBox sampleProfile config sampleToken
    ∃ v, (probe.run b).outcome = .value v ∧ v.isSellable = true ∧
      (∃ (deployed : TransitRouter.Deployment config) (bought : TransitRouter.Purchase)
        (checked : Receipt) (sold : TransitRouter.Sale),
        deployed.events sampleBox sampleProfile ++
            (bought.events sampleBox sampleProfile config sampleToken deployed.router ++
              (TransitRouter.checkEvents sampleBox config sampleToken deployed.router checked ++
                sold.events sampleBox sampleProfile config sampleToken deployed.router
                  bought.pair.value)) <+ (probe.run b).events ∧
        v.buyTax = Swap.tax bought.report.calculated bought.report.output ∧
        v.sellTax = Swap.tax sold.report.calculated sold.report.output ∧
        v.transferError = none) ∧
      ∀ tx reply, .asked (.send tx) reply ∈ (probe.run b).events →
        ∃ receipt, reply = .value receipt := by
  intro b config probe
  have hgood : isGood (probe.run b).outcome = true := by decide +kernel
  obtain ⟨v, hrun, hv⟩ := exists_verdict_of_isGood hgood
  exact ⟨v, hrun, hv, run_transitRouter_sellable hrun hv⟩

end SellProbe.Probe
