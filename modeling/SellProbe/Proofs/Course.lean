import SellProbe.Proofs.Sellable
import SellProbe.Proofs.Steps

/-!
# The course of a probe

What a probe does to its sandbox, from the first block to the last transfer. A course of a protocol
is given by what is read on the way, and lays down every step: which tokens on a route still lack an
allowance, whether the token needs a pair of its own and what is then written for it, how much is
sold and moved. Every run follows a course of its protocol, as far as it gets, and the changes that
it makes are the beginning of those of the course (`run_follows_course`).
-/

namespace SellProbe.Probe

open Program

/-- What is read of the token's market before the purchase, and while a pair is made. -/
structure Market where
  pair : Address
  supply : Word
  provision : Liquidity.Provision

namespace Market

variable (x : Market) (box : Sandbox) (profile : Profile) (config : Config) (token : Token)

/-- A pair is made if the pair or the supply was read as zero. -/
def steps : List Step :=
  [Step.reads Abi.readAddress?
      (Contents.pair profile.factory token.address profile.wrappedNative) x.pair,
    .reads Abi.readUint? (Contents.totalSupply token.address) x.supply] ++
    if Liquidity.isMissing x.pair x.supply then
      .enter .bootstrap :: x.provision.steps box profile config token
    else []

/-- Nothing is changed for a token that has a pair and a supply. -/
def changes : List Request :=
  if Liquidity.isMissing x.pair x.supply then x.provision.changes box profile config token else []

theorem changes_steps :
    Step.changes (x.steps box profile config token) = x.changes box profile config token := by
  unfold steps changes
  rw [Step.changes_append]
  by_cases hmissing : Liquidity.isMissing x.pair x.supply = true
  · rw [if_pos hmissing, if_pos hmissing, Step.changes_enter, x.provision.changes_steps]
    rfl
  · rw [if_neg hmissing, if_neg hmissing]
    rfl

end Market

theorem planned_ensureLiquidity (box : Sandbox) (profile : Profile) (config : Config)
    (token : Token) :
    (ensureLiquidity box profile config token).Planned fun _ steps =>
      ∃ x : Market, steps = x.steps box profile config token := by
  unfold ensureLiquidity
  refine ((Exchange.planned_getPair _ _ _).within _).andThen fun pair => ?_
  refine ((Erc20.planned_totalSupply _).within _).andThen fun supply => ?_
  split
  next hmissing =>
    refine (planned_enter _).andThen fun _ => ?_
    refine ((Liquidity.planned_provide _ _ _ _).within _).bind ?_
    rintro report _ ⟨provision, rfl⟩
    exact planned_pure ⟨⟨pair, supply, provision⟩, by simp [Market.steps, hmissing]⟩
  next hmissing =>
    exact planned_pure ⟨⟨pair, supply, ⟨[], [], .blank, .blank, 0, FixedBytes.zero 20⟩⟩,
      by simp [Market.steps, hmissing]⟩

variable (box : Sandbox) (profile : Profile) (config : Config) (token : Token)

namespace PublicRouter

def waits : Request := .mine config.publicRouter.mineBlocks

def wrapTx : Transaction :=
  Contents.deposit box.main profile.wrappedNative config.wrapAmount config.publicRouter.gas

def buyRoute : List Address :=
  Swap.buyRoute profile.wrappedNative (config.quoteFor profile.wrappedNative) token.address

def sellRoute : List Address :=
  Swap.sellRoute profile.wrappedNative (config.quoteFor profile.wrappedNative) token.address

structure Trade (route : List Address) where
  allowances : Swap.Allowances route
  promised : List Word

namespace Trade

variable {route : List Address} (x : Trade route)

/-- The router is approved where it has to be and asked for a quote, and then the swap is made. -/
def steps (stage : Stage) (amount : Word) : List Step :=
  x.allowances.steps box.main profile.router ++
    [Step.reads Abi.readUints? (Contents.quote profile.router amount route) x.promised,
      .does (.send (tradeTx box profile config stage amount route))]

def changes (stage : Stage) (amount : Word) : List Request :=
  x.allowances.changes box.main profile.router ++
    [Request.send (tradeTx box profile config stage amount route)]

theorem changes_steps (stage : Stage) (amount : Word) :
    Step.changes (x.steps box profile config stage amount) =
      x.changes box profile config stage amount := by
  unfold steps changes
  rw [Step.changes_append, x.allowances.changes_steps]
  rfl

end Trade

theorem planned_trade (stage : Stage) (amount : Word) (route : List Address) :
    (trade box profile config stage amount route).Planned fun _ steps =>
      ∃ x : Trade route, steps = x.steps box profile config stage amount := by
  rw [trade, Swap.swapWithQuote, Exchange.swap, Exchange.swapTx_eq]
  refine (Swap.planned_ensureAllowance _ _ _).bind ?_
  rintro _ _ ⟨allowances, rfl⟩
  refine (Exchange.planned_quote _ _ _).bind ?_
  rintro calculated _ ⟨promised, rfl⟩
  refine (planned_send _).andThen fun receipt => ?_
  split
  · exact planned_pure ⟨⟨allowances, promised⟩, rfl⟩
  · exact planned_fail ⟨0, 0, receipt⟩ ⟨⟨allowances, promised⟩, rfl⟩

/-- What is read in the course of a probe through the public router. -/
structure Course (profile : Profile) (config : Config) (token : Token) where
  /-- The places of the quote asset. -/
  places : Word
  market : Market
  /-- The balance of the main wallet before the purchase. -/
  before : Word
  bought : Trade (buyRoute profile config token)
  /-- The balance of the main wallet after the purchase. -/
  after : Word
  /-- The balance of the main wallet, all of which is sold. -/
  holding : Word
  sold : Trade (sellRoute profile config token)
  boughtAgain : Trade (buyRoute profile config token)
  /-- The balance of the main wallet, half of which is moved. -/
  balance : Word
  /-- The balance of the transit wallet, all of which is moved back. -/
  received : Word

/-! The steps of the stages, one after another. -/

def prepareSteps (places : Word) : List Step :=
  [Step.enter .prepare, .does (waits config)] ++
    Erc20.resolveSteps (config.quoteFor profile.wrappedNative) places ++
    [Step.does (.send (wrapTx box profile config))]

def buySteps {route : List Address} (before : Word) (bought : Trade route) (after : Word) :
    List Step :=
  [Step.enter .buy, .does (waits config),
      .reads Abi.readUint? (Contents.balance token.address box.main) before] ++
    bought.steps box profile config .buy config.publicRouter.buyAmount ++
    [Step.reads Abi.readUint? (Contents.balance token.address box.main) after]

def approveSteps : List Step :=
  [.enter .approve, .does (.approval box.main token.address profile.router),
    .does (.approval box.transit token.address profile.router), .does (waits config)]

def sellSteps {route : List Address} (holding : Word) (sold : Trade route) : List Step :=
  [Step.enter .sell, .reads Abi.readUint? (Contents.balance token.address box.main) holding] ++
    sold.steps box profile config .sell holding ++ [Step.does (waits config)]

def secondBuySteps {route : List Address} (bought : Trade route) (balance : Word) : List Step :=
  [Step.enter .secondBuy] ++
    bought.steps box profile config .secondBuy config.publicRouter.buyAmount ++
    [Step.reads Abi.readUint? (Contents.balance token.address box.main) balance,
      .does (waits config)]

def transferSteps (balance : Word) : List Step :=
  [.enter .transfer, .tries (.send (peerTransfer config token box.main box.transit (balance / 2))),
    .does (waits config)]

def transferBackSteps (received : Word) : List Step :=
  [.enter .transferBack,
    .reads Abi.readUint? (Contents.balance token.address box.transit) received,
    .tries (.send (peerTransfer config token box.transit box.main received)), .does .gasPrice]

theorem changes_prepareSteps (places : Word) :
    Step.changes (prepareSteps box profile config places) =
      [waits config, .send (wrapTx box profile config)] := rfl

theorem changes_buySteps {route : List Address} (before : Word) (bought : Trade route)
    (after : Word) :
    Step.changes (buySteps box profile config token before bought after) =
      [waits config] ++ bought.changes box profile config .buy config.publicRouter.buyAmount := by
  unfold buySteps
  rw [Step.changes_append, Step.changes_append, bought.changes_steps]
  exact List.append_nil _

theorem changes_sellSteps {route : List Address} (holding : Word) (sold : Trade route) :
    Step.changes (sellSteps box profile config token holding sold) =
      sold.changes box profile config .sell holding ++ [waits config] := by
  unfold sellSteps
  rw [Step.changes_append, Step.changes_append, sold.changes_steps]
  rfl

theorem changes_secondBuySteps {route : List Address} (bought : Trade route) (balance : Word) :
    Step.changes (secondBuySteps box profile config token bought balance) =
      bought.changes box profile config .secondBuy config.publicRouter.buyAmount ++
        [waits config] := by
  unfold secondBuySteps
  rw [Step.changes_append, Step.changes_append, bought.changes_steps]
  rfl

namespace Course

variable {profile config token} (x : Course profile config token)

def steps : List Step :=
  prepareSteps box profile config x.places ++ x.market.steps box profile config token ++
    buySteps box profile config token x.before x.bought x.after ++
    approveSteps box profile config token ++ sellSteps box profile config token x.holding x.sold ++
    secondBuySteps box profile config token x.boughtAgain x.balance ++
    transferSteps box config token x.balance ++ transferBackSteps box config token x.received

def changes : List Request :=
  [waits config, .send (wrapTx box profile config)] ++ x.market.changes box profile config token ++
    [waits config] ++ x.bought.changes box profile config .buy config.publicRouter.buyAmount ++
    [Request.approval box.main token.address profile.router,
      .approval box.transit token.address profile.router, waits config] ++
    x.sold.changes box profile config .sell x.holding ++ [waits config] ++
    x.boughtAgain.changes box profile config .secondBuy config.publicRouter.buyAmount ++
    [waits config, .send (peerTransfer config token box.main box.transit (x.balance / 2)),
      waits config, .send (peerTransfer config token box.transit box.main x.received)]

theorem changes_steps : Step.changes (x.steps box) = x.changes box := by
  have happrove : Step.changes (approveSteps box profile config token) =
      [.approval box.main token.address profile.router,
        .approval box.transit token.address profile.router, waits config] := rfl
  have htransfer : Step.changes (transferSteps box config token x.balance) =
      [.send (peerTransfer config token box.main box.transit (x.balance / 2)), waits config] := rfl
  have hback : Step.changes (transferBackSteps box config token x.received) =
      [.send (peerTransfer config token box.transit box.main x.received)] := rfl
  simp only [steps, changes, Step.changes_append, changes_prepareSteps, Market.changes_steps,
    changes_buySteps, happrove, changes_sellSteps, changes_secondBuySteps, htransfer, hback,
    List.append_assoc, List.cons_append, List.nil_append]

end Course

theorem planned_prepare :
    (prepare box profile config).Planned fun quote steps =>
      quote = config.quoteFor profile.wrappedNative ∧
        ∃ places, steps = prepareSteps box profile config places := by
  unfold prepare
  refine (planned_enter _).andThen fun _ => ?_
  refine ((planned_request (waits config)).within _).andThen fun _ => ?_
  refine ((Erc20.planned_resolve _).within _).bind ?_
  rintro quote _ ⟨hquote, places, rfl⟩
  rw [Exchange.deposit, Exchange.depositTx_eq]
  refine ((planned_send _).within _).andThen fun receipt => ?_
  exact planned_pure ⟨hquote, places, rfl⟩

theorem planned_buy (route : List Address) :
    (buy box profile config token route).Planned fun _ steps =>
      ∃ before after, ∃ bought : Trade route,
        steps = buySteps box profile config token before bought after := by
  unfold buy
  refine (planned_enter _).andThen fun _ => ?_
  refine ((planned_request (waits config)).within _).andThen fun _ => ?_
  refine ((Erc20.planned_balanceOf _ _).within _).andThen fun before => ?_
  refine ((planned_trade _ _ _ _ _ _).within _).bind ?_
  rintro swap _ ⟨bought, rfl⟩
  refine ((Erc20.planned_balanceOf _ _).within _).andThen fun after => ?_
  exact planned_pure ⟨before, after, bought, rfl⟩

theorem planned_approve :
    (approve box profile config token).Planned fun _ steps =>
      steps = approveSteps box profile config token := by
  unfold approve
  refine (planned_enter _).andThen fun _ => ?_
  refine ((Erc20.planned_approve _ _ _).within _).andThen fun approved => ?_
  refine ((Erc20.planned_approve _ _ _).within _).andThen fun approvedTransit => ?_
  refine ((planned_request (waits config)).within _).mono ?_
  rintro _ _ rfl
  rfl

theorem planned_sell (route : List Address) :
    (sell box profile config token route).Planned fun _ steps =>
      ∃ holding, ∃ sold : Trade route, steps = sellSteps box profile config token holding sold := by
  unfold sell
  refine (planned_enter _).andThen fun _ => ?_
  refine ((Erc20.planned_balanceOf _ _).within _).andThen fun holding => ?_
  refine ((planned_trade _ _ _ _ _ _).within _).bind ?_
  rintro swap _ ⟨sold, rfl⟩
  refine ((planned_request (waits config)).within _).andThen fun _ => ?_
  exact planned_pure ⟨holding, sold, rfl⟩

theorem planned_secondBuy (route : List Address) :
    (secondBuy box profile config token route).Planned fun balance steps =>
      ∃ bought : Trade route, steps = secondBuySteps box profile config token bought balance := by
  unfold secondBuy
  refine (planned_enter _).andThen fun _ => ?_
  refine ((planned_trade _ _ _ _ _ _).within _).bind ?_
  rintro swap _ ⟨bought, rfl⟩
  refine ((Erc20.planned_balanceOf _ _).within _).andThen fun balance => ?_
  refine ((planned_request (waits config)).within _).andThen fun _ => ?_
  exact planned_pure ⟨bought, rfl⟩

theorem planned_isRefused (sender recipient : Address) (amount : Word) :
    (isRefused config token sender recipient amount).Planned fun _ steps =>
      steps = [.tries (.send (peerTransfer config token sender recipient amount))] := by
  rw [isRefused, Erc20.transfer, Erc20.transferTx_eq]
  refine planned_ask (r := .send _) (fun _ reply => ∀ t, reply ≠ .panic t) fun reply => ?_
  cases reply with
  | value receipt => exact .inl ⟨false, rfl, by simp⟩
  | error e => exact .inl ⟨true, rfl, by simp⟩
  | panic t => exact .inr ⟨.panic t, rfl, by simp⟩

theorem planned_transfer (balance : Word) :
    (transfer box config token balance).Planned fun _ steps =>
      steps = transferSteps box config token balance := by
  unfold transfer
  refine (planned_enter _).andThen fun _ => ?_
  refine (planned_isRefused _ _ _ _ _).andThen fun refused => ?_
  refine ((planned_request (waits config)).within _).andThen fun _ => ?_
  exact planned_pure rfl

theorem planned_transferBack :
    (transferBack box config token).Planned fun _ steps =>
      ∃ received, steps = transferBackSteps box config token received := by
  unfold transferBack
  refine (planned_enter _).andThen fun _ => ?_
  refine ((Erc20.planned_balanceOf _ _).within _).andThen fun received => ?_
  refine (planned_isRefused _ _ _ _ _).andThen fun refused => ?_
  refine ((planned_request .gasPrice).within _).andThen fun price => ?_
  exact planned_pure ⟨received, rfl⟩

theorem planned_probe :
    (probe box profile config token).Planned fun _ steps =>
      ∃ x : Course profile config token, steps = x.steps box := by
  unfold probe
  refine (planned_prepare _ _ _).bind ?_
  rintro quote _ ⟨rfl, places, rfl⟩
  refine (planned_ensureLiquidity _ _ _ _).bind ?_
  rintro _ _ ⟨market, rfl⟩
  refine (planned_buy _ _ _ _ _).bind ?_
  rintro _ _ ⟨before, after, bought, rfl⟩
  refine (planned_approve _ _ _ _).andThen fun _ => ?_
  refine (planned_sell _ _ _ _ _).bind ?_
  rintro swap _ ⟨holding, sold, rfl⟩
  refine (planned_secondBuy _ _ _ _ _).bind ?_
  rintro balance _ ⟨boughtAgain, rfl⟩
  refine (planned_transfer _ _ _ _).andThen fun refused => ?_
  refine (planned_transferBack _ _ _).bind ?_
  rintro back _ ⟨received, rfl⟩
  refine planned_pure
    ⟨⟨places, market, before, bought, after, holding, sold, boughtAgain, balance, received⟩, ?_⟩
  simp only [Course.steps, List.append_assoc, List.append_nil]
  rfl

end PublicRouter

namespace TransitRouter

def waits : Request := .mine config.transitRouter.mineBlocks

/-- The transaction by which the transit wallet creates the router, with no code if none is set. -/
def deployTx : Transaction :=
  Contents.deployment box.transit (config.transitRouterCode.getD []) profile.factory
    profile.wrappedNative config.transitRouter.gas

def buyTx (router pair : Address) : Transaction :=
  Contents.transitPurchase box.main router [profile.wrappedNative, token.address] pair
    config.transitRouter.buyAmount config.transitRouter.gas

def checkTx (router : Address) : Transaction :=
  Contents.transferCheck box.main router token.address box.transit config.transitRouter.gas

def sellTx (router pair : Address) (holding : Word) : Transaction :=
  Contents.transitSale box.main router [token.address, profile.wrappedNative] pair holding
    config.transitRouter.gas

/-- What is read in the course of a probe through the transit router. -/
structure Course where
  router : Address
  market : Market
  /-- The pair that is traded with. -/
  pair : Address
  /-- The balance of the main wallet, all of which is sold. -/
  holding : Word

/-! The steps of the stages, one after another. -/

def prepareSteps (router : Address) : List Step :=
  [.enter .prepare, .does (waits config),
    .gives (.send (deployTx box profile config)) fun receipt => receipt.created = some router]

def buySteps (router pair : Address) : List Step :=
  [.enter .buy, .does (waits config),
    .reads Abi.readAddress? (Contents.pair profile.factory token.address profile.wrappedNative)
      pair,
    .does (.approval box.main token.address router),
    .does (.approval box.main profile.wrappedNative router),
    .does (.send (buyTx box profile config token router pair))]

def transferCheckSteps (router : Address) : List Step :=
  [.enter .transferCheck, .does (waits config), .does (.approval box.main token.address router),
    .does (.approval box.transit token.address router),
    .does (.send (checkTx box config token router))]

def sellCheckSteps (router pair : Address) (holding : Word) : List Step :=
  [.enter .sellCheck, .does (waits config),
    .reads Abi.readUint? (Contents.balance token.address box.main) holding,
    .does (.send (sellTx box profile config token router pair holding)), .does .gasPrice]

namespace Course

variable (x : Course)

def steps : List Step :=
  prepareSteps box profile config x.router ++ x.market.steps box profile config token ++
    buySteps box profile config token x.router x.pair ++
    transferCheckSteps box config token x.router ++
    sellCheckSteps box profile config token x.router x.pair x.holding

def changes : List Request :=
  [waits config, .send (deployTx box profile config)] ++
    x.market.changes box profile config token ++
    [waits config, .approval box.main token.address x.router,
      .approval box.main profile.wrappedNative x.router,
      .send (buyTx box profile config token x.router x.pair),
      waits config, .approval box.main token.address x.router,
      .approval box.transit token.address x.router, .send (checkTx box config token x.router),
      waits config, .send (sellTx box profile config token x.router x.pair x.holding)]

theorem changes_steps :
    Step.changes (x.steps box profile config token) = x.changes box profile config token := by
  unfold steps
  simp only [Step.changes_append, Market.changes_steps, changes, List.append_assoc]
  rfl

end Course

theorem planned_deploy (wallet : Address) (code : Bytes) (factory wrappedNative : Address)
    (gas : Word) :
    (Transit.deploy { account := wallet, gas := some gas } code factory wrappedNative).Planned
      fun router steps =>
        steps = [.gives (.send (Contents.deployment wallet code factory wrappedNative gas))
          fun receipt => receipt.created = some router] := by
  rw [Transit.deploy, Transit.deployTx_eq]
  refine planned_reading (r := .send _)
    (fun router receipt => Receipt.created receipt = some router) fun (receipt : Receipt) => ?_
  cases hcreated : receipt.created with
  | some router => exact .inl ⟨router, rfl, rfl⟩
  | none => exact .inr ⟨_, rfl⟩

theorem planned_allow (router owner token : Address) :
    (allow router owner token).Planned fun _ steps =>
      steps = [.does (.approval owner token router)] := by
  unfold allow
  refine (Erc20.planned_approve _ _ _).andThen fun receipt => ?_
  exact planned_pure rfl

theorem toOption_routerCode :
    (routerCode config).toOption.getD [] = config.transitRouterCode.getD [] := by
  unfold routerCode
  cases config.transitRouterCode <;> rfl

theorem planned_prepare :
    (prepare box profile config).Planned fun router steps =>
      steps = prepareSteps box profile config router := by
  unfold prepare
  refine (planned_enter _).andThen fun _ => ?_
  refine ((planned_request (waits config)).within _).andThen fun _ => ?_
  refine ((planned_ofExcept _ []).within _).bind ?_
  rintro code _ ⟨rfl, rfl⟩
  rw [toOption_routerCode]
  refine ((planned_deploy _ _ _ _ _).within _).mono ?_
  rintro router _ rfl
  rfl

theorem planned_buy (router : Address) :
    (buy box profile config token router).Planned fun bought steps =>
      steps = buySteps box profile config token router bought.1 := by
  unfold buy
  refine (planned_enter _).andThen fun _ => ?_
  refine ((planned_request (waits config)).within _).andThen fun _ => ?_
  refine ((Exchange.planned_getPair _ _ _).within _).andThen fun pair => ?_
  refine ((planned_allow _ _ _).within _).andThen fun _ => ?_
  refine ((planned_allow _ _ _).within _).andThen fun _ => ?_
  rw [Transit.buy, sender, Transit.buyTx_eq]
  refine ((planned_send _).within _).andThen fun receipt => ?_
  refine ((planned_ofExcept _ ⟨0, 0, 0, 0⟩).within _).bind ?_
  rintro report _ ⟨-, rfl⟩
  exact planned_pure rfl

theorem planned_transferCheck (router : Address) :
    (transferCheck box config token router).Planned fun _ steps =>
      steps = transferCheckSteps box config token router := by
  unfold transferCheck
  refine (planned_enter _).andThen fun _ => ?_
  refine ((planned_request (waits config)).within _).andThen fun _ => ?_
  refine ((planned_allow _ _ _).within _).andThen fun _ => ?_
  refine ((planned_allow _ _ _).within _).andThen fun _ => ?_
  rw [Transit.transferCheck, sender, Transit.transferCheckTx_eq]
  refine ((planned_send _).within _).andThen fun receipt => ?_
  exact planned_pure rfl

theorem planned_sellCheck (router pair : Address) :
    (sellCheck box profile config token router pair).Planned fun _ steps =>
      ∃ holding, steps = sellCheckSteps box profile config token router pair holding := by
  unfold sellCheck
  refine (planned_enter _).andThen fun _ => ?_
  refine ((planned_request (waits config)).within _).andThen fun _ => ?_
  refine ((Erc20.planned_balanceOf _ _).within _).andThen fun holding => ?_
  rw [Transit.sell, sender, Transit.sellTx_eq]
  refine ((planned_send _).within _).andThen fun receipt => ?_
  refine ((planned_ofExcept _ ⟨0, 0, 0, 0⟩).within _).bind ?_
  rintro report _ ⟨-, rfl⟩
  refine ((planned_request .gasPrice).within _).andThen fun price => ?_
  exact planned_pure ⟨holding, rfl⟩

theorem planned_probe :
    (probe box profile config token).Planned fun _ steps =>
      ∃ x : Course, steps = x.steps box profile config token := by
  unfold probe
  refine (planned_prepare _ _ _).andThen fun router => ?_
  refine (planned_ensureLiquidity _ _ _ _).bind ?_
  rintro _ _ ⟨market, rfl⟩
  refine (planned_buy _ _ _ _ _).bind ?_
  rintro ⟨pair, bought, buyReport⟩ _ rfl
  refine (planned_transferCheck _ _ _ _).andThen fun _ => ?_
  refine (planned_sellCheck _ _ _ _ _ _).bind ?_
  rintro sold _ ⟨holding, rfl⟩
  refine planned_pure ⟨⟨router, market, pair, holding⟩, ?_⟩
  simp only [Course.steps, List.append_assoc, List.append_nil]

end TransitRouter

/-! ## Every run follows a course -/

/-- A course of a protocol: its steps, and all that it changes. -/
inductive IsCourse : Protocol → List Step → List Request → Prop
  | publicRouter (x : PublicRouter.Course profile config token) :
      IsCourse .publicRouter (x.steps box) (x.changes box)
  | transitRouter (x : TransitRouter.Course) :
      IsCourse .transitRouter (x.steps box profile config token)
        (x.changes box profile config token)

variable {box profile config token}

theorem IsCourse.changes_steps {protocol : Protocol} {steps : List Step} {changes : List Request}
    (h : IsCourse box profile config token protocol steps changes) :
    Step.changes steps = changes := by
  cases h with
  | publicRouter x => exact x.changes_steps box
  | transitRouter x => exact x.changes_steps box profile config token

theorem planned_stages (protocol : Protocol) :
    (stages protocol box profile config token).Planned fun _ steps =>
      ∃ changes, IsCourse box profile config token protocol steps changes := by
  cases protocol with
  | publicRouter =>
    refine (PublicRouter.planned_probe box profile config token).mono ?_
    rintro v _ ⟨x, rfl⟩
    exact ⟨_, .publicRouter x⟩
  | transitRouter =>
    refine (TransitRouter.planned_probe box profile config token).mono ?_
    rintro v _ ⟨x, rfl⟩
    exact ⟨_, .transitRouter x⟩

/-- Nothing is changed while a sandbox is given back. -/
theorem changes_eq_nil_of_cleanup {cleanup : List Event}
    (h : Event.requests cleanup <+: [.lock box.sentinel, .destroy]) :
    Event.changes cleanup = [] := by
  have hnone : ([.lock box.sentinel, .destroy] : List Request).filter Request.isChange = [] := rfl
  exact List.prefix_nil.1 (hnone ▸ h.filter _)

/-- An event with changes behind it is part of the work, if nothing is changed after that. -/
theorem exists_work_behind {work cleanup before behind : List Event} {e : Event}
    (hcleanup : Event.changes cleanup = []) (h : work ++ cleanup = before ++ e :: behind)
    (hbehind : Event.changes behind ≠ []) : ∃ rest, work = before ++ e :: rest ∧ rest ≠ [] := by
  have hnot : ∀ more, cleanup ≠ more ++ e :: behind := by
    rintro more rfl
    rw [← List.singleton_append, Event.changes_append, Event.changes_append] at hcleanup
    exact hbehind (List.append_eq_nil_iff.1 (List.append_eq_nil_iff.1 hcleanup).2).2
  rcases List.append_eq_append_iff.1 h with ⟨more, -, hrest⟩ | ⟨more, hwork, hrest⟩
  · exact (hnot more hrest).elim
  · cases more with
    | nil => exact (hnot [] hrest.symm).elim
    | cons e' rest =>
      obtain ⟨rfl, hsplit⟩ := List.cons.inj hrest
      refine ⟨rest, hwork, ?_⟩
      rintro rfl
      obtain rfl : behind = cleanup := hsplit
      exact hbehind hcleanup

/-- The events of a run are those of its stages, and those of the release of the sandbox. -/
theorem exists_work_of_events (ε : Type) (box : Sandbox) (profile : Profile) (config : Config)
    (token : Token) (protocol : Protocol) (b : Backend) :
    ∃ work cleanup o, ((run protocol box profile config token : Program ε Verdict).run b).events =
        work ++ cleanup ∧
      Event.requests cleanup <+: [.lock box.sentinel, .destroy] ∧
      (stages protocol box profile config token).Path work o := by
  have h := path_runWith b.responder
    (run protocol box profile config token : Program ε Verdict) []
  obtain ⟨work, cleanup, o, hes, hwork, hend⟩ := exists_work_of_run h
  refine ⟨work, cleanup, o, hes, ?_, hwork⟩
  rcases hend with ⟨stage, -, hcleanup⟩ | ⟨t, -, rfl⟩ | ⟨t, reply, -, rfl⟩
  · exact hcleanup ▸ List.prefix_rfl
  · exact ⟨[.destroy], rfl⟩
  · exact List.prefix_rfl

/-- The one kind of change that need not succeed: a transfer between the two wallets. -/
def PublicRouter.IsPeerTransfer (box : Sandbox) (config : Config) (token : Token) (r : Request) :
    Prop :=
  ∃ amount, r = .send (peerTransfer config token box.main box.transit amount) ∨
    r = .send (peerTransfer config token box.transit box.main amount)

/-- Of the requests whose errors are tolerated only the transfers change anything. -/
theorem isPeerTransfer_of_tolerates {protocol : Protocol} {r : Request}
    (h : (conduct protocol box profile config token).tolerates r) (hr : r.isChange = true) :
    protocol = .publicRouter ∧ PublicRouter.IsPeerTransfer box config token r := by
  cases protocol with
  | publicRouter =>
    refine ⟨rfl, ?_⟩
    cases h with
    | symbol => cases hr
    | name => cases hr
    | outward amount => exact ⟨amount, .inl rfl⟩
    | back amount => exact ⟨amount, .inr rfl⟩
  | transitRouter => exact h.elim

/-- In the work of a run, only a transfer between the wallets can fail and have more behind it. -/
theorem answered_of_behind {protocol : Protocol} {before behind : List Event} {r : Request}
    {reply : Reply r} {o : Outcome Failure Verdict}
    (h : (stages protocol box profile config token).Path (before ++ .asked r reply :: behind) o)
    (hr : r.isChange = true) (hbehind : behind ≠ []) :
    (∃ a, reply = .value a) ∨ protocol = .publicRouter ∧
      PublicRouter.IsPeerTransfer box config token r ∧ ∃ e, reply = .error e := by
  have hkeeps := stages_keeps box profile config token protocol
  cases reply with
  | value a => exact .inl ⟨a, rfl⟩
  | error e =>
    by_cases htolerated : (conduct protocol box profile config token).tolerates r
    · obtain ⟨hprotocol, htransfer⟩ := isPeerTransfer_of_tolerates htolerated hr
      exact .inr ⟨hprotocol, htransfer, e, rfl⟩
    · exact absurd (hkeeps.ends_at_error htolerated h).1 hbehind
  | panic t => exact absurd (hkeeps.ends_at_panic h).1 hbehind

/-- **Every run follows a course of its protocol.** Up to the release of the sandbox a run takes the
steps of a course in order, as far as it gets; the changes it makes are the beginning of those of
the course; and every change but the last one has been answered, save that through the public router
the two transfers between the wallets may have been refused. -/
theorem run_follows_course {ε : Type} (protocol : Protocol) (b : Backend) :
    let events := ((run protocol box profile config token : Program ε Verdict).run b).events
    ∃ work cleanup steps changes,
      events = work ++ cleanup ∧ Event.requests cleanup <+: [.lock box.sentinel, .destroy] ∧
      IsCourse box profile config token protocol steps changes ∧ Follows work steps ∧
      Event.changes events <+: changes ∧
      ∀ before r reply behind, events = before ++ .asked r reply :: behind → r.isChange = true →
        Event.changes behind ≠ [] →
        (∃ a, reply = .value a) ∨ protocol = .publicRouter ∧
          PublicRouter.IsPeerTransfer box config token r ∧ ∃ e, reply = .error e := by
  intro events
  obtain ⟨work, cleanup, o, hes, hcleanup, hwork⟩ :=
    exists_work_of_events ε box profile config token protocol b
  change events = work ++ cleanup at hes
  obtain ⟨v, steps, ⟨changes, hcourse⟩, hfollows⟩ := (planned_stages protocol).follows hwork
  have hunchanged := changes_eq_nil_of_cleanup hcleanup
  refine ⟨work, cleanup, steps, changes, hes, hcleanup, hcourse, hfollows, ?_, ?_⟩
  · rw [hes, Event.changes_append, hunchanged, List.append_nil, ← hcourse.changes_steps]
    exact hfollows.changes_prefix
  · intro before r reply behind hsplit hr hbehind
    obtain ⟨rest, rfl, hrest⟩ := exists_work_behind hunchanged (hes.symm.trans hsplit) hbehind
    exact answered_of_behind hwork hr hrest

/-- **A token that is called sellable has gone the whole course.** All its steps have been taken,
and what the run has changed is what the course changes. -/
theorem run_completes_course {ε : Type} {protocol : Protocol} {b : Backend} {v : Verdict}
    (hrun : ((run protocol box profile config token : Program ε Verdict).run b).outcome = .value v)
    (hv : v.isSellable = true) :
    let events := ((run protocol box profile config token : Program ε Verdict).run b).events
    ∃ work cleanup steps, events = work ++ cleanup ∧
      Event.requests cleanup = [.lock box.sentinel, .destroy] ∧
      IsCourse box profile config token protocol steps (Event.changes events) ∧
      List.Forall₂ Step.Matches steps work := by
  intro events
  obtain ⟨work, cleanup, hes, hcleanup, hwork⟩ := exists_work_of_sellable hrun hv
  change events = work ++ cleanup at hes
  obtain ⟨steps, ⟨changes, hcourse⟩, hsteps⟩ := (planned_stages protocol).completes hwork
  have hunchanged : Event.changes cleanup = [] :=
    changes_eq_nil_of_cleanup ⟨[], by rw [hcleanup, List.append_nil]⟩
  have hchanges : Event.changes events = changes := by
    rw [hes, Event.changes_append, hunchanged, List.append_nil, ← hcourse.changes_steps,
      Event.changes, Step.requests_eq hsteps]
    rfl
  exact ⟨work, cleanup, steps, hes, hcleanup, hchanges ▸ hcourse, hsteps⟩

end SellProbe.Probe
