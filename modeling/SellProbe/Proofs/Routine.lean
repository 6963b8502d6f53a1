import SellProbe.Proofs.Course

/-!
# What a probe asks as a matter of course

Most of what a probe asks has to be answered for it to go on: it reads numbers and pairs, approves,
trades, and lets blocks pass. These requests are routine. Part by part, the plan of a probe asks
nothing else, but for the symbol and the name of a token and, through the public router, the two
transfers between the wallets.
-/

namespace SellProbe

/-- The requests that have to be answered for a probe to go on. -/
inductive Request.IsRoutine : Request → Prop
  | decimals (token : Address) : IsRoutine (.call (Contents.decimals token))
  | balance (token owner : Address) : IsRoutine (.call (Contents.balance token owner))
  | supply (token : Address) : IsRoutine (.call (Contents.totalSupply token))
  | allowance (token owner spender : Address) :
      IsRoutine (.call (Contents.allowance token owner spender))
  | pair (factory a b : Address) : IsRoutine (.call (Contents.pair factory a b))
  | quote (router : Address) (amount : Word) (route : List Address) :
      IsRoutine (.call (Contents.quote router amount route))
  | approval (owner token spender : Address) : IsRoutine (.approval owner token spender)
  | deposit (wallet wrappedNative : Address) (amount gas : Word) :
      IsRoutine (.send (Contents.deposit wallet wrappedNative amount gas))
  | swap (wallet router : Address) (amount : Word) (route : List Address) (gas deadline : Word) :
      IsRoutine (.send (Contents.swap wallet router amount route gas deadline))
  | balanceProbe (token owner : Address) : IsRoutine (.send (Contents.balanceProbe token owner))
  | liquidity (provider router token : Address) (amount value deadline : Word) :
      IsRoutine (.send (Contents.liquidity provider router token amount value deadline))
  | deployment (wallet : Address) (code : Bytes) (factory wrappedNative : Address) (gas : Word) :
      IsRoutine (.send (Contents.deployment wallet code factory wrappedNative gas))
  | transitPurchase (wallet router : Address) (route : List Address) (pair : Address)
      (value gas : Word) :
      IsRoutine (.send (Contents.transitPurchase wallet router route pair value gas))
  | transferCheck (wallet router token account : Address) (gas : Word) :
      IsRoutine (.send (Contents.transferCheck wallet router token account gas))
  | transitSale (wallet router : Address) (route : List Address) (pair : Address)
      (amount gas : Word) :
      IsRoutine (.send (Contents.transitSale wallet router route pair amount gas))
  | code (address : Address) : IsRoutine (.code address)
  | trace (transaction : Hash) : IsRoutine (.trace transaction)
  | gasPrice : IsRoutine .gasPrice
  | mine (blocks : UInt64) : IsRoutine (.mine blocks)
  | unlock (address : Address) : IsRoutine (.unlock address)
  | setStorage (address : Address) (slot : Hash) (value : Word) :
      IsRoutine (.setStorage address slot value)

open Request (IsRoutine)

open Program

/-! ## What both protocols do -/

theorem Swap.Allowances.routine {route : List Address} (x : Swap.Allowances route)
    (owner spender : Address) : Step.All IsRoutine (x.steps owner spender) := by
  unfold Swap.Allowances.steps
  generalize x.found = found
  induction found with
  | nil => exact Step.all_nil
  | cons y found ih =>
    rw [List.flatMap_cons, Step.all_append]
    refine ⟨.ask (.allowance _ _ _) ?_, ih⟩
    split
    · exact .ask (.approval _ _ _) Step.all_nil
    · exact Step.all_nil

theorem Liquidity.Provision.routine (x : Liquidity.Provision) (box : Sandbox) (profile : Profile)
    (config : Config) (token : Token) :
    Step.All IsRoutine (x.steps box profile config token) := by
  have hscan : Step.All IsRoutine (x.scanSteps token) := by
    refine .ask (.code _) ?_
    split
    · exact .ask (.code _) Step.all_nil
    · exact Step.all_nil
  unfold Liquidity.Provision.steps
  rw [Step.all_append, Step.all_append]
  refine ⟨⟨.ask (.unlock _) Step.all_nil, hscan⟩, .ask (.balanceProbe _ _) ?_⟩
  refine .ask (.trace _) (.ask (.supply _) (.ask (.setStorage _ _ _) ?_))
  refine .ask (.approval _ _ _) (.ask (.liquidity _ _ _ _ _ _) ?_)
  exact .ask (.pair _ _ _) Step.all_nil

theorem Erc20.routine_decimals (token : Address) :
    (Erc20.decimals token).Planned fun _ => Step.All IsRoutine := by
  refine (planned_decimals token).mono ?_
  rintro n _ ⟨places, rfl⟩
  exact .ask (.decimals _) Step.all_nil

theorem Erc20.routine_balanceOf (token owner : Address) :
    (Erc20.balanceOf token owner).Planned fun _ => Step.All IsRoutine := by
  refine (planned_balanceOf token owner).mono ?_
  rintro w _ rfl
  exact .ask (.balance _ _) Step.all_nil

namespace Probe

variable (box : Sandbox) (profile : Profile) (config : Config) (token : Token)

theorem routine_request {r : Request} (hr : r.IsRoutine) :
    (Program.request r).Planned fun _ => Step.All IsRoutine := by
  refine (planned_request r).mono ?_
  rintro a _ rfl
  exact .ask hr Step.all_nil

theorem Market.routine (x : Market) : Step.All IsRoutine (x.steps box profile config token) := by
  unfold Market.steps
  rw [Step.all_append]
  refine ⟨.ask (.pair _ _ _) (.ask (.supply _) Step.all_nil), ?_⟩
  split
  · exact .enter (x.provision.routine box profile config token)
  · exact Step.all_nil

theorem routine_ensureLiquidity :
    (ensureLiquidity box profile config token).Planned fun _ => Step.All IsRoutine := by
  refine (planned_ensureLiquidity box profile config token).mono ?_
  rintro _ _ ⟨x, rfl⟩
  exact x.routine box profile config token

namespace PublicRouter

variable {route : List Address}

theorem Trade.routine (x : Trade route) (stage : Stage) (amount : Word) :
    Step.All IsRoutine (x.steps box profile config stage amount) := by
  unfold Trade.steps
  rw [Step.all_append]
  exact ⟨x.allowances.routine _ _, .ask (.quote _ _ _) (.ask (.swap _ _ _ _ _ _) Step.all_nil)⟩

theorem routine_buy :
    (buy box profile config token route).Planned fun _ => Step.All IsRoutine := by
  refine (planned_buy box profile config token route).mono ?_
  rintro _ _ ⟨before, after, bought, rfl⟩
  unfold buySteps
  rw [Step.all_append, Step.all_append]
  refine ⟨⟨.enter (.ask (.mine _) ?_), bought.routine _ _ _ _ _⟩, ?_⟩
  · exact .ask (.balance _ _) Step.all_nil
  · exact .ask (.balance _ _) Step.all_nil

theorem routine_approve :
    (approve box profile config token).Planned fun _ => Step.All IsRoutine := by
  refine (planned_approve box profile config token).mono ?_
  rintro _ _ rfl
  exact .enter (.ask (.approval _ _ _) (.ask (.approval _ _ _) (.ask (.mine _) Step.all_nil)))

theorem routine_sell :
    (sell box profile config token route).Planned fun _ => Step.All IsRoutine := by
  refine (planned_sell box profile config token route).mono ?_
  rintro _ _ ⟨holding, sold, rfl⟩
  unfold sellSteps
  rw [Step.all_append, Step.all_append]
  refine ⟨⟨.enter (.ask (.balance _ _) Step.all_nil), sold.routine _ _ _ _ _⟩, ?_⟩
  exact .ask (.mine _) Step.all_nil

theorem routine_secondBuy :
    (secondBuy box profile config token route).Planned fun _ => Step.All IsRoutine := by
  refine (planned_secondBuy box profile config token route).mono ?_
  rintro balance _ ⟨bought, rfl⟩
  unfold secondBuySteps
  rw [Step.all_append, Step.all_append]
  refine ⟨⟨.enter Step.all_nil, bought.routine _ _ _ _ _⟩, ?_⟩
  exact .ask (.balance _ _) (.ask (.mine _) Step.all_nil)

end PublicRouter

/-- Through the transit router a probe asks nothing that is not routine. -/
theorem TransitRouter.routine_probe :
    (probe box profile config token).Planned fun _ => Step.All IsRoutine := by
  refine (planned_probe box profile config token).mono ?_
  rintro v _ ⟨x, rfl⟩
  unfold Course.steps
  simp only [Step.all_append]
  refine ⟨⟨⟨⟨?_, x.market.routine _ _ _ _⟩, ?_⟩, ?_⟩, ?_⟩
  · exact .enter (.ask (.mine _) (.ask (.deployment _ _ _ _ _) Step.all_nil))
  · refine .enter (.ask (.mine _) (.ask (.pair _ _ _) (.ask (.approval _ _ _) ?_)))
    exact .ask (.approval _ _ _) (.ask (.transitPurchase _ _ _ _ _ _) Step.all_nil)
  · refine .enter (.ask (.mine _) (.ask (.approval _ _ _) (.ask (.approval _ _ _) ?_)))
    exact .ask (.transferCheck _ _ _ _ _) Step.all_nil
  · refine .enter (.ask (.mine _) (.ask (.balance _ _) ?_))
    exact .ask (.transitSale _ _ _ _ _ _) (.ask .gasPrice Step.all_nil)

end Probe

end SellProbe
