import SellProbe.Proofs.Contents
import SellProbe.Proofs.Plan

/-!
# What a probe means to do

The plans of what the two protocols have in common: how a token is resolved, which tokens on a route
are approved, and how a token without a pair gets one. A plan is a function of what is read on the
way, and so are the changes in it.
-/

namespace SellProbe

open Program

def Request.approval (owner token spender : Address) : Request :=
  .send (Contents.approval owner token spender)

/-! ## Tokens -/

namespace Erc20

/-- A token is resolved by the reading of its places; its symbol and its name may be refused. -/
def resolveSteps (token : Address) (places : Word) : List Step :=
  [.reads Abi.readUint? (Contents.decimals token) places, .tries (.call (Contents.symbol token)),
    .tries (.call (Contents.name token))]

theorem planned_balanceOf (token owner : Address) :
    (balanceOf token owner).Planned fun w steps =>
      steps = [.reads Abi.readUint? (Contents.balance token owner) w] := by
  rw [balanceOf, balanceCall_eq]
  exact planned_query _ _

theorem planned_totalSupply (token : Address) :
    (totalSupply token).Planned fun w steps =>
      steps = [.reads Abi.readUint? (Contents.totalSupply token) w] := by
  rw [totalSupply, totalSupplyCall_eq]
  exact planned_query _ _

theorem planned_allowance (token owner spender : Address) :
    (allowance token owner spender).Planned fun w steps =>
      steps = [.reads Abi.readUint? (Contents.allowance token owner spender) w] := by
  rw [allowance, allowanceCall_eq]
  exact planned_query _ _

theorem planned_approve (owner token spender : Address) :
    (approve { account := owner } token spender Word.largest).Planned fun _ steps =>
      steps = [.does (.approval owner token spender)] := by
  rw [approve, approveTx_eq]
  exact planned_send _

theorem planned_textOf (tx : Transaction) :
    (textOf tx).Planned fun _ steps => steps = [.tries (.call tx)] := by
  refine planned_ask (r := .call tx) (fun _ reply => ∀ t, reply ≠ .panic t) fun reply => ?_
  cases reply with
  | value data => exact .inl ⟨_, rfl, by simp⟩
  | error e => exact .inl ⟨_, rfl, by simp⟩
  | panic t => exact .inr ⟨.panic t, rfl, by simp⟩

theorem planned_decimals (token : Address) :
    (decimals token).Planned fun _ steps =>
      ∃ places, steps = [.reads Abi.readUint? (Contents.decimals token) places] := by
  rw [decimals, decimalsCall_eq]
  refine (planned_query _ _).andThen fun places => ?_
  cases hplaces : placesOfWord places with
  | ok n => exact planned_pure ⟨places, rfl⟩
  | error e => exact planned_fail 0 ⟨places, rfl⟩

theorem planned_resolve (address : Address) :
    (resolve address).Planned fun token steps =>
      token.address = address ∧ ∃ places, steps = resolveSteps address places := by
  rw [resolve, symbolCall_eq, nameCall_eq]
  refine (planned_decimals address).bind ?_
  rintro n _ ⟨places, rfl⟩
  refine (planned_textOf _).andThen fun symbol => ?_
  refine (planned_textOf _).andThen fun name => ?_
  exact planned_pure ⟨rfl, places, rfl⟩

end Erc20

/-! ## Allowances -/

namespace Swap

/-- The allowances that are found for the tokens on a route. -/
structure Allowances (route : List Address) where
  found : List (Address × Word)
  covers : found.map Prod.fst = route

variable {route : List Address}

/-- Each allowance is read, and a token without one is approved at once. -/
def Allowances.steps (x : Allowances route) (owner spender : Address) : List Step :=
  x.found.flatMap fun (token, allowed) =>
    .reads Abi.readUint? (Contents.allowance token owner spender) allowed ::
      if allowed = 0 then [.does (.approval owner token spender)] else []

/-- One approval for each token on the route, in its order, whose allowance was read as zero. -/
def Allowances.changes (x : Allowances route) (owner spender : Address) : List Request :=
  (x.found.filter (·.2 = 0)).map fun y => .approval owner y.1 spender

theorem Allowances.changes_steps (x : Allowances route) (owner spender : Address) :
    Step.changes (x.steps owner spender) = x.changes owner spender := by
  obtain ⟨found, covers⟩ := x
  simp only [steps, changes]
  clear covers
  induction found with
  | nil => rfl
  | cons y found ih =>
    obtain ⟨token, allowed⟩ := y
    rw [List.flatMap_cons, Step.changes_append, ih, List.filter_cons]
    by_cases hzero : allowed = 0
    · rw [if_pos hzero, if_pos (decide_eq_true hzero)]
      rfl
    · rw [if_neg hzero, if_neg (mt of_decide_eq_true hzero)]
      rfl

theorem planned_ensureAllowance (owner spender : Address) (route : List Address) :
    (ensureAllowance owner spender route).Planned fun _ steps =>
      ∃ x : Allowances route, steps = x.steps owner spender := by
  induction route with
  | nil => exact planned_pure ⟨⟨[], rfl⟩, rfl⟩
  | cons token route ih =>
    unfold ensureAllowance
    refine (Erc20.planned_allowance _ _ _).andThen fun allowed => ?_
    have hsteps : ∀ x : Allowances route, ∃ y : Allowances (token :: route),
        y.steps owner spender =
          .reads Abi.readUint? (Contents.allowance token owner spender) allowed ::
          ((if allowed = 0 then [.does (.approval owner token spender)] else []) ++
            x.steps owner spender) :=
      fun x => ⟨⟨(token, allowed) :: x.found, congrArg (token :: ·) x.covers⟩, rfl⟩
    by_cases hzero : allowed = 0
    · rw [if_pos hzero] at hsteps ⊢
      refine (Erc20.planned_approve _ _ _).andThen fun receipt => ?_
      refine ih.mono ?_
      rintro _ _ ⟨x, rfl⟩
      exact (hsteps x).imp fun y hy => hy.symm
    · rw [if_neg hzero] at hsteps ⊢
      refine ih.mono ?_
      rintro _ _ ⟨x, rfl⟩
      exact (hsteps x).imp fun y hy => hy.symm

end Swap

namespace Exchange

theorem planned_getPair (factory a b : Address) :
    (getPair factory a b).Planned fun pair steps =>
      steps = [.reads Abi.readAddress? (Contents.pair factory a b) pair] := by
  rw [getPair, pairCall_eq]
  exact planned_query _ _

theorem planned_quote (router : Address) (amount : Word) (route : List Address) :
    (quote router amount route).Planned fun _ steps =>
      ∃ amounts, steps = [.reads Abi.readUints? (Contents.quote router amount route) amounts] := by
  rw [quote, quoteCall_eq]
  refine (planned_query _ _).andThen fun amounts => ?_
  split
  · exact planned_pure ⟨amounts, rfl⟩
  · exact planned_fail 0 ⟨amounts, rfl⟩

end Exchange

/-! ## Liquidity -/

namespace Liquidity

/-- What is read while a pair is made. -/
structure Provision where
  code : Bytes
  /-- The code behind the token's own, if that is a minimal proxy. -/
  implementation : Bytes
  /-- The receipt of the reading of a balance that is traced. -/
  probed : Receipt
  trace : ExecutionTrace
  reported : Word
  pair : Address

namespace Provision

variable (x : Provision) (box : Sandbox) (profile : Profile) (config : Config) (token : Token)

def scan : Bytecode.Scan :=
  match Bytecode.proxyTarget? x.code with
  | some _ => Bytecode.scan x.implementation
  | none => Bytecode.scan x.code

def discovery : Storage.Discovery :=
  .ofKeys box.sentinel x.scan.slots (x.trace.loadedKeys.toOption.getD [])

/-- The slot that is written; an arbitrary one if none was found. -/
def slot : Hash := (slotOf (x.discovery box)).toOption.getD (FixedBytes.zero 32)

/-- The supply that is reckoned with; an arbitrary one if there is none. -/
def supply : Word :=
  if x.reported = 0 then (config.syntheticSupply? token.decimals).getD 0 else x.reported

/-- The balance that is written; an arbitrary one if it cannot be reckoned. -/
def seeded : Word :=
  (seedOf (x.discovery box) (x.supply config token / 2) (x.supply config token)).toOption.getD 0

def liquidityTx : Transaction :=
  Contents.liquidity box.sentinel profile.router token.address (x.supply config token / 4)
    config.liquidityValue (config.deadline (box.clock .bootstrap))

def scanSteps : List Step :=
  .gives (.code token.address) (· = x.code) ::
    match Bytecode.proxyTarget? x.code with
    | some implementation => [.gives (.code implementation) (· = x.implementation)]
    | none => []

/-- A pair is made: the sentinel's balance slot is sought and written, and the sentinel gives
liquidity. -/
def steps : List Step :=
  [Step.does (.unlock box.sentinel)] ++ x.scanSteps token ++
    [Step.gives (.send (Contents.balanceProbe token.address box.sentinel)) (· = x.probed),
      .gives (.trace x.probed.hash) (· = x.trace),
      .reads Abi.readUint? (Contents.totalSupply token.address) x.reported,
      .does (.setStorage token.address (x.slot box) (x.seeded box config token)),
      .does (.approval box.sentinel token.address profile.router),
      .does (.send (x.liquidityTx box profile config token)),
      .reads Abi.readAddress?
        (Contents.pair profile.factory token.address profile.wrappedNative) x.pair]

/-- The sentinel is unlocked and asks for its balance, its balance is written, and it approves the
router and gives liquidity. -/
def changes : List Request :=
  [.unlock box.sentinel, .send (Contents.balanceProbe token.address box.sentinel),
    .setStorage token.address (x.slot box) (x.seeded box config token),
    .approval box.sentinel token.address profile.router,
    .send (x.liquidityTx box profile config token)]

theorem changes_steps :
    Step.changes (x.steps box profile config token) = x.changes box profile config token := by
  unfold steps scanSteps
  rw [Step.changes_append, Step.changes_append]
  cases Bytecode.proxyTarget? x.code <;> rfl

end Provision

theorem planned_scanTarget (address : Address) :
    (Storage.scanTarget address).Planned fun scan steps => ∃ code implementation : Bytes,
      (scan = match Bytecode.proxyTarget? code with
        | some _ => Bytecode.scan implementation
        | none => Bytecode.scan code) ∧
      steps = .gives (.code address) (· = code) ::
        match Bytecode.proxyTarget? code with
        | some a => [.gives (.code a) (· = implementation)]
        | none => [] := by
  unfold Storage.scanTarget
  refine (planned_answer (.code address)).andThen fun (code : Bytes) => ?_
  split
  next hempty =>
    obtain rfl : code = [] := List.isEmpty_iff.1 hempty
    exact planned_fail _ ⟨[], [], rfl, rfl⟩
  next =>
    cases hproxy : Bytecode.proxyTarget? code with
    | some target =>
      refine (planned_answer (.code target)).andThen fun implementation => ?_
      exact planned_pure ⟨code, implementation, by simp [hproxy], by simp [hproxy]⟩
    | none => exact planned_pure ⟨code, [], by simp [hproxy], by simp [hproxy]⟩

theorem planned_discover (owner token : Address) (scan : Bytecode.Scan) :
    (Storage.discover owner token scan).Planned fun discovery steps =>
      ∃ (probed : Receipt) (trace : ExecutionTrace),
        discovery = .ofKeys owner scan.slots (trace.loadedKeys.toOption.getD []) ∧
        steps = [.gives (.send (Contents.balanceProbe token owner)) (· = probed),
          .gives (.trace probed.hash) (· = trace)] := by
  rw [Storage.discover, Storage.balanceProbeTx_eq]
  unfold Storage.usedSlots
  refine (planned_answer (.send _)).andThen fun (probed : Receipt) => ?_
  refine Planned.bind (Q := fun used steps => ∃ trace : ExecutionTrace,
    used = trace.loadedKeys.toOption.getD [] ∧
      steps = [.gives (.trace probed.hash) (· = trace)]) ?_ ?_
  · refine (planned_answer (.trace _)).andThen fun (trace : ExecutionTrace) => ?_
    refine (planned_ofExcept _ []).mono ?_
    rintro used _ ⟨hused, rfl⟩
    exact ⟨trace, hused, rfl⟩
  · rintro used _ ⟨trace, rfl, rfl⟩
    exact planned_pure ⟨probed, trace, rfl, rfl⟩

theorem planned_supplyOf (config : Config) (token : Token) (reported : Word) :
    (supplyOf config token reported).Planned fun supply steps =>
      supply = (if reported = 0 then (config.syntheticSupply? token.decimals).getD 0
        else reported) ∧ steps = [] := by
  unfold supplyOf
  by_cases hzero : reported = 0
  · simp only [if_pos hzero]
    exact planned_orPanic _ _ 0
  · simp only [if_neg hzero]
    exact planned_pure ⟨rfl, rfl⟩

theorem planned_provide (box : Sandbox) (profile : Profile) (config : Config) (token : Token) :
    (provide box profile config token).Planned fun _ steps =>
      ∃ x : Provision, steps = x.steps box profile config token := by
  unfold provide
  refine (planned_request (.unlock box.sentinel)).andThen fun _ => ?_
  refine (planned_scanTarget _).bind ?_
  rintro scan _ ⟨code, implementation, rfl, rfl⟩
  refine (planned_discover _ _ _).bind ?_
  rintro discovery _ ⟨probed, trace, rfl, rfl⟩
  refine (planned_ofExcept _ (FixedBytes.zero 32)).bind ?_
  rintro slot _ ⟨rfl, rfl⟩
  refine (Erc20.planned_totalSupply _).andThen fun reported => ?_
  refine (planned_supplyOf _ _ _).bind ?_
  rintro supply _ ⟨rfl, rfl⟩
  refine (planned_ofExcept _ 0).bind ?_
  rintro seeded _ ⟨rfl, rfl⟩
  refine (planned_request (.setStorage _ _ _)).andThen fun _ => ?_
  refine (Erc20.planned_approve _ _ _).andThen fun approved => ?_
  rw [Exchange.addLiquidity, Exchange.addLiquidityTx_eq]
  refine (planned_send _).andThen fun given => ?_
  refine (Exchange.planned_getPair _ _ _).andThen fun pair => ?_
  let x : Provision := ⟨code, implementation, probed, trace, reported, pair⟩
  split
  · exact planned_fail ⟨x.discovery box, 0, false, 0, pair⟩ ⟨x, rfl⟩
  · exact planned_pure ⟨x, rfl⟩

end Liquidity

end SellProbe
