import SellProbe.Proofs.Release

/-!
# What a probe has read

On a path to a value every step has succeeded, so the path tells which calls were answered with
what, and which transactions went through. A reading is an answer that could be decoded. Function by
function, a value is traced back to the readings and receipts that it comes from. A run is the work
of its stages and the release of the sandbox (`exists_work_of_run`), and a probe that calls a token
sellable has a path through all of its stages behind it (`exists_work_of_sellable`).
-/

open scoped List

namespace SellProbe

/-- An answer that can be decoded. -/
structure Reading {α : Type} (read : Bytes → Option α) where
  data : Bytes
  value : α
  decoded : Abi.decode read data = .ok value

def Event.called {α : Type} {read : Bytes → Option α} (tx : Transaction) (x : Reading read) :
    Event :=
  .asked (.call tx) (.value x.data)

def Event.sent (tx : Transaction) (receipt : Receipt) : Event :=
  .asked (.send tx) (.value receipt)

namespace Program

variable {ε ε' α : Type} {es : List Event}

/-! ## Steps -/

theorem Path.of_request {r : Request} {a : r.Answer} (h : (request r).Path es (.value a)) :
    es = [.asked r (.value a)] := by
  cases h with
  | ask reply h =>
    cases h
    rfl

theorem Path.of_ofExcept {x : Except ε α} {a : α} (h : (ofExcept x).Path es (.value a)) :
    es = [] ∧ x = .ok a := by
  cases x <;> cases h
  exact ⟨rfl, rfl⟩

theorem Path.of_enter {s : Stage} {o : Outcome Failure Unit} (h : (Phase.enter s).Path es o) :
    es = [.entered s] := by
  cases h with
  | enter h =>
    cases h
    rfl

theorem Path.of_within {s : Stage} {work : Session α} {a : α}
    (h : (Phase.within s work).Path es (.value a)) : work.Path es (.value a) :=
  h.of_mapError_value

theorem Path.of_contain {current : Stage} {p : Program ε α}
    {o' : Outcome ε' (Outcome ε α × Stage)} (h : (p.contain current).Path es o') :
    ∃ o, o' = .value (o, Event.lastStage current es) ∧ p.Path es o := by
  induction p generalizing es current with
  | done o =>
    cases h
    exact ⟨o, rfl, .done o⟩
  | ask r next ih =>
    cases h with
    | ask reply h =>
      obtain ⟨o, rfl, h'⟩ := ih reply h
      exact ⟨o, rfl, .ask reply h'⟩
  | enter s next ih =>
    cases h with
    | enter h =>
      obtain ⟨o, rfl, h'⟩ := ih h
      exact ⟨o, by rw [Event.lastStage_entered], .enter h'⟩

/-! ## Contracts -/

theorem Path.of_send {tx : Transaction} {receipt : Receipt}
    (h : (Contract.send tx).Path es (.value receipt)) : es = [.sent tx receipt] :=
  Path.of_request h

theorem Path.of_query {read : Bytes → Option α} {tx : Transaction} {a : α}
    (h : (Contract.query read tx).Path es (.value a)) :
    ∃ x : Reading read, es = [.called tx x] ∧ x.value = a := by
  unfold Contract.query at h
  obtain ⟨data, es₁, es₂, rfl, h₁, h₂⟩ := h.of_bind_value
  cases hdata : Abi.decode read data with
  | ok a' =>
    simp only [hdata] at h₂
    cases h₂
    exact ⟨⟨data, a, hdata⟩, by rw [Path.of_request h₁]; rfl, rfl⟩
  | error e =>
    simp only [hdata] at h₂
    cases h₂

theorem Path.of_balanceOf {token owner : Address} {w : Word}
    (h : (Erc20.balanceOf token owner).Path es (.value w)) :
    ∃ x : Reading Abi.readUint?, es = [.called (Contents.balance token owner) x] ∧ x.value = w := by
  rw [Erc20.balanceOf, Erc20.balanceCall_eq] at h
  exact h.of_query

theorem Path.of_totalSupply {token : Address} {w : Word}
    (h : (Erc20.totalSupply token).Path es (.value w)) :
    ∃ x : Reading Abi.readUint?, es = [.called (Contents.totalSupply token) x] ∧ x.value = w := by
  rw [Erc20.totalSupply, Erc20.totalSupplyCall_eq] at h
  exact h.of_query

theorem Path.of_approve {owner token spender : Address} {receipt : Receipt}
    (h : (Erc20.approve { account := owner } token spender Word.largest).Path es
      (.value receipt)) : es = [.sent (Contents.approval owner token spender) receipt] := by
  rw [Erc20.approve, Erc20.approveTx_eq] at h
  exact h.of_send

theorem Path.of_getPair {factory a b pair : Address}
    (h : (Exchange.getPair factory a b).Path es (.value pair)) :
    ∃ x : Reading Abi.readAddress?, es = [.called (Contents.pair factory a b) x] ∧
      x.value = pair := by
  rw [Exchange.getPair, Exchange.pairCall_eq] at h
  exact h.of_query

theorem Path.of_resolve {address : Address} {token : Token}
    (h : (Erc20.resolve address).Path es (.value token)) : token.address = address := by
  unfold Erc20.resolve at h
  obtain ⟨decimals, es₁, es₂, -, -, h₂⟩ := h.of_bind_value
  obtain ⟨symbol, es₃, es₄, -, -, h₃⟩ := h₂.of_bind_value
  obtain ⟨name, es₅, es₆, -, -, h₄⟩ := h₃.of_bind_value
  cases h₄
  rfl

theorem Path.of_quote {router : Address} {amount : Word} {route : List Address} {promised : Word}
    (h : (Exchange.quote router amount route).Path es (.value promised)) :
    ∃ x : Reading Abi.readUints?, es = [.called (Contents.quote router amount route) x] ∧
      x.value.getLast? = some promised := by
  rw [Exchange.quote, Exchange.quoteCall_eq] at h
  obtain ⟨amounts, es₁, es₂, rfl, h₁, h₂⟩ := h.of_bind_value
  obtain ⟨x, rfl, rfl⟩ := h₁.of_query
  cases hlast : x.value.getLast? with
  | some w =>
    simp only [hlast] at h₂
    cases h₂
    exact ⟨x, rfl, hlast⟩
  | none =>
    simp only [hlast] at h₂
    cases h₂

theorem Path.of_deploy {wallet : Address} {code : Bytes} {factory wrappedNative : Address}
    {gas : Word} {router : Address}
    (h : (Transit.deploy { account := wallet, gas := some gas } code factory wrappedNative).Path es
      (.value router)) :
    ∃ receipt, es = [.sent (Contents.deployment wallet code factory wrappedNative gas) receipt] ∧
      receipt.created = some router := by
  rw [Transit.deploy, Transit.deployTx_eq] at h
  obtain ⟨receipt, es₁, es₂, rfl, h₁, h₂⟩ := h.of_bind_value
  obtain rfl := h₁.of_send
  cases hcreated : receipt.created with
  | some a =>
    simp only [hcreated] at h₂
    cases h₂
    exact ⟨receipt, rfl, hcreated⟩
  | none =>
    simp only [hcreated] at h₂
    cases h₂

theorem Path.of_transitBuy {wallet router pair : Address} {route : List Address} {value gas : Word}
    {receipt : Receipt}
    (h : (Transit.buy { account := wallet, value := some value, gas := some gas } router route
      pair).Path es (.value receipt)) :
    es = [.sent (Contents.transitPurchase wallet router route pair value gas) receipt] := by
  rw [Transit.buy, Transit.buyTx_eq] at h
  exact h.of_send

theorem Path.of_transitSell {wallet router pair : Address} {route : List Address}
    {amount gas : Word} {receipt : Receipt}
    (h : (Transit.sell { account := wallet, gas := some gas } router route pair amount).Path es
      (.value receipt)) :
    es = [.sent (Contents.transitSale wallet router route pair amount gas) receipt] := by
  rw [Transit.sell, Transit.sellTx_eq] at h
  exact h.of_send

theorem Path.of_transferCheck {wallet router token account : Address} {gas : Word}
    {receipt : Receipt}
    (h : (Transit.transferCheck { account := wallet, gas := some gas } router token account).Path es
      (.value receipt)) :
    es = [.sent (Contents.transferCheck wallet router token account gas) receipt] := by
  rw [Transit.transferCheck, Transit.transferCheckTx_eq] at h
  exact h.of_send

/-- A swap is quoted, then made, and its receipt tells what has come out. -/
theorem Path.of_swapWithQuote {router wallet : Address} {amount : Word} {route : List Address}
    {gas deadline : Word} {swap : Swap.Quoted}
    (h : (Swap.swapWithQuote router wallet amount route gas deadline).Path es (.value swap)) :
    ∃ x : Reading Abi.readUints?, x.value.getLast? = some swap.calculated ∧
      Swap.output? swap.receipt.logs wallet router = some swap.output ∧
      [.called (Contents.quote router amount route) x,
        .sent (Contents.swap wallet router amount route gas deadline) swap.receipt] <+ es := by
  rw [Swap.swapWithQuote, Exchange.swap, Exchange.swapTx_eq] at h
  obtain ⟨-, es₁, es₂, rfl, -, h₂⟩ := h.of_bind_value
  obtain ⟨promised, es₃, es₄, rfl, h₃, h₄⟩ := h₂.of_bind_value
  obtain ⟨receipt, es₅, es₆, rfl, h₅, h₆⟩ := h₄.of_bind_value
  obtain ⟨x, rfl, hx⟩ := h₃.of_quote
  obtain rfl := h₅.of_send
  cases hout : Swap.output? receipt.logs wallet router with
  | some output =>
    simp only [hout] at h₆
    cases h₆
    refine ⟨x, hx, hout, ?_⟩
    exact List.sublist_append_right _ _
  | none =>
    simp only [hout] at h₆
    cases h₆

end Program

namespace Probe

open Program

variable {protocol : Protocol} {box : Sandbox} {profile : Profile} {config : Config} {token : Token}

/-- One request that is passed over, unless it is replied with a panic. -/
theorem path_of_passed {ε : Type} {r : Request} {next : Reply r → Program ε Unit} {es : List Event}
    {o : Outcome ε Unit} (hnext : ∀ reply, next reply = pure () ∨
      ∃ t, reply = .panic t ∧ next reply = .done (.panic t))
    (h : (Program.ask r next).Path es o) :
    ∃ reply, es = [.asked r reply] ∧ (o = .value () ∨ ∃ t, o = .panic t ∧ reply = .panic t) := by
  cases h with
  | ask reply h =>
    refine ⟨reply, ?_⟩
    rcases hnext reply with hpure | ⟨t, hreply, hpanic⟩
    · rw [hpure] at h
      cases h
      exact ⟨rfl, .inl rfl⟩
    · rw [hpanic] at h
      cases h
      exact ⟨rfl, .inr ⟨t, rfl, hreply⟩⟩

theorem path_of_lockSentinel {ε : Type} {es : List Event} {o : Outcome ε Unit}
    (h : (lockSentinel box : Program ε Unit).Path es o) :
    ∃ reply, es = [.asked (.lock box.sentinel) reply] ∧
      (o = .value () ∨ ∃ t, o = .panic t ∧ reply = .panic t) := by
  rw [lockSentinel, bind_eq, request, attempt, Program.bind] at h
  refine path_of_passed (fun reply => ?_) h
  cases reply with
  | value u => exact .inl rfl
  | error e => exact .inl rfl
  | panic t => exact .inr ⟨t, rfl, rfl⟩

theorem path_of_destroy {ε : Type} {es : List Event} {o : Outcome ε Unit}
    (h : (destroy : Program ε Unit).Path es o) :
    ∃ reply, es = [.asked .destroy reply] ∧
      (o = .value () ∨ ∃ t, o = .panic t ∧ reply = .panic t) := by
  refine path_of_passed (fun reply => ?_) h
  cases reply with
  | value u => exact .inl rfl
  | error e => exact .inl rfl
  | panic t => exact .inr ⟨t, rfl, rfl⟩

/-- A run is the work of its stages, the lock of the sentinel, and the end of the sandbox; only a
panic in reply to one of the last two ends it early. -/
theorem exists_work_of_run {ε : Type} {es : List Event} {o : Outcome ε Verdict}
    (h : (run protocol box profile config token : Program ε Verdict).Path es o) :
    ∃ work rest o', es = work ++ rest ∧
      (stages protocol box profile config token).Path work o' ∧
      ((∃ stage, o = .value (verdictOf o' stage) ∧
          Event.requests rest = [.lock box.sentinel, .destroy]) ∨
        (∃ t, o = .panic t ∧ rest = [.asked (.lock box.sentinel) (.panic t)]) ∨
        ∃ t reply, o = .panic t ∧
          rest = [.asked (.lock box.sentinel) reply, .asked .destroy (.panic t)]) := by
  unfold run at h
  rcases h.of_bind with ⟨⟨o', stage⟩, work, rest, rfl, hwork, hrest⟩ | ⟨e, -, hwork⟩ |
    ⟨t, -, hwork⟩
  · obtain ⟨o'', ho, hpath⟩ := hwork.of_contain
    cases ho
    refine ⟨work, rest, o', rfl, hpath, ?_⟩
    rcases hrest.of_bind with ⟨_, es₁, es₂, rfl, hlock, hend⟩ | ⟨e, rfl, hlock⟩ | ⟨t, rfl, hlock⟩
    · obtain ⟨reply, rfl, -⟩ := path_of_lockSentinel hlock
      rcases hend.of_bind with ⟨_, es₃, es₄, rfl, hdestroy, hdone⟩ | ⟨e, rfl, hdestroy⟩ |
        ⟨t, rfl, hdestroy⟩
      · obtain ⟨reply', rfl, -⟩ := path_of_destroy hdestroy
        cases hdone
        exact .inl ⟨_, rfl, rfl⟩
      · obtain ⟨reply', -, ho | ⟨t, ho, -⟩⟩ := path_of_destroy hdestroy <;> cases ho
      · obtain ⟨reply', rfl, ho | ⟨t', ho, rfl⟩⟩ := path_of_destroy hdestroy
        · cases ho
        · cases ho
          exact .inr (.inr ⟨t, reply, rfl, rfl⟩)
    · obtain ⟨reply, -, ho | ⟨t, ho, -⟩⟩ := path_of_lockSentinel hlock <;> cases ho
    · obtain ⟨reply, rfl, ho | ⟨t', ho, rfl⟩⟩ := path_of_lockSentinel hlock
      · cases ho
      · cases ho
        exact .inr (.inl ⟨t, rfl, rfl⟩)
  · obtain ⟨o'', ho, -⟩ := hwork.of_contain
    cases ho
  · obtain ⟨o'', ho, -⟩ := hwork.of_contain
    cases ho

/-- Behind a verdict that a token can be sold stand stages that ended with that verdict, and behind
those nothing but the release of the sandbox. -/
theorem exists_work_of_sellable {ε : Type} {b : Backend} {v : Verdict}
    (hrun : ((run protocol box profile config token : Program ε Verdict).run b).outcome = .value v)
    (hv : v.isSellable = true) :
    ∃ work rest, ((run protocol box profile config token : Program ε Verdict).run b).events =
        work ++ rest ∧
      Event.requests rest = [.lock box.sentinel, .destroy] ∧
      (stages protocol box profile config token).Path work (.value v) := by
  have h := path_runWith b.responder
    (run protocol box profile config token : Program ε Verdict) []
  rw [← Program.run, hrun] at h
  obtain ⟨work, rest, o, hes, hwork, hend⟩ := exists_work_of_run h
  rcases hend with ⟨stage, hv', hrest⟩ | ⟨t, ho, -⟩ | ⟨t, reply, ho, -⟩
  · refine ⟨work, rest, hes, hrest, ?_⟩
    cases hv'
    cases o with
    | value v => exact hwork
    | error f => cases hv
    | panic text => cases hv
  · cases ho
  · cases ho

end Probe

end SellProbe
