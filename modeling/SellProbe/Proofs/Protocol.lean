import SellProbe.Proofs.Conduct
import SellProbe.Proofs.Contents

/-!
# The conduct of the two protocols

What each protocol may do (`conduct`), and that it does nothing else (`stages_keeps`). Between the
two, function by function: reading and writing contracts, making liquidity and swapping keep every
conduct, and only three things live with an error: reading the symbol and the name of a token, and,
through the public router, a transfer between the two wallets.
-/

namespace SellProbe

/-- The stages of a protocol, in order. -/
def Protocol.order : Protocol → List Stage
  | .publicRouter =>
    [.prepare, .bootstrap, .buy, .approve, .sell, .secondBuy, .transfer, .transferBack]
  | .transitRouter => [.prepare, .bootstrap, .buy, .transferCheck, .sellCheck]

namespace Program

variable {c : Conduct}

/-! ## Contracts -/

theorem keeps_send (tx : Transaction) : (Contract.send tx).Keeps c := keeps_request rfl

theorem keeps_query {α : Type} (read : Bytes → Option α) (tx : Transaction) :
    (Contract.query read tx).Keeps c := by
  unfold Contract.query
  refine (keeps_request rfl).bind fun data => ?_
  split
  · exact keeps_pure _
  · exact keeps_fail _

theorem keeps_decimals (token : Address) : (Erc20.decimals token).Keeps c :=
  (keeps_query _ _).bind fun _ => keeps_ofExcept _

theorem keeps_textOf {tx : Transaction} (ht : c.tolerates (.call tx)) :
    (Erc20.textOf tx).Keeps c := by
  unfold Erc20.textOf
  refine (keeps_attempt_request rfl ht).bind fun x => ?_
  split <;> exact keeps_pure _

/-- A token is resolved whatever becomes of its symbol and its name. -/
theorem keeps_resolve {token : Address} (hsymbol : c.tolerates (.call (Contents.symbol token)))
    (hname : c.tolerates (.call (Contents.name token))) : (Erc20.resolve token).Keeps c := by
  rw [Erc20.resolve, Erc20.symbolCall_eq, Erc20.nameCall_eq]
  refine (keeps_decimals token).bind fun _ => ?_
  refine (keeps_textOf hsymbol).bind fun _ => ?_
  exact (keeps_textOf hname).bind fun _ => keeps_pure _

theorem keeps_quote (router : Address) (amount : Word) (route : List Address) :
    (Exchange.quote router amount route).Keeps c := by
  unfold Exchange.quote
  refine (keeps_query _ _).bind fun amounts => ?_
  split
  · exact keeps_pure _
  · exact keeps_fail _

theorem keeps_deploy (sender : Sender) (code : Bytes) (factory wrappedNative : Address) :
    (Transit.deploy sender code factory wrappedNative).Keeps c := by
  unfold Transit.deploy
  refine (keeps_send _).bind fun receipt => ?_
  split
  · exact keeps_pure _
  · exact keeps_fail _

/-! ## Swaps -/

theorem keeps_ensureAllowance (owner spender : Address) (tokens : List Address) :
    (Swap.ensureAllowance owner spender tokens).Keeps c := by
  induction tokens with
  | nil => exact keeps_pure _
  | cons token tokens ih =>
    unfold Swap.ensureAllowance
    refine (keeps_query _ _).bind fun allowed => ?_
    split
    · exact (keeps_send _).bind fun _ => ih
    · exact ih

theorem keeps_swapWithQuote (router wallet : Address) (amount : Word) (route : List Address)
    (gas deadline : Word) :
    (Swap.swapWithQuote router wallet amount route gas deadline).Keeps c := by
  unfold Swap.swapWithQuote
  refine (keeps_ensureAllowance _ _ _).bind fun _ => ?_
  refine (keeps_quote _ _ _).bind fun calculated => ?_
  refine (keeps_send _).bind fun receipt => ?_
  split
  · exact keeps_pure _
  · exact keeps_fail _

/-! ## Liquidity -/

theorem keeps_scanTarget (address : Address) : (Storage.scanTarget address).Keeps c := by
  unfold Storage.scanTarget
  refine (keeps_request rfl).bind fun code => ?_
  split
  · exact keeps_fail _
  · split
    · exact (keeps_request rfl).bind fun _ => keeps_pure _
    · exact keeps_pure _

theorem keeps_discover (owner token : Address) (scan : Bytecode.Scan) :
    (Storage.discover owner token scan).Keeps c := by
  unfold Storage.discover Storage.usedSlots
  refine (keeps_send _).bind fun receipt => ?_
  refine Keeps.bind ?_ fun used => keeps_pure _
  exact (keeps_request rfl).bind fun trace => keeps_ofExcept _

theorem keeps_provide (box : Sandbox) (profile : Profile) (config : Config) (token : Token) :
    (Liquidity.provide box profile config token).Keeps c := by
  unfold Liquidity.provide
  refine Keeps.bind (keeps_request rfl) fun _ => ?_
  refine (keeps_scanTarget _).bind fun scan => ?_
  refine (keeps_discover _ _ _).bind fun discovery => ?_
  refine (keeps_ofExcept _).bind fun slot => ?_
  refine (keeps_query _ _).bind fun reported => ?_
  refine Keeps.bind ?_ fun totalSupply => ?_
  · unfold Liquidity.supplyOf
    split
    · exact keeps_orPanic _ _
    · exact keeps_pure _
  refine (keeps_ofExcept _).bind fun seeded => ?_
  refine Keeps.bind (keeps_request rfl) fun _ => ?_
  refine (keeps_send _).bind fun _ => ?_
  refine (keeps_send _).bind fun _ => ?_
  refine (keeps_query _ _).bind fun pair => ?_
  split
  · exact keeps_fail _
  · exact keeps_pure _

/-! ## Phases -/

theorem keeps_enter {s : Stage} (hs : c.enters s) : (Phase.enter s).Keeps c := ⟨hs, trivial⟩

theorem Keeps.within {α : Type} {work : Session α} (s : Stage) (hw : work.Keeps c) :
    (Phase.within s work).Keeps c :=
  hw.mapError _

theorem keeps_ensureLiquidity (box : Sandbox) (profile : Profile) (config : Config)
    (token : Token) (hs : c.enters .bootstrap) :
    (Probe.ensureLiquidity box profile config token).Keeps c := by
  unfold Probe.ensureLiquidity
  refine ((keeps_query _ _).within _).bind fun pair => ?_
  refine ((keeps_query _ _).within _).bind fun supply => ?_
  split
  · refine (keeps_enter hs).bind fun _ => ?_
    exact ((keeps_provide _ _ _ _).within _).bind fun _ => keeps_pure _
  · exact keeps_pure _

end Program

namespace Probe

open Program

/-- A transfer between the two wallets, by whichever of them holds the token. -/
def PublicRouter.peerTransfer (config : Config) (token : Token) (sender recipient : Address)
    (amount : Word) : Transaction :=
  Contents.transfer sender token.address recipient amount config.publicRouter.gas

/-- The requests of the public router's protocol that may fail without an end to the probe. -/
inductive PublicRouter.Tolerated (box : Sandbox) (profile : Profile) (config : Config)
    (token : Token) : Request → Prop
  | symbol : Tolerated box profile config token
      (.call (Contents.symbol (config.quoteFor profile.wrappedNative)))
  | name : Tolerated box profile config token
      (.call (Contents.name (config.quoteFor profile.wrappedNative)))
  | outward (amount : Word) : Tolerated box profile config token
      (.send (peerTransfer config token box.main box.transit amount))
  | back (amount : Word) : Tolerated box profile config token
      (.send (peerTransfer config token box.transit box.main amount))

/-- What a protocol may do. The transit router's protocol tolerates no error at all. -/
def conduct (protocol : Protocol) (box : Sandbox) (profile : Profile) (config : Config)
    (token : Token) : Conduct where
  enters s := s ∈ protocol.order
  tolerates r :=
    match protocol with
    | .publicRouter => PublicRouter.Tolerated box profile config token r
    | .transitRouter => False

variable (box : Sandbox) (profile : Profile) (config : Config) (token : Token)

namespace PublicRouter

variable {c : Conduct}

theorem keeps_prepare (hs : c.enters .prepare)
    (ht : ∀ r, Tolerated box profile config token r → c.tolerates r) :
    (prepare box profile config).Keeps c := by
  unfold prepare
  refine (keeps_enter hs).bind fun _ => ?_
  refine Keeps.bind (Keeps.within _ (keeps_request rfl)) fun _ => ?_
  refine ((keeps_resolve (ht _ .symbol) (ht _ .name)).within _).bind fun _ => ?_
  exact ((keeps_send _).within _).bind fun _ => keeps_pure _

theorem keeps_trade (stage : Stage) (amount : Word) (route : List Address) :
    (trade box profile config stage amount route).Keeps c :=
  keeps_swapWithQuote _ _ _ _ _ _

theorem keeps_buy (hs : c.enters .buy) (route : List Address) :
    (buy box profile config token route).Keeps c := by
  unfold buy
  refine (keeps_enter hs).bind fun _ => ?_
  refine Keeps.bind (Keeps.within _ (keeps_request rfl)) fun _ => ?_
  refine ((keeps_query _ _).within _).bind fun before => ?_
  refine ((keeps_trade _ _ _ _ _ _).within _).bind fun swap => ?_
  exact ((keeps_query _ _).within _).bind fun after => keeps_pure _

theorem keeps_approve (hs : c.enters .approve) :
    (approve box profile config token).Keeps c := by
  unfold approve
  refine (keeps_enter hs).bind fun _ => ?_
  refine ((keeps_send _).within _).bind fun _ => ?_
  exact ((keeps_send _).within _).bind fun _ => Keeps.within _ (keeps_request rfl)

theorem keeps_sell (hs : c.enters .sell) (route : List Address) :
    (sell box profile config token route).Keeps c := by
  unfold sell
  refine (keeps_enter hs).bind fun _ => ?_
  refine ((keeps_query _ _).within _).bind fun holding => ?_
  refine ((keeps_trade _ _ _ _ _ _).within _).bind fun swap => ?_
  exact Keeps.bind (Keeps.within _ (keeps_request rfl)) fun _ => keeps_pure _

theorem keeps_secondBuy (hs : c.enters .secondBuy) (route : List Address) :
    (secondBuy box profile config token route).Keeps c := by
  unfold secondBuy
  refine (keeps_enter hs).bind fun _ => ?_
  refine ((keeps_trade _ _ _ _ _ _).within _).bind fun swap => ?_
  refine ((keeps_query _ _).within _).bind fun holding => ?_
  exact Keeps.bind (Keeps.within _ (keeps_request rfl)) fun _ => keeps_pure _

theorem keeps_isRefused {sender recipient : Address} {amount : Word}
    (ht : c.tolerates (.send (peerTransfer config token sender recipient amount))) :
    (isRefused config token sender recipient amount).Keeps c := by
  rw [isRefused, Erc20.transfer, Erc20.transferTx_eq]
  refine (keeps_attempt_request rfl ht).bind fun x => ?_
  split <;> exact keeps_pure _

theorem keeps_transfer (hs : c.enters .transfer)
    (ht : ∀ r, Tolerated box profile config token r → c.tolerates r) (holding : Word) :
    (transfer box config token holding).Keeps c := by
  unfold transfer
  refine (keeps_enter hs).bind fun _ => ?_
  refine (keeps_isRefused _ _ (ht _ (.outward _))).bind fun refused => ?_
  exact Keeps.bind (Keeps.within _ (keeps_request rfl)) fun _ => keeps_pure _

theorem keeps_transferBack (hs : c.enters .transferBack)
    (ht : ∀ r, Tolerated box profile config token r → c.tolerates r) :
    (transferBack box config token).Keeps c := by
  unfold transferBack
  refine (keeps_enter hs).bind fun _ => ?_
  refine ((keeps_query _ _).within _).bind fun received => ?_
  refine (keeps_isRefused _ _ (ht _ (.back _))).bind fun refused => ?_
  exact Keeps.bind (Keeps.within _ (keeps_request rfl)) fun price => keeps_pure _

theorem keeps_probe (hs : ∀ s ∈ Protocol.order .publicRouter, c.enters s)
    (ht : ∀ r, Tolerated box profile config token r → c.tolerates r) :
    (probe box profile config token).Keeps c := by
  unfold probe
  refine (keeps_prepare _ _ _ token (hs _ (by decide)) ht).bind fun quote => ?_
  refine (keeps_ensureLiquidity _ _ _ _ (hs _ (by decide))).bind fun _ => ?_
  refine (keeps_buy _ _ _ _ (hs _ (by decide)) _).bind fun bought => ?_
  refine (keeps_approve _ _ _ _ (hs _ (by decide))).bind fun _ => ?_
  refine (keeps_sell _ _ _ _ (hs _ (by decide)) _).bind fun sold => ?_
  refine (keeps_secondBuy _ _ _ _ (hs _ (by decide)) _).bind fun holding => ?_
  refine (keeps_transfer _ profile _ _ (hs _ (by decide)) ht _).bind fun refused => ?_
  exact (keeps_transferBack _ profile _ _ (hs _ (by decide)) ht).bind fun _ => keeps_pure _

end PublicRouter

namespace TransitRouter

variable {c : Conduct}

theorem keeps_allow (router owner token : Address) : (allow router owner token).Keeps c :=
  (keeps_send _).bind fun _ => keeps_pure _

theorem keeps_prepare (hs : c.enters .prepare) : (prepare box profile config).Keeps c := by
  unfold prepare
  refine (keeps_enter hs).bind fun _ => ?_
  refine Keeps.bind (Keeps.within _ (keeps_request rfl)) fun _ => ?_
  refine ((keeps_ofExcept _).within _).bind fun code => ?_
  exact (keeps_deploy _ _ _ _).within _

theorem keeps_buy (hs : c.enters .buy) (router : Address) :
    (buy box profile config token router).Keeps c := by
  unfold buy
  refine (keeps_enter hs).bind fun _ => ?_
  refine Keeps.bind (Keeps.within _ (keeps_request rfl)) fun _ => ?_
  refine ((keeps_query _ _).within _).bind fun pair => ?_
  refine ((keeps_allow _ _ _).within _).bind fun _ => ?_
  refine ((keeps_allow _ _ _).within _).bind fun _ => ?_
  refine ((keeps_send _).within _).bind fun receipt => ?_
  exact ((keeps_ofExcept _).within _).bind fun report => keeps_pure _

theorem keeps_transferCheck (hs : c.enters .transferCheck) (router : Address) :
    (transferCheck box config token router).Keeps c := by
  unfold transferCheck
  refine (keeps_enter hs).bind fun _ => ?_
  refine Keeps.bind (Keeps.within _ (keeps_request rfl)) fun _ => ?_
  refine ((keeps_allow _ _ _).within _).bind fun _ => ?_
  refine ((keeps_allow _ _ _).within _).bind fun _ => ?_
  exact ((keeps_send _).within _).bind fun _ => keeps_pure _

theorem keeps_sellCheck (hs : c.enters .sellCheck) (router pair : Address) :
    (sellCheck box profile config token router pair).Keeps c := by
  unfold sellCheck
  refine (keeps_enter hs).bind fun _ => ?_
  refine Keeps.bind (Keeps.within _ (keeps_request rfl)) fun _ => ?_
  refine ((keeps_query _ _).within _).bind fun holding => ?_
  refine ((keeps_send _).within _).bind fun receipt => ?_
  refine ((keeps_ofExcept _).within _).bind fun report => ?_
  exact Keeps.bind (Keeps.within _ (keeps_request rfl)) fun price => keeps_pure _

theorem keeps_probe (hs : ∀ s ∈ Protocol.order .transitRouter, c.enters s) :
    (probe box profile config token).Keeps c := by
  unfold probe
  refine (keeps_prepare _ _ _ (hs _ (by decide))).bind fun router => ?_
  refine (keeps_ensureLiquidity _ _ _ _ (hs _ (by decide))).bind fun _ => ?_
  refine (keeps_buy _ _ _ _ (hs _ (by decide)) _).bind fun bought => ?_
  refine (keeps_transferCheck _ _ _ (hs _ (by decide)) _).bind fun _ => ?_
  exact (keeps_sellCheck _ _ _ _ (hs _ (by decide)) _ _).bind fun sold => keeps_pure _

end TransitRouter

/-- A protocol keeps its conduct. -/
theorem stages_keeps (protocol : Protocol) :
    (stages protocol box profile config token).Keeps
      (conduct protocol box profile config token) := by
  cases protocol with
  | publicRouter => exact PublicRouter.keeps_probe _ _ _ _ (fun _ h => h) fun _ h => h
  | transitRouter => exact TransitRouter.keeps_probe _ _ _ _ fun _ h => h

end Probe

end SellProbe
