import Mathlib.Data.List.DropRight
import SellProbe.Proofs.Attribution
import SellProbe.Proofs.Sellable

/-!
# The two shapes of a verdict

A verdict is made in three places: at the end of the stages of either protocol, from the failure of
a stage, and from a panic. Whatever is replied, it is then either favourable, with both costs of gas
and no word on a failure, or adverse, with the stage that failed, a reason that can be read, and
nothing else (`run_verdict_shape`). A favourable verdict lacks a tax just where nothing was
promised.
-/

open scoped List

namespace SellProbe

/-! ## Texts without blanks around them -/

/-- A text that is not empty and neither begins nor ends with a blank. -/
structure Text.IsTrimmed (s : String) : Prop where
  ne_empty : s.toList ≠ []
  head : ∀ c ∈ s.toList.head?, Text.isBlank c = false
  last : ∀ c ∈ s.toList.getLast?, Text.isBlank c = false

namespace Text

/-- It is enough to look at the first and the last character. -/
theorem isTrimmed_of_ends {s : String} {c d : Char} (hc : s.toList.head? = some c)
    (hd : s.toList.getLast? = some d) (hc' : isBlank c = false) (hd' : isBlank d = false) :
    IsTrimmed s where
  ne_empty := by
    intro hs
    rw [hs] at hc
    cases hc
  head := by
    intro x hx
    obtain rfl : c = x := Option.some.inj (hc.symm.trans hx)
    exact hc'
  last := by
    intro x hx
    obtain rfl : d = x := Option.some.inj (hd.symm.trans hx)
    exact hd'

theorem isBlank_of_mem_head?_trimLeft {cs : List Char} {c : Char}
    (h : c ∈ (trimLeft cs).head?) : isBlank c = false := by
  have hne : trimLeft cs ≠ [] := List.ne_nil_of_mem (List.mem_of_mem_head? h)
  have hc : (trimLeft cs).head hne = c := (List.head_eq_iff_head?_eq_some hne).2 h
  rw [← hc]
  exact List.head_dropWhile_not isBlank hne

/-- Trimming a text leaves no blank at either end. -/
theorem isTrimmed_trim {cs : List Char} (h : trim cs ≠ []) :
    IsTrimmed (String.ofList (trim cs)) where
  ne_empty := by rwa [String.toList_ofList]
  head := by
    rw [String.toList_ofList]
    obtain ⟨rest, hrest⟩ : trim cs <+: trimLeft cs := List.rdropWhile_prefix isBlank _
    intro c hc
    have hmem : c ∈ (trimLeft cs).head? := by rwa [← hrest, List.head?_append_of_ne_nil _ h]
    exact isBlank_of_mem_head?_trimLeft hmem
  last := by
    rw [String.toList_ofList]
    intro c hc
    have hlast : ¬ isBlank ((trim cs).getLast h) := List.rdropWhile_last_not isBlank _ h
    rw [List.getLast?_eq_some_getLast h] at hc
    obtain rfl := Option.some.inj hc
    simpa using hlast

end Text

namespace Reason

theorem isTrimmed_silentText : Text.IsTrimmed silentText := by
  have hfirst : silentText.toList.head? = some 'H' := by decide
  have hlast : silentText.toList.getLast? = some 'n' := by decide
  exact Text.isTrimmed_of_ends hfirst hlast (by decide) (by decide)

theorem isTrimmed_unknownText : Text.IsTrimmed unknownText := by
  have hfirst : unknownText.toList.head? = some 'H' := by decide
  have hlast : unknownText.toList.getLast? = some 'n' := by decide
  exact Text.isTrimmed_of_ends hfirst hlast (by decide) (by decide)

theorem isTrimmed_classify (message : String) : Text.IsTrimmed (classify message).message := by
  unfold classify
  split
  · split
    · dsimp only
      split
      next => exact isTrimmed_silentText
      next hreason => exact Text.isTrimmed_trim (by simpa using hreason)
    · exact isTrimmed_silentText
  · split
    · exact isTrimmed_silentText
    · exact isTrimmed_unknownText

/-- Whatever the error, its reason can be read. -/
theorem isTrimmed_ofError (e : ProbeError) : Text.IsTrimmed (ofError e).message := by
  unfold ofError
  split
  · exact isTrimmed_silentText
  · exact isTrimmed_classify _

end Reason

/-! ## The two shapes -/

/-- The names of the stages that a verdict of a protocol can give. -/
def Protocol.stageNames : Protocol → List String
  | .publicRouter =>
    ["Prepare", "Bootstrap", "Buy", "Approve", "Sell", "Second Buy", "Transfer", "TransferBack"]
  | .transitRouter => ["Prepare", "Bootstrap", "Buy", "TransferCheck", "SellCheck"]

theorem Protocol.stageNames_eq (protocol : Protocol) :
    protocol.stageNames = protocol.order.map Stage.name := by
  cases protocol <;> rfl

namespace Verdict

/-- A verdict that the token can be sold tells both costs of gas, and through the public router
whether a transfer was refused. -/
structure IsFavourable (protocol : Protocol) (v : Verdict) : Prop where
  isSellable : v.isSellable = true
  buyGas : v.buyGas.isSome = true
  sellGas : v.sellGas.isSome = true
  transferError : v.transferError.isSome = true ↔ protocol = .publicRouter
  failedStage : v.failedStage = none
  errorMessage : v.errorMessage = none

/-- A verdict that the token cannot be sold names a stage and a reason, and tells nothing else. -/
structure IsAdverse (protocol : Protocol) (v : Verdict) : Prop where
  isSellable : v.isSellable = false
  failedStage : ∃ name ∈ protocol.stageNames, v.failedStage = some name
  errorMessage : ∃ message, Text.IsTrimmed message ∧ v.errorMessage = some message
  buyTax : v.buyTax = none
  sellTax : v.sellTax = none
  buyGas : v.buyGas = none
  sellGas : v.sellGas = none
  transferError : v.transferError = none

theorem isAdverse_failed {protocol : Protocol} {s : Stage} {message : String}
    (hs : s ∈ protocol.order) (hmessage : Text.IsTrimmed message) :
    (failed s.name message).IsAdverse protocol where
  isSellable := rfl
  failedStage := ⟨s.name, protocol.stageNames_eq ▸ List.mem_map_of_mem hs, rfl⟩
  errorMessage := ⟨message, hmessage, rfl⟩
  buyTax := rfl
  sellTax := rfl
  buyGas := rfl
  sellGas := rfl
  transferError := rfl

end Verdict

theorem Swap.tax_eq_none_iff {calculated output : Word} :
    Swap.tax calculated output = none ↔ calculated = 0 := by
  unfold Swap.tax shareOf
  split <;> simp

namespace Probe

open Program

variable {box : Sandbox} {profile : Profile} {config : Config} {token : Token}
  {protocol : Protocol} {es : List Event}

/-- What was promised for the purchase and for the sale among some events. -/
inductive Promised (box : Sandbox) (profile : Profile) (config : Config) (token : Token) :
    Protocol → List Event → Word → Word → Prop
  /-- By the quotes before the purchase and before the sale, not the one before the second
  purchase. -/
  | publicRouter (bought : PublicRouter.Purchase box profile) (sold : PublicRouter.Sale box profile)
      (es : List Event) :
      bought.events config token (Swap.buyRoute profile.wrappedNative
            (config.quoteFor profile.wrappedNative) token.address) ++
          (sold.events config token (Swap.sellRoute profile.wrappedNative
            (config.quoteFor profile.wrappedNative) token.address) ++ [.entered .secondBuy]) <+ es →
        Promised box profile config token .publicRouter es bought.swap.calculated
          sold.swap.calculated
  /-- By the reports of the router that was deployed. -/
  | transitRouter (deployed : TransitRouter.Deployment config) (bought : TransitRouter.Purchase)
      (sold : TransitRouter.Sale) (es : List Event) :
      deployed.events box profile ++ (bought.events box profile config token deployed.router ++
          sold.events box profile config token deployed.router bought.pair.value) <+ es →
        Promised box profile config token .transitRouter es bought.report.calculated
          sold.report.calculated

theorem Promised.mono {es' : List Event} {bought sold : Word} (hes : es <+ es')
    (h : Promised box profile config token protocol es bought sold) :
    Promised box profile config token protocol es' bought sold := by
  cases h with
  | publicRouter x y es h => exact .publicRouter x y es' (h.trans hes)
  | transitRouter x y z es h => exact .transitRouter x y z es' (h.trans hes)

theorem accounts_favourable (box : Sandbox) (profile : Profile) (config : Config) (token : Token)
    (protocol : Protocol) :
    (stages protocol box profile config token).Accounts .outside
      fun v _ => v.IsFavourable protocol := by
  cases protocol with
  | publicRouter =>
    refine PublicRouter.accounts_probe _ _ _ _ fun _ _ _ _ _ _ => ?_
    exact ⟨rfl, rfl, rfl, by simp [PublicRouter.verdictOf], rfl, rfl⟩
  | transitRouter =>
    refine TransitRouter.accounts_probe _ _ _ _ fun _ _ _ _ _ _ => ?_
    exact ⟨rfl, rfl, rfl, by simp [TransitRouter.verdictOf], rfl, rfl⟩

/-- A verdict of the stages lacks a tax where nothing was promised. -/
theorem promised_of_stages {v : Verdict}
    (h : (stages protocol box profile config token).Path es (.value v)) :
    ∃ bought sold, Promised box profile config token protocol es bought sold ∧
      (v.buyTax = none ↔ bought = 0) ∧ (v.sellTax = none ↔ sold = 0) := by
  cases protocol with
  | publicRouter =>
    obtain ⟨bought, approved, approvedTransit, sold, htrades, hbuyTax, hsellTax⟩ :=
      PublicRouter.trades_before_secondBuy h
    refine ⟨_, _, .publicRouter bought sold es (.trans ?_ htrades), ?_, ?_⟩
    · exact .append (.refl _) (List.sublist_append_right _ _)
    · rw [hbuyTax, Swap.tax_eq_none_iff]
    · rw [hsellTax, Swap.tax_eq_none_iff]
  | transitRouter =>
    obtain ⟨deployed, bought, checked, sold, htrades, hbuyTax, hsellTax, -⟩ :=
      TransitRouter.trades_of_probe h
    refine ⟨_, _, .transitRouter deployed bought sold es (.trans ?_ htrades), ?_, ?_⟩
    · exact .append (.refl _) (.append (.refl _) (List.sublist_append_right _ _))
    · rw [hbuyTax, Swap.tax_eq_none_iff]
    · rw [hsellTax, Swap.tax_eq_none_iff]

/-- The stage that a probe is at work in belongs to its protocol. -/
theorem mem_order_of_working {o : Outcome Failure Verdict} {s : Stage}
    (h : (stages protocol box profile config token).Path es o)
    (hs : Standing.outside.after es = .working s) : s ∈ protocol.order :=
  (stages_keeps box profile config token protocol).enters h s
    (List.mem_of_getLast? (getLast?_stages hs))

/-- Stages that end with a verdict make a favourable one, and all others an adverse one. -/
theorem shape_of_stages {o : Outcome Failure Verdict}
    (h : (stages protocol box profile config token).Path es o) :
    let v := verdictOf o (Event.lastStage .prepare es)
    (v.IsFavourable protocol ∧ ∃ bought sold,
        Promised box profile config token protocol es bought sold ∧
        (v.buyTax = none ↔ bought = 0) ∧ (v.sellTax = none ↔ sold = 0)) ∨
      v.IsAdverse protocol := by
  have haccounts := accounts_favourable box profile config token protocol
  cases o with
  | value v => exact .inl ⟨haccounts.value h, promised_of_stages h⟩
  | error f =>
    obtain ⟨hstage, e, he⟩ := haccounts.failure h
    refine .inr (Verdict.isAdverse_failed (mem_order_of_working h hstage) ?_)
    exact he ▸ Reason.isTrimmed_ofError e
  | panic text =>
    obtain ⟨s, hs⟩ := haccounts.panic h
    have hlast : Event.lastStage .prepare es = s := by
      rw [Event.lastStage, getLast?_stages hs]
      rfl
    rw [hlast]
    exact .inr (Verdict.isAdverse_failed (mem_order_of_working h hs) Reason.isTrimmed_unknownText)

/-- **Every verdict has one of two shapes.** Whatever is replied, a probe ends in a verdict that is
favourable or adverse, and a favourable one lacks the tax on buying or on selling just where nothing
was promised for it. -/
theorem run_verdict_shape (ε : Type) (protocol : Protocol) (box : Sandbox) (profile : Profile)
    (config : Config) (token : Token) {b : Backend} (hb : b.Releases) :
    let probe : Program ε Verdict := run protocol box profile config token
    ∃ v, (probe.run b).outcome = .value v ∧
      ((v.IsFavourable protocol ∧ ∃ bought sold,
          Promised box profile config token protocol (probe.run b).events bought sold ∧
          (v.buyTax = none ↔ bought = 0) ∧ (v.sellTax = none ↔ sold = 0)) ∨
        v.IsAdverse protocol) := by
  intro probe
  have hrun : probe.run b = _ := run_eq protocol box profile config token hb
  refine ⟨_, congrArg Run.outcome hrun, ?_⟩
  rw [hrun]
  refine (shape_of_stages (path_runWith b.responder _ [])).imp_left fun ⟨hv, hpromised⟩ => ⟨hv, ?_⟩
  obtain ⟨bought, sold, hpromised, htaxes⟩ := hpromised
  exact ⟨bought, sold, hpromised.mono (List.sublist_append_left _ _), htaxes⟩

/-- A token that can be sold through the transit router has a favourable verdict. -/
theorem run_verdict_shape_sample :
    let b := failingAt fun _ => false
    let config : Config := { transitRouterCode := some [0x60, 0x00] }
    let probe : Program ProbeError Verdict :=
      run .transitRouter sampleBox sampleProfile config sampleToken
    b.Releases ∧ ∃ v, (probe.run b).outcome = .value v ∧ v.IsFavourable .transitRouter ∧
      ∃ bought sold, Promised sampleBox sampleProfile config sampleToken .transitRouter
        (probe.run b).events bought sold ∧
        (v.buyTax = none ↔ bought = 0) ∧ (v.sellTax = none ↔ sold = 0) := by
  intro b config probe
  have hb : b.Releases := failingAt_releases _
  obtain ⟨v, hv, hshape⟩ := run_verdict_shape ProbeError .transitRouter sampleBox sampleProfile
    config sampleToken hb
  change (probe.run b).outcome = .value v at hv
  have hgood : isGood (probe.run b).outcome = true := by decide +kernel
  rw [hv] at hgood
  have hgood : v.isSellable = true := hgood
  rcases hshape with ⟨hfavourable, hpromised⟩ | hadverse
  · exact ⟨hb, v, hv, hfavourable, hpromised⟩
  · rw [hadverse.isSellable] at hgood
    cases hgood

end Probe

end SellProbe
