import SellProbe.Proofs.Likeness

/-!
# Names do not matter

A token chooses what it answers when it is asked for its symbol or its name: a text, one word of
bytes, anything else, or an error. No stage of a probe reads what has come of it, and none of the
requests that have to be answered is such a question. Hence a probe asks the same and ends in the
same verdict whatever tokens call themselves (`probeToken_ignores_names`).
-/

namespace SellProbe

open Program

/-! ## Questions for a name -/

inductive Erc20.IsDescription : Request → Prop
  | symbol (token : Address) : IsDescription (.call (Contents.symbol token))
  | name (token : Address) : IsDescription (.call (Contents.name token))

open Erc20 (IsDescription)

/-- The functions of a token without arguments are all different. -/
theorem Erc20.selectors_ne :
    Bytecode.selector "decimals()" ≠ Bytecode.selector "symbol()" ∧
      Bytecode.selector "decimals()" ≠ Bytecode.selector "name()" ∧
      Bytecode.selector "totalSupply()" ≠ Bytecode.selector "symbol()" ∧
      Bytecode.selector "totalSupply()" ≠ Bytecode.selector "name()" := by
  decide +kernel

/-- A question for a name is a call of one of two functions, with no arguments. -/
theorem Erc20.IsDescription.exists_data {tx : Transaction} (h : IsDescription (.call tx)) :
    (tx.data = Contents.calling "symbol()" [] ∨ tx.data = Contents.calling "name()" []) ∧
      tx.data.length = 4 := by
  cases h with
  | symbol token => exact ⟨.inl rfl, Contents.length_calling _ _⟩
  | name token => exact ⟨.inr rfl, Contents.length_calling _ _⟩

theorem Erc20.IsDescription.of_calling {tx : Transaction} {signature : String}
    {args : List Abi.Value} (hasks : tx.data = Contents.calling signature args)
    (h : IsDescription (.call tx)) :
    args = [] ∧ (Bytecode.selector signature = Bytecode.selector "symbol()" ∨
      Bytecode.selector signature = Bytecode.selector "name()") := by
  obtain ⟨hdata, hlength⟩ := h.exists_data
  rw [hasks] at hdata hlength
  rw [Contents.length_calling] at hlength
  refine ⟨List.length_eq_zero_iff.1 (by omega), ?_⟩
  exact hdata.imp Contents.selector_eq_of_calling_eq Contents.selector_eq_of_calling_eq

/-- What is routine is no question for a name. -/
theorem not_isDescription_of_isRoutine (r : Request) (hr : r.IsRoutine) : ¬ IsDescription r := by
  intro h
  cases hr with
  | decimals token =>
    exact (h.of_calling rfl).2.elim Erc20.selectors_ne.1 Erc20.selectors_ne.2.1
  | supply token =>
    exact (h.of_calling rfl).2.elim Erc20.selectors_ne.2.2.1 Erc20.selectors_ne.2.2.2
  | balance => cases (h.of_calling rfl).1
  | allowance => cases (h.of_calling rfl).1
  | pair => cases (h.of_calling rfl).1
  | quote => cases (h.of_calling rfl).1
  | _ => nomatch h

namespace Probe

variable (protocol : Protocol) (box : Sandbox) (profile : Profile) (config : Config)

/-! ## The stages do not read names -/

/-- Of a token, its address and its places are all that a probe works with. -/
theorem stages_congr {token token' : Token} (haddress : token'.address = token.address)
    (hdecimals : token'.decimals = token.decimals) :
    stages protocol box profile config token' = stages protocol box profile config token := by
  obtain ⟨address, symbol, name, decimals⟩ := token
  obtain ⟨_, symbol', name', _⟩ := token'
  obtain rfl := haddress
  obtain rfl := hdecimals
  cases protocol <;> rfl

theorem alike_stages (token : Token) :
    Alike IsDescription Eq (stages protocol box profile config token)
      (stages protocol box profile config token) := by
  cases protocol with
  | publicRouter =>
    refine PublicRouter.alike_probe (T := Eq) not_isDescription_of_isRoutine box profile config
      token ?_ ?_
    · intro sender recipient amount
      refine Planned.alike (A := fun r => ¬ IsDescription r) ?_ fun r hr => hr
      refine (PublicRouter.planned_isRefused config token sender recipient amount).mono ?_
      rintro refused _ rfl
      exact .ask (by rintro ⟨⟩) Step.all_nil
    · rintro bought sold gained price x _ y _ rfl rfl
      rfl
  | transitRouter =>
    exact (TransitRouter.routine_probe _ _ _ _).alike not_isDescription_of_isRoutine

theorem run_congr {ε : Type} {token token' : Token} (haddress : token'.address = token.address)
    (hdecimals : token'.decimals = token.decimals) :
    (run protocol box profile config token' : Program ε Verdict) =
      run protocol box profile config token := by
  unfold run
  rw [stages_congr protocol box profile config haddress hdecimals]

theorem alike_probeToken (address : Address) :
    Alike IsDescription Eq (probeToken protocol box profile config address)
      (probeToken protocol box profile config address) := by
  have hcreate : Alike IsDescription Eq (Program.request (.createSandbox profile.name))
      (Program.request (.createSandbox profile.name)) := alike_request (by rintro ⟨⟩)
  unfold probeToken
  refine Alike.attemptThen hcreate (fun _ _ _ => ?_) fun e => .done (.error _)
  have hresolve := Erc20.alike_resolve not_isDescription_of_isRoutine address
  refine Alike.attemptThen hresolve (fun token token' htoken => ?_)
    fun e => alike_destroy.andThen fun _ => alike_pure rfl
  dsimp only
  rw [run_congr protocol box profile config htoken.1 htoken.2]
  exact alike_run box profile config token (alike_stages protocol box profile config token)
    fun _ _ => rfl

/-- **Names do not matter.** Against two backends that differ only in what they reply when a token
is asked for its symbol or its name, be it any bytes or an error, a probe of a token asks the same
requests and has the same outcome. -/
theorem probeToken_ignores_names {b b' : Backend} (hb : b.SameBut IsDescription b')
    (address : Address) :
    let probe := probeToken protocol box profile config address
    Event.requests (probe.run b').events = Event.requests (probe.run b).events ∧
      (probe.run b').outcome = (probe.run b).outcome := by
  obtain ⟨hrequests, houtcome⟩ :=
    (alike_probeToken protocol box profile config address).run hb []
  exact ⟨hrequests, houtcome.eq⟩

/-- A token that can be sold, whether or not it tells its symbol and its name. -/
theorem probeToken_ignores_names_sample :
    let address := sampleToken.address
    let b := failingAt fun _ => false
    let b' := failingAt fun r =>
      decide (r = .call (Contents.symbol address) ∨ r = .call (Contents.name address))
    let probe := probeToken .publicRouter sampleBox sampleProfile {} address
    b.SameBut IsDescription b' ∧
      Event.requests (probe.run b').events = Event.requests (probe.run b).events ∧
      (probe.run b').outcome = (probe.run b).outcome ∧ isGood (probe.run b').outcome = true := by
  intro address b b' probe
  have hb : b.SameBut IsDescription b' := by
    refine failingAt_sameBut fun r hr => ?_
    rcases of_decide_eq_true hr with rfl | rfl
    · exact .symbol _
    · exact .name _
  obtain ⟨hrequests, houtcome⟩ :=
    probeToken_ignores_names .publicRouter sampleBox sampleProfile {} hb address
  refine ⟨hb, hrequests, houtcome, ?_⟩
  rw [houtcome]
  decide +kernel

end Probe

end SellProbe
