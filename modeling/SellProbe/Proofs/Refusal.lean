import SellProbe.Proofs.Likeness

/-!
# Refused transfers

Through the public router the token is moved to the other wallet and back, and either transfer may
be refused. All that comes of a refusal is a flag in the verdict. Nothing else that the probe asks
is such a transfer, so a run is the same up to that flag whatever the two are replied, and the flag
of a verdict tells whether one of them was refused (`run_ignores_refusals`).
-/

namespace SellProbe.Probe.PublicRouter

open Program

variable {box : Sandbox} {profile : Profile} {config : Config} {token : Token} {r : Request}
  {es es' : List Event}

/-! ## What else is asked is no transfer -/

theorem IsPeerTransfer.exists_eq (h : IsPeerTransfer box config token r) :
    ∃ sender recipient amount, r = .send (peerTransfer config token sender recipient amount) := by
  obtain ⟨amount, h | h⟩ := h
  · exact ⟨_, _, _, h⟩
  · exact ⟨_, _, _, h⟩

theorem selector_transfer_ne : Bytecode.selector "transfer(address,uint256)" ≠
    Bytecode.selector "transitTransferCheck(address,address)" := by
  decide +kernel

/-- The two arguments of a transfer take 64 bytes. -/
theorem not_isPeerTransfer_of_length {tx : Transaction} {signature : String}
    {args : List Abi.Value} (hasks : tx.data = Contents.calling signature args)
    (hargs : 32 * args.length + (Abi.bodies args).length ≠ 64) :
    ¬ IsPeerTransfer box config token (.send tx) := by
  intro h
  obtain ⟨sender, recipient, amount, h⟩ := h.exists_eq
  obtain rfl := Request.send.inj h
  have hlength := congrArg List.length hasks
  rw [peerTransfer, Contents.transfer, Contents.length_calling, Contents.length_calling] at hlength
  exact hargs (Nat.add_left_cancel hlength).symm

theorem not_isPeerTransfer_of_three_le {tx : Transaction} {signature : String}
    {args : List Abi.Value} (hasks : tx.data = Contents.calling signature args)
    (hargs : 3 ≤ args.length) : ¬ IsPeerTransfer box config token (.send tx) :=
  not_isPeerTransfer_of_length hasks (by omega)

/-- A transfer has a limit of gas, sends no value along, and has two arguments that are no lists. Of
what is routine only the check of the transit router is like that, and it is another function. -/
theorem not_isPeerTransfer_of_isRoutine (hr : r.IsRoutine) :
    ¬ IsPeerTransfer box config token r := by
  intro h
  obtain ⟨sender, recipient, amount, heq⟩ := h.exists_eq
  cases hr with
  | approval => cases congrArg Transaction.gas (Request.send.inj heq)
  | balanceProbe => cases congrArg Transaction.gas (Request.send.inj heq)
  | deposit => cases congrArg Transaction.value (Request.send.inj heq)
  | deployment => cases congrArg Transaction.target (Request.send.inj heq)
  | swap => exact not_isPeerTransfer_of_three_le rfl (by simp) h
  | liquidity => exact not_isPeerTransfer_of_three_le rfl (by simp) h
  | transitPurchase =>
    refine not_isPeerTransfer_of_length rfl ?_ h
    simp only [List.length_cons, List.length_nil, Abi.bodies, List.flatMap_cons, Abi.Value.body?,
      Abi.word, Option.getD_some, List.length_append, Bytes.length_bigEndian]
    omega
  | transitSale => exact not_isPeerTransfer_of_three_le rfl (by simp) h
  | transferCheck =>
    have hdata := congrArg Transaction.data (Request.send.inj heq)
    exact selector_transfer_ne (Contents.selector_eq_of_calling_eq hdata).symm
  | _ => cases heq

/-! ## The flag -/

/-- Some transfer between the two wallets was answered by an error. -/
def HasRefusal (box : Sandbox) (config : Config) (token : Token) (es : List Event) : Prop :=
  ∃ (r : Request) (e : ProbeError), IsPeerTransfer box config token r ∧ .asked r (.error e) ∈ es

theorem not_hasRefusal (h : ∀ r ∈ Event.requests es, ¬ IsPeerTransfer box config token r) :
    ¬ HasRefusal box config token es := by
  rintro ⟨r, e, hr, hmem⟩
  exact h r (List.mem_filterMap.2 ⟨_, hmem, rfl⟩) hr

theorem hasRefusal_append :
    HasRefusal box config token (es ++ es') ↔
      HasRefusal box config token es ∨ HasRefusal box config token es' := by
  simp only [HasRefusal, List.mem_append, and_or_left, exists_or]

theorem hasRefusal_append_right (h : ¬ HasRefusal box config token es) :
    HasRefusal box config token (es ++ es') ↔ HasRefusal box config token es' := by
  rw [hasRefusal_append, or_iff_right h]

theorem hasRefusal_append_left (h : ¬ HasRefusal box config token es') :
    HasRefusal box config token (es ++ es') ↔ HasRefusal box config token es := by
  rw [hasRefusal_append, or_iff_left h]

/-- Where all that is asked is routine, nothing is refused. -/
theorem not_hasRefusal_of_routine {ε α : Type} {p : Program ε α}
    (hp : p.Planned fun _ => Step.All Request.IsRoutine) {o : Outcome ε α} (h : p.Path es o) :
    ¬ HasRefusal box config token es :=
  not_hasRefusal fun r hr => not_isPeerTransfer_of_isRoutine (hp.asks h r hr)

theorem not_isPeerTransfer_call (tx : Transaction) :
    ¬ IsPeerTransfer box config token (.call tx) := by
  rintro ⟨amount, h | h⟩ <;> cases h

theorem refused_of_isRefused {sender recipient : Address} {amount : Word} {refused : Bool}
    (hpeer : IsPeerTransfer box config token
      (.send (peerTransfer config token sender recipient amount)))
    (h : (isRefused config token sender recipient amount).Path es (.value refused)) :
    refused = true ↔ HasRefusal box config token es := by
  rw [isRefused, Erc20.transfer, Erc20.transferTx_eq, bind_eq] at h
  cases h with
  | ask reply h =>
    cases reply with
    | value receipt =>
      cases h
      simp [HasRefusal]
    | error e =>
      cases h
      simp only [true_iff]
      exact ⟨_, e, hpeer, List.mem_singleton.2 rfl⟩
    | panic t => cases h

theorem refused_of_transfer {holding : Word} {refused : Bool}
    (h : (transfer box config token holding).Path es (.value refused)) :
    refused = true ↔ HasRefusal box config token es := by
  unfold transfer at h
  obtain ⟨_, es₁, es₂, rfl, henter, h⟩ := h.of_bind_value
  obtain ⟨_, es₃, es₄, rfl, hrefused, h⟩ := h.of_bind_value
  obtain ⟨_, es₅, es₆, rfl, hmine, h⟩ := h.of_bind_value
  cases h
  obtain rfl := henter.of_enter
  obtain rfl := hmine.of_within.of_request
  rw [refused_of_isRefused ⟨_, .inl rfl⟩ hrefused,
    hasRefusal_append_right (not_hasRefusal (by simp)),
    hasRefusal_append_left (not_hasRefusal ?_)]
  simpa using not_isPeerTransfer_of_isRoutine (.mine _)

theorem refused_of_transferBack {refused : Bool} {price : Word}
    (h : (transferBack box config token).Path es (.value (refused, price))) :
    refused = true ↔ HasRefusal box config token es := by
  unfold transferBack at h
  obtain ⟨_, es₁, es₂, rfl, henter, h⟩ := h.of_bind_value
  obtain ⟨_, es₃, es₄, rfl, hreceived, h⟩ := h.of_bind_value
  obtain ⟨_, es₅, es₆, rfl, hrefused, h⟩ := h.of_bind_value
  obtain ⟨_, es₇, es₈, rfl, hprice, h⟩ := h.of_bind_value
  cases h
  obtain rfl := henter.of_enter
  obtain rfl := hprice.of_within.of_request
  rw [refused_of_isRefused ⟨_, .inr rfl⟩ hrefused,
    hasRefusal_append_right (not_hasRefusal (by simp)),
    hasRefusal_append_right
      (not_hasRefusal_of_routine (Erc20.routine_balanceOf _ _) hreceived.of_within),
    hasRefusal_append_left (not_hasRefusal ?_)]
  simpa using not_isPeerTransfer_of_isRoutine .gasPrice

theorem not_hasRefusal_of_prepare {quote : Address}
    (h : (prepare box profile config).Path es (.value quote)) :
    ¬ HasRefusal box config token es := by
  have hplanned : (prepare box profile config).Planned fun _ =>
      Step.All fun r => ¬ IsPeerTransfer box config token r := by
    refine (planned_prepare box profile config).mono ?_
    rintro quote steps ⟨-, places, rfl⟩
    refine .enter (.ask (not_isPeerTransfer_of_isRoutine (.mine _)) ?_)
    refine .ask (not_isPeerTransfer_call _) (.ask (not_isPeerTransfer_call _) ?_)
    refine .ask (not_isPeerTransfer_call _) (.ask ?_ Step.all_nil)
    exact not_isPeerTransfer_of_isRoutine (.deposit _ _ _ _)
  exact not_hasRefusal (hplanned.asks h)

/-- The flag of a verdict tells whether a transfer was refused. -/
theorem transferError_of_probe {v : Verdict}
    (h : (probe box profile config token).Path es (.value v)) :
    ∃ refused, v.transferError = some refused ∧
      (refused = true ↔ HasRefusal box config token es) := by
  unfold probe at h
  obtain ⟨quote, es₁, es₂, rfl, hprepare, h⟩ := h.of_bind_value
  obtain ⟨_, es₃, es₄, rfl, hmarket, h⟩ := h.of_bind_value
  obtain ⟨⟨swap, gained⟩, es₅, es₆, rfl, hbuy, h⟩ := h.of_bind_value
  obtain ⟨_, es₇, es₈, rfl, happrove, h⟩ := h.of_bind_value
  obtain ⟨sold, es₉, es₁₀, rfl, hsell, h⟩ := h.of_bind_value
  obtain ⟨holding, es₁₁, es₁₂, rfl, hsecond, h⟩ := h.of_bind_value
  obtain ⟨refused, es₁₃, es₁₄, rfl, htransfer, h⟩ := h.of_bind_value
  obtain ⟨⟨refusedBack, price⟩, es₁₅, es₁₆, rfl, hback, h⟩ := h.of_bind_value
  cases h
  refine ⟨refused || refusedBack, rfl, ?_⟩
  rw [Bool.or_eq_true, refused_of_transfer htransfer, refused_of_transferBack hback,
    hasRefusal_append_right (not_hasRefusal_of_prepare hprepare),
    hasRefusal_append_right (not_hasRefusal_of_routine (routine_ensureLiquidity ..) hmarket),
    hasRefusal_append_right (not_hasRefusal_of_routine (routine_buy ..) hbuy),
    hasRefusal_append_right (not_hasRefusal_of_routine (routine_approve ..) happrove),
    hasRefusal_append_right (not_hasRefusal_of_routine (routine_sell ..) hsell),
    hasRefusal_append_right (not_hasRefusal_of_routine (routine_secondBuy ..) hsecond),
    hasRefusal_append, List.append_nil]

/-! ## Two runs -/

/-- **Refused transfers leave a verdict as it is, up to its flag.** Against two backends that differ
only in what they reply to transfers between the two wallets, a probe through the public router asks
the same requests and comes to the same verdict but for the flag; and against any backend the flag
of a token that is called sellable tells whether a transfer was refused. -/
theorem run_ignores_refusals (ε : Type) (profile : Profile) {b b' : Backend}
    (hb : b.SameBut (IsPeerTransfer box config token) b') :
    let probe : Program ε Verdict := run .publicRouter box profile config token
    Event.requests (probe.run b').events = Event.requests (probe.run b).events ∧
    (probe.run b).outcome.Rel (fun v v' => v' = { v with transferError := v'.transferError })
      (probe.run b').outcome ∧
    ∀ (c : Backend) (v : Verdict), (probe.run c).outcome = .value v → v.isSellable = true →
      ∃ refused, v.transferError = some refused ∧
        (refused = true ↔ HasRefusal box config token (probe.run c).events) := by
  intro probe
  have halike : Alike (IsPeerTransfer box config token)
      (fun v v' : Verdict => v' = { v with transferError := v'.transferError })
      (stages .publicRouter box profile config token)
      (stages .publicRouter box profile config token) := by
    refine alike_probe (T := fun _ _ => True) (fun r hr => not_isPeerTransfer_of_isRoutine hr)
      box profile config token (fun sender recipient amount => ?_) ?_
    · refine (alike_attempt _).bind fun x y _ => ?_
      cases x <;> cases y <;> exact alike_pure trivial
    · intro bought sold gained price x x' y y' _ _
      rfl
  have hrun : Alike _ _ probe probe := alike_run box profile config token halike fun _ _ => rfl
  obtain ⟨hrequests, houtcome⟩ := hrun.run hb []
  refine ⟨hrequests, houtcome, fun c v hrun hv => ?_⟩
  obtain ⟨work, rest, hes, hrest, hwork⟩ := exists_work_of_sellable hrun hv
  obtain ⟨refused, hflag, hrefused⟩ := transferError_of_probe hwork
  have hnone : ¬ HasRefusal box config token rest := by
    refine not_hasRefusal fun r hr => ?_
    rw [hrest] at hr
    rintro ⟨amount, rfl | rfl⟩ <;> simp at hr
  refine ⟨refused, hflag, ?_⟩
  rw [hrefused, hes, hasRefusal_append_left hnone]

def flag? {ε : Type} : Outcome ε Verdict → Option Bool
  | .value v => if v.isSellable then v.transferError else none
  | _ => none

theorem exists_verdict_of_flag {ε : Type} {o : Outcome ε Verdict} {refused : Bool}
    (h : flag? o = some refused) :
    ∃ v, o = .value v ∧ v.isSellable = true ∧ v.transferError = some refused := by
  cases o with
  | value v =>
    rw [flag?, Option.ite_none_right_eq_some] at h
    exact ⟨v, rfl, h.1, h.2⟩
  | error e => cases h
  | panic t => cases h

/-- A token that can be sold, whether or not the first of its transfers is refused. -/
theorem run_ignores_refusals_sample :
    let first : Request := .send (peerTransfer {} sampleToken sampleBox.main sampleBox.transit 63)
    let b := failingAt fun _ => false
    let b' := failingAt fun r => decide (r = first)
    let probe : Program ProbeError Verdict :=
      run .publicRouter sampleBox sampleProfile {} sampleToken
    b.SameBut (IsPeerTransfer sampleBox {} sampleToken) b' ∧
    Event.requests (probe.run b').events = Event.requests (probe.run b).events ∧
    ∃ v v', (probe.run b).outcome = .value v ∧ (probe.run b').outcome = .value v' ∧
      v.isSellable = true ∧ v' = { v with transferError := v'.transferError } ∧
      v.transferError = some false ∧ v'.transferError = some true ∧
      HasRefusal sampleBox {} sampleToken (probe.run b').events := by
  intro first b b' probe
  have hb : b.SameBut (IsPeerTransfer sampleBox {} sampleToken) b' :=
    failingAt_sameBut fun r hr => ⟨63, .inl (of_decide_eq_true hr)⟩
  obtain ⟨hrequests, houtcome, hflag⟩ :=
    run_ignores_refusals ProbeError sampleProfile hb
  obtain ⟨v, hv, hsellable, hnone⟩ : ∃ v, (probe.run b).outcome = .value v ∧ v.isSellable = true ∧
      v.transferError = some false := exists_verdict_of_flag (by decide +kernel)
  obtain ⟨v', hv', hsellable', hsome⟩ : ∃ v, (probe.run b').outcome = .value v ∧
      v.isSellable = true ∧ v.transferError = some true :=
    exists_verdict_of_flag (by decide +kernel)
  have hsame : v' = { v with transferError := v'.transferError } := by
    change (probe.run b).outcome.Rel _ (probe.run b').outcome at houtcome
    rw [hv, hv'] at houtcome
    cases houtcome with
    | value h => exact h
  obtain ⟨refused, hrefused, hiff⟩ := hflag b' v' hv' hsellable'
  obtain rfl : true = refused := Option.some.inj (hsome.symm.trans hrefused)
  exact ⟨hb, hrequests, v, v', hv, hv', hsellable, hsame, hnone, hsome, hiff.1 rfl⟩

end SellProbe.Probe.PublicRouter
