import SellProbe.Proofs.Indifference
import SellProbe.Proofs.Routine

/-!
# Probes that take no notice of some replies

A probe may be played against two backends that differ in their replies to some requests, none of
them routine. Part by part it then does the same. The symbol and the name of a token reach no
further than the token's record, and a refused transfer no further than the verdict; a run of a
probe is alike to itself if its stages are.
-/

namespace SellProbe

open Program

variable {P : Request → Prop}

/-! ## Tokens -/

namespace Erc20

/-- Whatever is replied, some text or none comes out. -/
theorem alike_textOf (tx : Transaction) : Alike P (fun _ _ => True) (textOf tx) (textOf tx) := by
  refine (alike_attempt (.call tx)).bind fun x y _ => ?_
  cases x <;> cases y <;> exact alike_pure trivial

variable (hP : ∀ r : Request, r.IsRoutine → ¬ P r)
include hP

/-- Two readings of a token can differ in its symbol and its name only. -/
theorem alike_resolve (address : Address) :
    Alike P (fun t t' : Token => t'.address = t.address ∧ t'.decimals = t.decimals)
      (resolve address) (resolve address) := by
  refine ((routine_decimals address).alike hP).andThen fun n => ?_
  refine (alike_textOf _).bind fun symbol symbol' _ => ?_
  refine (alike_textOf _).bind fun name name' _ => ?_
  exact alike_pure ⟨rfl, rfl⟩

end Erc20

/-! ## Phases -/

namespace Probe

variable (hP : ∀ r : Request, r.IsRoutine → ¬ P r) (box : Sandbox) (profile : Profile)
  (config : Config) (token : Token)

include hP

namespace PublicRouter

theorem alike_prepare :
    Alike P Eq (prepare box profile config) (prepare box profile config) := by
  unfold prepare
  refine (alike_enter _).andThen fun _ => ?_
  refine Alike.andThen (((routine_request (.mine _)).alike hP).within _) fun _ => ?_
  refine ((Erc20.alike_resolve hP _).within _).bind fun quote quote' hquote => ?_
  rw [Exchange.deposit, Exchange.depositTx_eq]
  refine Alike.andThen (((routine_request (.deposit _ _ _ _)).alike hP).within _) fun _ => ?_
  exact alike_pure hquote.1.symm

variable {T : Bool → Bool → Prop}
  (hT : ∀ sender recipient amount, Alike P T (isRefused config token sender recipient amount)
    (isRefused config token sender recipient amount))

include hT

theorem alike_transfer (holding : Word) :
    Alike P T (transfer box config token holding) (transfer box config token holding) := by
  unfold transfer
  refine (alike_enter _).andThen fun _ => ?_
  refine (hT _ _ _).bind fun refused refused' hrefused => ?_
  refine Alike.andThen (((routine_request (.mine _)).alike hP).within _) fun _ => ?_
  exact alike_pure hrefused

theorem alike_transferBack :
    Alike P (fun x y : Bool × Word => T x.1 y.1 ∧ y.2 = x.2) (transferBack box config token)
      (transferBack box config token) := by
  unfold transferBack
  refine (alike_enter _).andThen fun _ => ?_
  refine (((Erc20.routine_balanceOf _ _).alike hP).within _).andThen fun received => ?_
  refine (hT _ _ _).bind fun refused refused' hrefused => ?_
  refine Alike.andThen (((routine_request .gasPrice).alike hP).within _) fun price => ?_
  exact alike_pure ⟨hrefused, rfl⟩

/-- Two probes through the public router differ as the transfers do in whether they are refused. -/
theorem alike_probe {R : Verdict → Verdict → Prop}
    (hR : ∀ bought sold gained price x x' y y', T x x' → T y y' →
      R (verdictOf bought sold gained price (x || y))
        (verdictOf bought sold gained price (x' || y'))) :
    Alike P R (probe box profile config token) (probe box profile config token) := by
  unfold probe
  refine (alike_prepare hP _ _ _).andThen fun quote => ?_
  refine ((routine_ensureLiquidity _ _ _ _).alike hP).andThen fun _ => ?_
  refine ((routine_buy _ _ _ _).alike hP).andThen fun ⟨bought, gained⟩ => ?_
  refine ((routine_approve _ _ _ _).alike hP).andThen fun _ => ?_
  refine ((routine_sell _ _ _ _).alike hP).andThen fun sold => ?_
  refine ((routine_secondBuy _ _ _ _).alike hP).andThen fun holding => ?_
  refine (alike_transfer hP _ _ _ hT _).bind fun refused refused' hrefused => ?_
  refine (alike_transferBack hP _ _ _ hT).bind ?_
  rintro ⟨back, price⟩ ⟨back', _⟩ ⟨hback, rfl⟩
  exact alike_pure (hR _ _ _ _ _ _ _ _ hrefused hback)

end PublicRouter

omit hP

/-! ## Runs -/

variable {ε : Type} {R : Verdict → Verdict → Prop}

theorem alike_lockSentinel :
    Alike P Eq (lockSentinel box : Program ε Unit) (lockSentinel box) :=
  (alike_attempt _).bind fun _ _ _ => alike_pure rfl

theorem alike_destroy : Alike P Eq (destroy : Program ε Unit) destroy := by
  refine .ask fun reply reply' hreply => ?_
  rcases hreply with rfl | ⟨-, hreply, hreply'⟩
  · cases reply' with
    | value u => exact alike_pure rfl
    | error e => exact alike_pure rfl
    | panic t => exact .done (.panic t)
  · cases reply with
    | panic t => exact (hreply t rfl).elim
    | _ =>
      cases reply' with
      | panic t => exact (hreply' t rfl).elim
      | _ => exact alike_pure rfl

/-- The verdicts on two probes are as those of their stages, if failed ones are the same. -/
theorem alike_run {protocol : Protocol}
    (hstages : Alike P R (stages protocol box profile config token)
      (stages protocol box profile config token))
    (hR : ∀ stage message, R (.failed stage message) (.failed stage message)) :
    Alike P R (run protocol box profile config token : Program ε Verdict)
      (run protocol box profile config token) := by
  unfold run
  refine Alike.bind (hstages.contain (S := fun x y => R (verdictOf x.1 x.2) (verdictOf y.1 y.2))
    ?_ _) fun ⟨o, stage⟩ ⟨o', stage'⟩ ho => ?_
  · rintro o o' stage (hv | f | t)
    · exact hv
    · exact hR _ _
    · exact hR _ _
  · refine (alike_lockSentinel box).andThen fun _ => ?_
    refine alike_destroy.andThen fun _ => ?_
    exact alike_pure ho

/-! ## Backends to compare -/

/-- To fail some requests is to differ in the replies to these. -/
theorem failingAt_sameBut {fails : Request → Bool} (hP : ∀ r, fails r = true → P r) :
    (failingAt fun _ => false).SameBut P (failingAt fails) := by
  intro h r
  by_cases hr : fails r = true
  · exact .inr ⟨hP r hr, failingAt_ne_panic _ h r, failingAt_ne_panic _ h r⟩
  · exact .inl (by simp [failingAt, hr])

end Probe

end SellProbe
