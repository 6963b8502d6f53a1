import SellProbe.Proofs.Plan

/-!
# Programs that take no notice of some replies

Two backends may differ in what they reply to some requests, as long as neither panics at them. Two
programs are alike up to such requests if they ask and enter the same, whichever of the two replies
comes, and end in values that are related (`Program.Alike`). Against the two backends they then run
the same up to that relation (`Alike.run`), and the lemmas go along the text of a program. A program
that asks none of the requests is alike to itself, and its plan tells that it asks none
(`Planned.alike`).
-/

namespace SellProbe

/-- Outcomes that differ in their value only, and there as `R` allows. -/
inductive Outcome.Rel {ε α β : Type} (R : α → β → Prop) : Outcome ε α → Outcome ε β → Prop
  | value {a : α} {b : β} : R a b → Rel R (.value a) (.value b)
  | error (e : ε) : Rel R (.error e) (.error e)
  | panic (t : String) : Rel R (.panic t) (.panic t)

theorem Outcome.Rel.eq {ε α : Type} {o o' : Outcome ε α} (h : o.Rel Eq o') : o' = o := by
  cases h with
  | value h => rw [h]
  | error e => rfl
  | panic t => rfl

/-- Two replies to a request that are the same, or that are both no panic to one of `P`. -/
def Request.SameBut (P : Request → Prop) (r : Request) (reply reply' : Reply r) : Prop :=
  reply' = reply ∨ P r ∧ (∀ t, reply ≠ .panic t) ∧ ∀ t, reply' ≠ .panic t

/-- Backends that reply the same, except that each replies as it likes to the requests of `P`, with
an answer or with an error. -/
def Backend.SameBut (P : Request → Prop) (b b' : Backend) : Prop :=
  ∀ h (r : Request), r.SameBut P (b h r) (b' h r)

namespace Program

variable {ε ε' α α' β β' : Type} {P : Request → Prop} {R : α → α' → Prop}

/-- Programs that ask and enter the same, go on alike after replies that are the same but for `P`,
and end in values that are related by `R`. -/
inductive Alike (P : Request → Prop) (R : α → α' → Prop) : Program ε α → Program ε α' → Prop
  | done {o : Outcome ε α} {o' : Outcome ε α'} : o.Rel R o' → Alike P R (.done o) (.done o')
  | ask {r : Request} {next : Reply r → Program ε α} {next' : Reply r → Program ε α'} :
      (∀ reply reply', r.SameBut P reply reply' → Alike P R (next reply) (next' reply')) →
        Alike P R (.ask r next) (.ask r next')
  | enter {s : Stage} {next : Program ε α} {next' : Program ε α'} :
      Alike P R next next' → Alike P R (.enter s next) (.enter s next')

/-- Programs that are alike ask the same of backends that are the same, and end alike. -/
theorem Alike.run {p : Program ε α} {p' : Program ε α'} (hp : Alike P R p p') {b b' : Backend}
    (hb : b.SameBut P b') (s : List Request) :
    Event.requests (p'.runWith b'.responder s).events =
        Event.requests (p.runWith b.responder s).events ∧
      (p.runWith b.responder s).outcome.Rel R (p'.runWith b'.responder s).outcome := by
  induction hp generalizing s with
  | done ho => exact ⟨rfl, ho⟩
  | @ask r next next' _ ih =>
    obtain ⟨hrequests, ho⟩ := ih _ _ (hb s r) (s ++ [r])
    exact ⟨congrArg (r :: ·) hrequests, ho⟩
  | enter _ ih => exact ih s

/-! ## Programs made of others -/

theorem alike_pure {a : α} {a' : α'} (h : R a a') :
    Alike P R (pure a : Program ε α) (pure a') :=
  .done (.value h)

theorem Alike.bind {S : β → β' → Prop} {p : Program ε α} {p' : Program ε α'}
    {f : α → Program ε β} {f' : α' → Program ε β'} (hp : Alike P R p p')
    (hf : ∀ a a', R a a' → Alike P S (f a) (f' a')) : Alike P S (p >>= f) (p' >>= f') := by
  rw [bind_eq, bind_eq]
  induction hp with
  | done ho => cases ho with
    | value hR => exact hf _ _ hR
    | error e => exact .done (.error e)
    | panic t => exact .done (.panic t)
  | ask _ ih => exact .ask ih
  | enter _ ih => exact .enter ih

theorem Alike.andThen {S : β → β' → Prop} {p : Program ε α} {f : α → Program ε β}
    {f' : α → Program ε β'} (hp : Alike P Eq p p) (hf : ∀ a, Alike P S (f a) (f' a)) :
    Alike P S (p >>= f) (p >>= f') := by
  refine hp.bind ?_
  rintro a _ rfl
  exact hf a

theorem Alike.mapError (f : ε → ε') {p : Program ε α} {p' : Program ε α'}
    (hp : Alike P R p p') : Alike P R (p.mapError f) (p'.mapError f) := by
  induction hp with
  | done ho => cases ho with
    | value hR => exact .done (.value hR)
    | error e => exact .done (.error (f e))
    | panic t => exact .done (.panic t)
  | ask _ ih => exact .ask ih
  | enter _ ih => exact .enter ih

/-- After a program whose error is caught. -/
theorem Alike.attemptThen {S : β → β' → Prop} {p : Program ε α} {p' : Program ε α'}
    {f : Except ε α → Program ε' β} {f' : Except ε α' → Program ε' β'} (hp : Alike P R p p')
    (hok : ∀ a a', R a a' → Alike P S (f (.ok a)) (f' (.ok a')))
    (herror : ∀ e, Alike P S (f (.error e)) (f' (.error e))) :
    Alike P S (p.attempt >>= f) (p'.attempt >>= f') := by
  rw [bind_eq, bind_eq]
  induction hp with
  | done ho => cases ho with
    | value hR => exact hok _ _ hR
    | error e => exact herror e
    | panic t => exact .done (.panic t)
  | ask _ ih => exact .ask ih
  | enter _ ih => exact .enter ih

theorem Alike.contain {S : Outcome ε α × Stage → Outcome ε α' × Stage → Prop} {p : Program ε α}
    {p' : Program ε α'} (hp : Alike P R p p')
    (h : ∀ o o' stage, o.Rel R o' → S (o, stage) (o', stage)) (current : Stage) :
    Alike P S (p.contain current : Program ε' _) (p'.contain current : Program ε' _) := by
  induction hp generalizing current with
  | done ho => exact .done (.value (h _ _ _ ho))
  | ask _ ih => exact .ask fun reply reply' hreply => ih reply reply' hreply current
  | enter _ ih => exact .enter (ih _)

theorem alike_enter (s : Stage) : Alike P Eq (Phase.enter s) (Phase.enter s) :=
  .enter (.done (.value rfl))

theorem Alike.within {p : Session α} {p' : Session α'} (s : Stage) (hp : Alike P R p p') :
    Alike P R (Phase.within s p) (Phase.within s p') :=
  hp.mapError _

theorem alike_request {r : Request} (hr : ¬ P r) : Alike P Eq (request r) (request r) := by
  refine .ask fun reply reply' hreply => ?_
  obtain rfl : reply' = reply := hreply.resolve_right fun h => hr h.1
  cases reply' with
  | value a => exact .done (.value rfl)
  | error e => exact .done (.error e)
  | panic t => exact .done (.panic t)

/-- Whatever is replied to a request that is attempted, panics apart, the program goes on. -/
theorem alike_attempt (r : Request) :
    Alike P (fun _ _ => True) ((request r).attempt : Program ε (Except ProbeError r.Answer))
      ((request r).attempt) := by
  refine .ask fun reply reply' hreply => ?_
  rcases hreply with rfl | ⟨-, hreply, hreply'⟩
  · cases reply' with
    | value a => exact .done (.value trivial)
    | error e => exact .done (.value trivial)
    | panic t => exact .done (.panic t)
  · cases reply with
    | panic t => exact (hreply t rfl).elim
    | _ =>
      cases reply' with
      | panic t => exact (hreply' t rfl).elim
      | _ => exact .done (.value trivial)

/-! ## Programs that ask none of the requests -/

/-- A program that asks none of the requests takes no notice of them. -/
theorem alike_of_path {p : Program ε α}
    (hp : ∀ es o, p.Path es o → ∀ r ∈ Event.requests es, ¬ P r) : Alike P Eq p p := by
  induction p with
  | done o => cases o with
    | value a => exact .done (.value rfl)
    | error e => exact .done (.error e)
    | panic t => exact .done (.panic t)
  | ask r next ih =>
    obtain ⟨hr, hnext⟩ := forall_requests_of_ask hp
    refine .ask fun reply reply' hreply => ?_
    obtain rfl : reply' = reply := hreply.resolve_right fun h => hr h.1
    exact ih reply' (hnext reply')
  | enter s next ih => exact .enter (ih fun es o hpath => hp (.entered s :: es) o (.enter hpath))

/-- A program asks no more than what is planned. -/
theorem Planned.asks {A : Request → Prop} {p : Program ε α}
    (hp : p.Planned fun _ => Step.All A) {es : List Event} {o : Outcome ε α} (h : p.Path es o) :
    ∀ r ∈ Event.requests es, A r := by
  obtain ⟨a, steps, hsteps, hes⟩ := hp.follows h
  exact fun r hr => hsteps r (hes.requests_prefix.subset hr)

theorem Planned.alike {A : Request → Prop} {p : Program ε α}
    (hp : p.Planned fun _ => Step.All A) (hA : ∀ r, A r → ¬ P r) : Alike P Eq p p :=
  alike_of_path fun _ _ hpath r hr => hA r (hp.asks hpath r hr)

end Program

end SellProbe
