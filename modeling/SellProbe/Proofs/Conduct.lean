import SellProbe.Probe.Run
import SellProbe.Proofs.Path

/-!
# How a probe conducts itself

Whatever a probe does before it gives its sandbox back follows four rules: it asks neither for a
sandbox nor for the end of one, it goes into the stages of its protocol only, a panic of the other
side ends it at once, and so does an error, unless it is in reply to a request whose errors are
tolerated. A conduct says which stages and which requests these are, and `Keeps` is a property of
the program, not of a run: it follows the program's text, and every path of the program obeys it.
-/

namespace SellProbe

/-- Whether a request belongs to the work in a sandbox, and not to its making or its end. -/
def Request.isWork : Request → Bool
  | .lock _ | .createSandbox _ | .destroy => false
  | _ => true

/-- The stages that a program may go into, and the requests whose errors need not end it. -/
structure Conduct where
  enters : Stage → Prop
  tolerates : Request → Prop

namespace Program

variable {ε ε' α β : Type} {c : Conduct}

/-- The program asks for nothing but work, goes into the stages of a conduct only, and ends with a
panic of the other side or with an error that is not tolerated. -/
def Keeps (c : Conduct) : Program ε α → Prop
  | .done _ => True
  | .ask r next =>
    r.isWork = true ∧ (∀ t, next (.panic t) = .done (.panic t)) ∧
      (c.tolerates r ∨ ∀ e, ∃ e', next (.error e) = .done (.error e')) ∧
      ∀ reply, (next reply).Keeps c
  | .enter s next => c.enters s ∧ next.Keeps c

/-! ## What a conduct means on a path -/

theorem Keeps.isWork {p : Program ε α} (hk : p.Keeps c) {es : List Event} {o : Outcome ε α}
    (h : p.Path es o) : ∀ r ∈ Event.requests es, r.isWork = true := by
  induction h with
  | done o => simp
  | ask reply _ ih =>
    intro r hr
    rcases List.mem_cons.1 hr with rfl | hr
    · exact hk.1
    · exact ih (hk.2.2.2 reply) r hr
  | enter _ ih => exact ih hk.2

theorem Keeps.enters {p : Program ε α} (hk : p.Keeps c) {es : List Event} {o : Outcome ε α}
    (h : p.Path es o) : ∀ s ∈ Event.stages es, c.enters s := by
  induction h with
  | done o => simp
  | ask reply _ ih => exact ih (hk.2.2.2 reply)
  | enter _ ih =>
    intro s hs
    rcases List.mem_cons.1 hs with rfl | hs
    · exact hk.1
    · exact ih hk.2 s hs

/-- Nothing comes after a panic of the other side. -/
theorem Keeps.ends_at_panic {p : Program ε α} (hk : p.Keeps c) {before behind : List Event}
    {r : Request} {t : String} {o : Outcome ε α}
    (h : p.Path (before ++ .asked r (.panic t) :: behind) o) : behind = [] ∧ o = .panic t := by
  induction before generalizing p with
  | nil =>
    cases h with
    | ask reply h =>
      rw [hk.2.1 t] at h
      cases h
      exact ⟨rfl, rfl⟩
  | cons e before ih =>
    cases h with
    | ask reply h => exact ih (hk.2.2.2 reply) h
    | enter h => exact ih hk.2 h

/-- Nothing comes after an error that is not tolerated. -/
theorem Keeps.ends_at_error {p : Program ε α} (hk : p.Keeps c) {before behind : List Event}
    {r : Request} {e : ProbeError} {o : Outcome ε α} (hr : ¬ c.tolerates r)
    (h : p.Path (before ++ .asked r (.error e) :: behind) o) :
    behind = [] ∧ ∃ e', o = .error e' := by
  induction before generalizing p with
  | nil =>
    cases h with
    | ask reply h =>
      obtain ⟨e', he⟩ := hk.2.2.1.resolve_left hr e
      rw [he] at h
      cases h
      exact ⟨rfl, e', rfl⟩
  | cons e before ih =>
    cases h with
    | ask reply h => exact ih (hk.2.2.2 reply) h
    | enter h => exact ih hk.2 h

/-- On a path to a value every request has been answered, unless its errors are tolerated. -/
theorem Keeps.answered {p : Program ε α} (hk : p.Keeps c) {es : List Event} {a : α}
    (h : p.Path es (.value a)) {r : Request} {reply : Reply r} (hr : ¬ c.tolerates r)
    (he : Event.asked r reply ∈ es) : ∃ x, reply = .value x := by
  obtain ⟨before, behind, rfl⟩ := List.append_of_mem he
  cases reply with
  | value x => exact ⟨x, rfl⟩
  | error e =>
    obtain ⟨-, e', ho⟩ := hk.ends_at_error hr h
    cases ho
  | panic t =>
    obtain ⟨-, ho⟩ := hk.ends_at_panic h
    cases ho

/-! ## Programs made of others -/

theorem keeps_done (o : Outcome ε α) : (.done o : Program ε α).Keeps c := trivial

theorem keeps_pure (a : α) : (pure a : Program ε α).Keeps c := trivial

theorem keeps_fail (e : ε) : (fail e : Program ε α).Keeps c := trivial

theorem keeps_ofExcept (x : Except ε α) : (ofExcept x).Keeps c := by
  cases x <;> exact keeps_done _

theorem keeps_orPanic (text : String) (x : Option α) : (orPanic text x : Program ε α).Keeps c := by
  cases x <;> exact keeps_done _

theorem keeps_request {r : Request} (hr : r.isWork = true) : (request r).Keeps c :=
  ⟨hr, fun _ => rfl, .inr fun e => ⟨e, rfl⟩, fun _ => trivial⟩

/-- An error that is caught has to be tolerated. -/
theorem keeps_attempt_request {r : Request} (hr : r.isWork = true) (ht : c.tolerates r) :
    ((request r).attempt : Program ε (Except ProbeError r.Answer)).Keeps c :=
  ⟨hr, fun _ => rfl, .inl ht, fun reply => by cases reply <;> exact trivial⟩

theorem Keeps.bind {p : Program ε α} {f : α → Program ε β} (hp : p.Keeps c)
    (hf : ∀ a, (f a).Keeps c) : (p >>= f).Keeps c := by
  rw [bind_eq]
  induction p with
  | done o => cases o <;> first | exact hf _ | exact keeps_done _
  | ask r next ih =>
    obtain ⟨hr, hpanic, herror, hnext⟩ := hp
    refine ⟨hr, fun t => congrArg (Program.bind · f) (hpanic t), herror.imp_right fun h e => ?_,
      fun reply => ih reply (hnext reply)⟩
    obtain ⟨e', he⟩ := h e
    exact ⟨e', congrArg (Program.bind · f) he⟩
  | enter s next ih => exact ⟨hp.1, ih hp.2⟩

theorem Keeps.mapError {p : Program ε α} (f : ε → ε') (hp : p.Keeps c) :
    (p.mapError f).Keeps c := by
  induction p with
  | done o => cases o <;> exact keeps_done _
  | ask r next ih =>
    obtain ⟨hr, hpanic, herror, hnext⟩ := hp
    refine ⟨hr, fun t => congrArg (Program.mapError f) (hpanic t),
      herror.imp_right fun h e => ?_, fun reply => ih reply (hnext reply)⟩
    obtain ⟨e', he⟩ := h e
    exact ⟨f e', congrArg (Program.mapError f) he⟩
  | enter s next ih => exact ⟨hp.1, ih hp.2⟩

end Program

end SellProbe
