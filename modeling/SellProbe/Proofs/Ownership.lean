import SellProbe.Proofs.Reading

/-!
# Who gives a sandbox of one's own back

A probe of an address makes a sandbox, resolves the token in it, and then hands it to the run, which
gives it back. A panic is contained during the stages of the run only. So the sandbox is given back
whatever any other request is replied, but a panic while the token is resolved, or when the sentinel
is locked, leaves with the sandbox still there (`probeToken_releases_or_panics`).
-/

namespace SellProbe

namespace Program

variable {ε ε' α β σ : Type} {P : Request → Prop}

/-! ## Programs without a panic of their own -/

/-- The program asks for nothing but `P`, and only a panic of the other side makes it panic. -/
def AsksOnly (P : Request → Prop) : Program ε α → Prop
  | .done (.value _) => True
  | .done (.error _) => True
  | .done (.panic _) => False
  | .ask r next =>
    P r ∧ (∀ t, next (.panic t) = .done (.panic t)) ∧
      ∀ reply, (∀ t, reply ≠ .panic t) → (next reply).AsksOnly P
  | .enter _ next => next.AsksOnly P

/-- A reply either panics or lets the program go on as one of the same kind. -/
theorem AsksOnly.reply_cases {r : Request} {next : Reply r → Program ε α}
    (hp : (Program.ask r next).AsksOnly P) (reply : Reply r) :
    (∃ t, reply = .panic t ∧ next reply = .done (.panic t)) ∨ (next reply).AsksOnly P := by
  cases reply with
  | value a => exact .inr (hp.2.2 _ (by rintro t ⟨⟩))
  | error e => exact .inr (hp.2.2 _ (by rintro t ⟨⟩))
  | panic t => exact .inl ⟨t, rfl, hp.2.1 t⟩

theorem AsksOnly.mem {p : Program ε α} (hp : p.AsksOnly P) {es : List Event} {o : Outcome ε α}
    (h : p.Path es o) : ∀ r ∈ Event.requests es, P r := by
  induction h with
  | done o => simp
  | @ask r next es o reply hpath ih =>
    intro q hq
    rcases List.mem_cons.1 hq with rfl | hq
    · exact hp.1
    · rcases hp.reply_cases reply with ⟨t, -, hnext⟩ | hnext
      · rw [hnext] at hpath
        cases hpath
        cases hq
      · exact ih hnext q hq
  | enter _ ih => exact ih hp

/-- What ends in a panic ends with a request that was replied with that panic. -/
theorem AsksOnly.ends_at_panic {p : Program ε α} (hp : p.AsksOnly P) {es : List Event} {t : String}
    (h : p.Path es (.panic t)) : ∃ before r, es = before ++ [Event.asked r (.panic t)] ∧ P r := by
  generalize ho : (Outcome.panic t : Outcome ε α) = o at h
  induction h with
  | done o =>
    subst ho
    exact hp.elim
  | @ask r next es o reply hpath ih =>
    rcases hp.reply_cases reply with ⟨t', rfl, hnext⟩ | hnext
    · rw [hnext] at hpath
      cases hpath
      cases ho
      exact ⟨[], r, rfl, hp.1⟩
    · obtain ⟨before, q, rfl, hq⟩ := ih hnext ho
      exact ⟨_ :: before, q, rfl, hq⟩
  | enter _ ih =>
    obtain ⟨before, q, rfl, hq⟩ := ih hp ho
    exact ⟨_ :: before, q, rfl, hq⟩

theorem asksOnly_request {r : Request} (hr : P r) : (request r).AsksOnly P := by
  refine ⟨hr, fun _ => rfl, fun reply hreply => ?_⟩
  cases reply with
  | value a => trivial
  | error e => trivial
  | panic t => exact hreply t rfl

theorem asksOnly_ofExcept (x : Except ε α) : (ofExcept x).AsksOnly P := by
  cases x <;> trivial

theorem AsksOnly.bind {p : Program ε α} {f : α → Program ε β} (hp : p.AsksOnly P)
    (hf : ∀ a, (f a).AsksOnly P) : (p >>= f).AsksOnly P := by
  rw [bind_eq]
  induction p with
  | done o =>
    cases o with
    | value a => exact hf a
    | error e => trivial
    | panic t => exact hp.elim
  | ask r next ih =>
    obtain ⟨hr, hpanic, hnext⟩ := hp
    exact ⟨hr, fun t => congrArg (Program.bind · f) (hpanic t),
      fun reply hreply => ih reply (hnext reply hreply)⟩
  | enter s next ih => exact ih hp

theorem AsksOnly.attempt {p : Program ε α} (hp : p.AsksOnly P) :
    (p.attempt : Program ε' (Except ε α)).AsksOnly P := by
  induction p with
  | done o =>
    cases o with
    | value a => trivial
    | error e => trivial
    | panic t => exact hp.elim
  | ask r next ih =>
    obtain ⟨hr, hpanic, hnext⟩ := hp
    exact ⟨hr, fun t => congrArg Program.attempt (hpanic t),
      fun reply hreply => ih reply (hnext reply hreply)⟩
  | enter s next ih => exact ih hp

theorem asksOnly_query {read : Bytes → Option α} {tx : Transaction} (htx : P (.call tx)) :
    (Contract.query read tx).AsksOnly P := by
  refine (asksOnly_request htx).bind fun data => ?_
  cases Abi.decode read data <;> trivial

theorem Path.of_attempt {p : Program ε α} {es : List Event} {o : Outcome ε' (Except ε α)}
    (h : p.attempt.Path es o) : ∃ o', o = o'.attempt ∧ p.Path es o' := by
  induction p generalizing es with
  | done o' => cases o' <;> cases h <;> exact ⟨_, rfl, .done _⟩
  | ask r next ih =>
    cases h with
    | ask reply h =>
      obtain ⟨o', rfl, h'⟩ := ih reply h
      exact ⟨o', rfl, .ask reply h'⟩
  | enter s next ih =>
    cases h with
    | enter h =>
      obtain ⟨o', rfl, h'⟩ := ih h
      exact ⟨o', rfl, .enter h'⟩

/-! ## Replies in a run -/

/-- Every reply in a run is one of the backend. -/
theorem exists_history_of_mem {b : Backend} {p : Program ε α} {s : List Request} {r : Request}
    {reply : Reply r} (h : .asked r reply ∈ (p.runWith b.responder s).events) :
    ∃ history, reply = b history r := by
  induction p generalizing s with
  | done o => cases h
  | ask q next ih =>
    rcases List.mem_cons.1 h with h | h
    · cases h
      exact ⟨s, rfl⟩
    · exact ih _ h
  | enter stage next ih =>
    rcases List.mem_cons.1 h with h | h
    · cases h
    · exact ih h

end Program

namespace Erc20

open Program

def resolution (token : Address) : List Request :=
  [.call (Contents.decimals token), .call (Contents.symbol token), .call (Contents.name token)]

theorem asksOnly_textOf {P : Request → Prop} {tx : Transaction} (htx : P (.call tx)) :
    (textOf tx).AsksOnly P := by
  unfold textOf
  refine (asksOnly_request htx).attempt.bind fun x => ?_
  cases x <;> trivial

theorem asksOnly_resolve (token : Address) : (resolve token).AsksOnly (· ∈ resolution token) := by
  unfold resolve decimals
  refine AsksOnly.bind (AsksOnly.bind ?_ fun w => asksOnly_ofExcept _) fun _ => ?_
  · exact asksOnly_query (by simp [resolution, decimalsCall_eq])
  refine (asksOnly_textOf (by simp [resolution, symbolCall_eq])).bind fun symbol => ?_
  exact (asksOnly_textOf (by simp [resolution, nameCall_eq])).bind fun name => trivial

end Erc20

namespace Probe

open Program

variable (protocol : Protocol) (box : Sandbox) (profile : Profile) (config : Config)
  (address : Address)

def probeInside : Session Verdict := do
  match ← (Erc20.resolve address).attempt with
  | .error e => do
    destroy
    return (Failure.ofError .prepare e).verdict
  | .ok token => run protocol box profile config token

theorem probeToken_eq :
    probeToken protocol box profile config address =
      .ask (.createSandbox profile.name) fun
        | .value _ => probeInside protocol box profile config address
        | .error e => .done (.error (.unavailable e.message))
        | .panic t => .done (.panic t) := by
  unfold probeToken
  rw [bind_eq, request, attempt, Program.bind]
  congr 1
  funext reply
  cases reply <;> rfl

/-- The requests of a probe of an address that a panic is not contained at: those that resolve the
token, and the lock of the sentinel. -/
def unguarded : List Request := Erc20.resolution address ++ [Request.lock box.sentinel]

theorem destroy_notMem_resolution {es : List Event} {o : Outcome ε (Except ProbeError Token)}
    (h : (Erc20.resolve address).attempt.Path es o) : Request.destroy ∉ Event.requests es := by
  intro hmem
  have hresolution := (Erc20.asksOnly_resolve address).attempt.mem h _ hmem
  simp [Erc20.resolution] at hresolution

/-- Inside, a sandbox is given back with the last request, unless a panic came before it that is not
contained. -/
theorem path_of_probeInside {es : List Event} {o : Outcome ProbeError Verdict}
    (h : (probeInside protocol box profile config address).Path es o)
    (hes : ∀ t, .asked .destroy (.panic t) ∉ es) :
    ((∃ v, o = .value v) ∧ ∃ w, Event.requests es = w ++ [Request.destroy] ∧ Request.destroy ∉ w) ∨
      ∃ before r t, es = before ++ [Event.asked r (.panic t)] ∧ r ∈ unguarded box address ∧
        o = .panic t ∧ Request.destroy ∉ Event.requests es := by
  unfold probeInside at h
  rcases h.of_bind with ⟨resolved, es₁, es₂, rfl, hresolve, hinside⟩ | ⟨e, -, hresolve⟩ |
    ⟨t, rfl, hresolve⟩
  · have hnot := destroy_notMem_resolution address hresolve
    cases resolved with
    | error e =>
      rcases hinside.of_bind with ⟨_, es₃, es₄, rfl, hdestroy, hdone⟩ | ⟨e, rfl, hdestroy⟩ |
        ⟨t, rfl, hdestroy⟩
      · obtain ⟨reply, rfl, -⟩ := path_of_destroy hdestroy
        cases hdone
        exact .inl ⟨⟨_, rfl⟩, Event.requests es₁, by simp, hnot⟩
      · obtain ⟨reply, -, ho | ⟨t, ho, -⟩⟩ := path_of_destroy hdestroy <;> cases ho
      · obtain ⟨reply, rfl, ho | ⟨t', -, rfl⟩⟩ := path_of_destroy hdestroy
        · cases ho
        · exact (hes t' (by simp)).elim
    | ok token =>
      obtain ⟨work, rest, o', rfl, hwork, hend⟩ := exists_work_of_run hinside
      have hnotWork : Request.destroy ∉ Event.requests work := by
        intro hmem
        cases (stages_keeps box profile config token protocol).isWork hwork _ hmem
      rcases hend with ⟨stage, rfl, hrest⟩ | ⟨t, rfl, rfl⟩ | ⟨t, reply, rfl, rfl⟩
      · refine .inl ⟨⟨_, rfl⟩,
          Event.requests es₁ ++ Event.requests work ++ [Request.lock box.sentinel], ?_, ?_⟩
        · rw [Event.requests_append, Event.requests_append, hrest]
          simp
        · simp [hnot, hnotWork]
      · refine .inr ⟨es₁ ++ work, .lock box.sentinel, t, by simp, by simp [unguarded], rfl, ?_⟩
        simp [hnot, hnotWork]
      · exact (hes t (by simp)).elim
  · obtain ⟨o', ho, -⟩ := hresolve.of_attempt
    cases o' <;> cases ho
  · have hnot := destroy_notMem_resolution address hresolve
    obtain ⟨before, r, rfl, hr⟩ := (Erc20.asksOnly_resolve address).attempt.ends_at_panic hresolve
    exact .inr ⟨before, r, t, rfl, List.mem_append_left _ hr, rfl, hnot⟩

/-- **A sandbox of one's own is given back, unless a panic comes where none is contained.** Without
a sandbox the probe ends with the error that none is available, and nothing else is asked. With one,
as long as destroying does not itself panic, either the probe returns a verdict and destroys the
sandbox once, with its last request, or a panic in reply to a request that resolves the token, or to
the lock of the sentinel, has ended it with the sandbox still there. -/
theorem probeToken_releases_or_panics {b : Backend} (hb : ∀ h t, b h .destroy ≠ .panic t) :
    let probe := probeToken protocol box profile config address
    (∀ e, b [] (.createSandbox profile.name) = .error e →
      (probe.run b).outcome = .error (.unavailable e.message) ∧
      Event.requests (probe.run b).events = [.createSandbox profile.name]) ∧
    (b [] (.createSandbox profile.name) = .value () →
      ((∃ v, (probe.run b).outcome = .value v) ∧
        ∃ w, Event.requests (probe.run b).events = w ++ [Request.destroy] ∧ Request.destroy ∉ w) ∨
      ∃ before r t, (probe.run b).events = before ++ [Event.asked r (.panic t)] ∧
        r ∈ unguarded box address ∧ (probe.run b).outcome = .panic t ∧
        Request.destroy ∉ Event.requests (probe.run b).events) := by
  intro probe
  have hprobe : probe = _ := probeToken_eq protocol box profile config address
  refine ⟨fun e he => ?_, fun hcreated => ?_⟩
  · rw [hprobe, Program.run, runWith, Backend.responder, he]
    exact ⟨rfl, rfl⟩
  · have hrun : probe.run b = ((probeInside protocol box profile config address).runWith b.responder
        [.createSandbox profile.name]).after
          (.asked (.createSandbox profile.name) (.value ())) := by
      rw [hprobe, Program.run, runWith, Backend.responder, hcreated]
      rfl
    rw [hrun]
    have hpath := path_runWith b.responder (probeInside protocol box profile config address)
      [.createSandbox profile.name]
    have hes : ∀ t, .asked .destroy (.panic t) ∉
        ((probeInside protocol box profile config address).runWith b.responder
          [.createSandbox profile.name]).events := by
      intro t hmem
      obtain ⟨history, hreply⟩ := exists_history_of_mem hmem
      exact hb history t hreply.symm
    rcases path_of_probeInside _ _ _ _ _ hpath hes with ⟨hv, w, hw, hnot⟩ |
      ⟨before, r, t, hevents, hr, ho, hnot⟩
    · refine .inl ⟨hv, .createSandbox profile.name :: w, ?_, by simp [hnot]⟩
      rw [Run.after, Event.requests_asked, hw]
      rfl
    · refine .inr ⟨.asked (.createSandbox profile.name) (.value ()) :: before, r, t, ?_, hr, ho,
        by simp [Run.after, hnot]⟩
      rw [Run.after, hevents]
      rfl

/-- A probe of an address that nothing fails for: it gives its sandbox back. -/
theorem probeToken_releases_or_panics_sample :
    let b := failingAt fun _ => false
    let probe := probeToken .publicRouter sampleBox sampleProfile {} sampleToken.address
    (∀ h t, b h .destroy ≠ .panic t) ∧ b [] (.createSandbox sampleProfile.name) = .value () ∧
    (∃ v, (probe.run b).outcome = .value v) ∧
    ∃ w, Event.requests (probe.run b).events = w ++ [Request.destroy] ∧ Request.destroy ∉ w := by
  intro b probe
  have hb : ∀ h t, b h .destroy ≠ .panic t := fun h t => failingAt_ne_panic _ h _ t
  have hcreated : b [] (.createSandbox sampleProfile.name) = .value () := rfl
  refine ⟨hb, hcreated, ?_⟩
  rcases (probeToken_releases_or_panics .publicRouter sampleBox sampleProfile {} sampleToken.address
    hb).2 hcreated with hreleased | ⟨before, r, t, hevents, -⟩
  · exact hreleased
  · have hmem : .asked r (.panic t) ∈ (probe.runWith b.responder []).events := by
      rw [← Program.run, hevents]
      simp
    obtain ⟨history, hreply⟩ := exists_history_of_mem hmem
    exact (failingAt_ne_panic _ history r t hreply.symm).elim

/-- A backend that makes a sandbox and panics when it is called. -/
def panickingBackend : Backend := fun _ r =>
  match r with
  | .call _ => .panic ""
  | .createSandbox _ | .destroy => .value ()
  | _ => .error .closed

/-- A panic at the first reading of the token leaves with the sandbox still there. -/
theorem exists_leaked_sandbox :
    ¬ ∀ (protocol : Protocol) (box : Sandbox) (profile : Profile) (config : Config)
        (address : Address) (b : Backend), (∀ h t, b h .destroy ≠ .panic t) →
      let probe := probeToken protocol box profile config address
      b [] (.createSandbox profile.name) = .value () →
        (∃ v, (probe.run b).outcome = .value v) ∧
          ∃ w, Event.requests (probe.run b).events = w ++ [Request.destroy] ∧
            Request.destroy ∉ w := by
  intro hclaim
  have hb : ∀ h t, panickingBackend h .destroy ≠ .panic t := by simp [panickingBackend]
  obtain ⟨-, w, hw, -⟩ := hclaim .publicRouter sampleBox sampleProfile {} sampleToken.address
    panickingBackend hb rfl
  have hasked : Event.requests ((probeToken .publicRouter sampleBox sampleProfile {}
      sampleToken.address).run panickingBackend).events =
      [.createSandbox sampleProfile.name, .call (Contents.decimals sampleToken.address)] := by
    rw [← Erc20.decimalsCall_eq]
    rfl
  have hdestroy : Request.destroy ∈ Event.requests ((probeToken .publicRouter sampleBox
      sampleProfile {} sampleToken.address).run panickingBackend).events := by
    rw [hw]
    simp
  rw [hasked] at hdestroy
  simp at hdestroy

end Probe

end SellProbe
