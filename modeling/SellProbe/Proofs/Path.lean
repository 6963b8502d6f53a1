import SellProbe.Session.Run

/-!
# Paths of a program

A path is one way in which a program can go, whatever the replies: what happens on it, and how it
ends. Every run is a path (`path_runWith`), so what holds of all paths holds against every
responder, and a path of two programs one after the other is cut into a path of each
(`Path.of_bind`). Two lemmas compare runs. Against responders that agree on all that a program can
ask, it runs the same (`runWith_congr`); against backends that agree up to some request, it runs the
same up to the reply to that request (`runWith_fork`).
-/

namespace SellProbe

namespace Event

/-- Events end in the last request among them, with stages behind it. -/
theorem split_last_request {es : List Event} {h : List Request} {r : Request}
    (hes : requests es = h ++ [r]) :
    ∃ before reply behind, es = before ++ .asked r reply :: behind ∧ requests before = h ∧
      requests behind = [] := by
  induction es generalizing h with
  | nil => simp at hes
  | cons e es ih =>
    cases e with
    | entered s =>
      obtain ⟨before, reply, behind, rfl, hb, hn⟩ := ih hes
      exact ⟨.entered s :: before, reply, behind, rfl, hb, hn⟩
    | asked q reply =>
      rw [requests_asked] at hes
      cases h with
      | nil =>
        simp only [List.nil_append, List.cons.injEq] at hes
        obtain ⟨rfl, hn⟩ := hes
        exact ⟨[], reply, es, rfl, rfl, hn⟩
      | cons p h =>
        simp only [List.cons_append, List.cons.injEq] at hes
        obtain ⟨rfl, hes⟩ := hes
        obtain ⟨before, reply', behind, rfl, hb, hn⟩ := ih hes
        exact ⟨.asked q reply :: before, reply', behind, rfl, by rw [requests_asked, hb], hn⟩

end Event

namespace Program

variable {ε ε' α β σ : Type}

/-- One way in which a program can go: what happens on it, and how it ends. -/
inductive Path : Program ε α → List Event → Outcome ε α → Prop
  | done (o : Outcome ε α) : Path (.done o) [] o
  | ask {r : Request} {next : Reply r → Program ε α} {es : List Event} {o : Outcome ε α}
      (reply : Reply r) : Path (next reply) es o → Path (.ask r next) (.asked r reply :: es) o
  | enter {s : Stage} {next : Program ε α} {es : List Event} {o : Outcome ε α} :
      Path next es o → Path (.enter s next) (.entered s :: es) o

theorem path_runWith (respond : Responder σ) (p : Program ε α) (s : σ) :
    p.Path (p.runWith respond s).events (p.runWith respond s).outcome := by
  induction p generalizing s with
  | done o => exact .done o
  | ask r next ih => exact .ask _ (ih _ _)
  | enter stage next ih => exact .enter (ih _)

/-- Every program has a path: the one on which all replies are panics. -/
theorem exists_path (p : Program ε α) : ∃ es o, p.Path es o :=
  ⟨_, _, path_runWith (fun _ _ => (.panic "", ())) p ()⟩

/-- The path of a request that is answered. -/
theorem path_request (r : Request) (a : r.Answer) :
    (request r).Path [.asked r (.value a)] (.value a) :=
  .ask _ (.done _)

/-- A path on which every reply is the one that the backend gives is its run. -/
theorem runWith_of_path {b : Backend} {p : Program ε α} {es : List Event} {o : Outcome ε α}
    (h : p.Path es o) (hes : ∀ r reply, .asked r reply ∈ es → ∀ history, b history r = reply)
    (s : List Request) :
    (p.runWith b.responder s).events = es ∧ (p.runWith b.responder s).outcome = o := by
  induction h generalizing s with
  | done o => exact ⟨rfl, rfl⟩
  | @ask r next es o reply _ ih =>
    have hreply : b s r = reply := hes r reply List.mem_cons_self s
    have hrest := ih (fun r' reply' hmem => hes r' reply' (List.mem_cons_of_mem _ hmem)) (s ++ [r])
    simp only [runWith, Backend.responder, Run.after, hreply]
    exact ⟨congrArg _ hrest.1, hrest.2⟩
  | enter _ ih =>
    have hrest := ih (fun r reply hmem => hes r reply (List.mem_cons_of_mem _ hmem)) s
    exact ⟨congrArg _ hrest.1, hrest.2⟩

/-- What happens decides how a program ends. -/
theorem Path.outcome_unique {p : Program ε α} {es : List Event} {o o' : Outcome ε α}
    (h : p.Path es o) (h' : p.Path es o') : o' = o := by
  induction h with
  | done o =>
    cases h'
    rfl
  | ask reply _ ih =>
    cases h' with
    | ask _ h' => exact ih h'
  | enter _ ih =>
    cases h' with
    | enter h' => exact ih h'

theorem Path.events_of_ofExcept {x : Except ε α} {es : List Event} {o : Outcome ε α}
    (h : (ofExcept x).Path es o) : es = [] := by
  cases x <;> cases h <;> rfl

/-! ## Paths of composed programs -/

/-- A path of two programs is a path of the first that ends with a value and a path of the second,
or a path of the first that ends without one. -/
theorem Path.of_bind {p : Program ε α} {f : α → Program ε β} {es : List Event} {o : Outcome ε β}
    (h : (p >>= f).Path es o) :
    (∃ a es₁ es₂, es = es₁ ++ es₂ ∧ p.Path es₁ (.value a) ∧ (f a).Path es₂ o) ∨
      (∃ e, o = .error e ∧ p.Path es (.error e)) ∨ ∃ t, o = .panic t ∧ p.Path es (.panic t) := by
  rw [bind_eq] at h
  induction p generalizing es with
  | done o' =>
    cases o' with
    | value a => exact .inl ⟨a, [], es, rfl, .done _, h⟩
    | error e =>
      cases h
      exact .inr (.inl ⟨e, rfl, .done _⟩)
    | panic t =>
      cases h
      exact .inr (.inr ⟨t, rfl, .done _⟩)
  | ask r next ih =>
    cases h with
    | ask reply h =>
      rcases ih reply h with ⟨a, es₁, es₂, rfl, h₁, h₂⟩ | ⟨e, rfl, h₁⟩ | ⟨t, rfl, h₁⟩
      · exact .inl ⟨a, _ :: es₁, es₂, rfl, .ask reply h₁, h₂⟩
      · exact .inr (.inl ⟨e, rfl, .ask reply h₁⟩)
      · exact .inr (.inr ⟨t, rfl, .ask reply h₁⟩)
  | enter s next ih =>
    cases h with
    | enter h =>
      rcases ih h with ⟨a, es₁, es₂, rfl, h₁, h₂⟩ | ⟨e, rfl, h₁⟩ | ⟨t, rfl, h₁⟩
      · exact .inl ⟨a, _ :: es₁, es₂, rfl, .enter h₁, h₂⟩
      · exact .inr (.inl ⟨e, rfl, .enter h₁⟩)
      · exact .inr (.inr ⟨t, rfl, .enter h₁⟩)

/-- A path that ends with a value goes through both programs. -/
theorem Path.of_bind_value {p : Program ε α} {f : α → Program ε β} {es : List Event} {b : β}
    (h : (p >>= f).Path es (.value b)) :
    ∃ a es₁ es₂, es = es₁ ++ es₂ ∧ p.Path es₁ (.value a) ∧ (f a).Path es₂ (.value b) := by
  rcases h.of_bind with h | ⟨_, h, -⟩ | ⟨_, h, -⟩
  · exact h
  · cases h
  · cases h

/-- A path of the first program to a value, and then one of the second. -/
theorem Path.bind {p : Program ε α} {f : α → Program ε β} {es es' : List Event} {a : α}
    {o : Outcome ε β} (h : p.Path es (.value a)) (h' : (f a).Path es' o) :
    (p >>= f).Path (es ++ es') o := by
  rw [bind_eq]
  generalize ho : (Outcome.value a : Outcome ε α) = o' at h
  induction h with
  | done o' =>
    subst ho
    exact h'
  | ask reply _ ih => exact .ask reply (ih ho)
  | enter _ ih => exact .enter (ih ho)

/-- What happens behind a path of the first program to a value is a path of the second. -/
theorem Path.behind {p : Program ε α} {f : α → Program ε β} {es es' : List Event} {a : α}
    {o : Outcome ε β} (h : p.Path es (.value a)) (h' : (p >>= f).Path (es ++ es') o) :
    (f a).Path es' o := by
  rw [bind_eq] at h'
  generalize ho : (Outcome.value a : Outcome ε α) = o' at h
  induction h with
  | done o' =>
    subst ho
    exact h'
  | ask reply _ ih =>
    cases h' with
    | ask _ h' => exact ih h' ho
  | enter _ ih =>
    cases h' with
    | enter h' => exact ih h' ho

theorem Path.of_mapError {f : ε → ε'} {p : Program ε α} {es : List Event} {o : Outcome ε' α}
    (h : (p.mapError f).Path es o) : ∃ o', o = o'.mapError f ∧ p.Path es o' := by
  induction p generalizing es with
  | done o' => cases o' <;> cases h <;> exact ⟨_, rfl, .done _⟩
  | ask r next ih =>
    cases h with
    | ask reply h =>
      obtain ⟨o', rfl, h'⟩ := ih reply h
      exact ⟨o', rfl, .ask reply h'⟩
  | enter s next ih =>
    cases h with
    | enter h =>
      obtain ⟨o', rfl, h'⟩ := ih h
      exact ⟨o', rfl, .enter h'⟩

theorem Path.of_mapError_value {f : ε → ε'} {p : Program ε α} {es : List Event} {a : α}
    (h : (p.mapError f).Path es (.value a)) : p.Path es (.value a) := by
  obtain ⟨o, ho, h'⟩ := h.of_mapError
  cases o <;> cases ho
  exact h'

/-! ## Comparing runs -/

/-- What holds of all that a program can ask holds of its first request, and then of all that it can
ask after each reply. -/
theorem forall_requests_of_ask {P : Request → Prop} {r : Request} {next : Reply r → Program ε α}
    (hp : ∀ es o, (ask r next).Path es o → ∀ q ∈ Event.requests es, P q) :
    P r ∧ ∀ reply es o, (next reply).Path es o → ∀ q ∈ Event.requests es, P q := by
  refine ⟨?_, fun reply es o hpath q hq => hp _ _ (.ask reply hpath) q (by simp [hq])⟩
  obtain ⟨es, o, hpath⟩ := exists_path (next (.panic ""))
  exact hp _ _ (.ask _ hpath) r (by simp)

/-- Responders that agree on all that a program can ask are the same to it. -/
theorem runWith_congr {respond respond' : Responder σ} {P : Request → Prop} (p : Program ε α)
    (hp : ∀ es o, p.Path es o → ∀ r ∈ Event.requests es, P r)
    (h : ∀ s r, P r → respond s r = respond' s r) (s : σ) :
    p.runWith respond s = p.runWith respond' s := by
  induction p generalizing s with
  | done o => rfl
  | ask r next ih =>
    obtain ⟨hr, hnext⟩ := forall_requests_of_ask hp
    simp only [runWith, h s r hr, ih _ (hnext _)]
  | enter stage next ih =>
    have hnext : ∀ es o, next.Path es o → ∀ q ∈ Event.requests es, P q :=
      fun es o hpath q hq => hp _ _ (.enter hpath) q hq
    simp only [runWith, ih hnext]

/-- Backends that agree as long as fewer requests have come are the same to a program up to the next
request. -/
theorem runWith_fork {b b' : Backend} (p : Program ε α) {s : List Request} {before : List Event}
    {r : Request} {reply : Reply r} {behind : List Event}
    (hb : ∀ h : List Request, h.length < (s ++ Event.requests before).length → b' h = b h)
    (hp : (p.runWith b.responder s).events = before ++ .asked r reply :: behind) :
    ∃ behind', (p.runWith b'.responder s).events =
      before ++ .asked r (b' (s ++ Event.requests before) r) :: behind' := by
  induction p generalizing s before with
  | done o => simp [runWith] at hp
  | ask q next ih =>
    cases before with
    | nil =>
      simp only [runWith, Run.after, Backend.responder, List.nil_append, List.cons.injEq,
        Event.asked.injEq] at hp
      obtain ⟨⟨rfl, -⟩, -⟩ := hp
      exact ⟨_, by simp only [runWith, Run.after, Backend.responder, List.nil_append,
        Event.requests_nil, List.append_nil]; rfl⟩
    | cons e before =>
      simp only [runWith, Run.after, Backend.responder, List.cons_append, List.cons.injEq] at hp
      obtain ⟨rfl, hp⟩ := hp
      have hs : b' s = b s := hb s (by simp)
      obtain ⟨behind', hrest⟩ := ih _ (s := s ++ [q]) (fun h hh => hb h (by simpa using hh)) hp
      refine ⟨behind', ?_⟩
      simp only [runWith, Run.after, Backend.responder, hs, List.cons_append, List.cons.injEq,
        true_and, Event.requests_asked]
      simpa using hrest
  | enter stage next ih =>
    cases before with
    | nil => simp [runWith, Run.after] at hp
    | cons e before =>
      simp only [runWith, Run.after, List.cons_append, List.cons.injEq] at hp
      obtain ⟨rfl, hp⟩ := hp
      rw [Event.requests_entered] at hb ⊢
      obtain ⟨behind', hrest⟩ := ih hb hp
      exact ⟨behind', by simp only [runWith, Run.after, hrest, List.cons_append]⟩

end Program

end SellProbe
