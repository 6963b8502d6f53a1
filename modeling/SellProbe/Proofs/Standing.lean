import SellProbe.Proofs.Conduct

/-!
# Where a program stands

An error names the stage that it is a failure of, and for a panic the last stage entered is taken.
The two agree if a program never goes back to an earlier stage, and if every error names the stage
in which something was asked last. Both depend on where the program stands, so `Accounts` is a
weakest precondition: from a given standing every entry goes forward, every error names the stage
that the program is at work in, and a postcondition holds of every value and the standing it comes
in.
-/

namespace SellProbe

/-- Where a program stands: in no stage yet, in a stage in which it has asked nothing yet, or at
work in a stage. -/
inductive Standing
  | outside
  | opening (s : Stage)
  | working (s : Stage)

namespace Standing

def stage? : Standing → Option Stage
  | outside => none
  | opening s | working s => some s

def asked : Standing → Standing
  | outside => outside
  | opening s | working s => working s

def isBefore (t : Standing) (s : Stage) : Prop := ∀ s' ∈ t.stage?, s'.index < s.index

def step (t : Standing) : Event → Standing
  | .asked _ _ => t.asked
  | .entered s => opening s

def after (t : Standing) (es : List Event) : Standing := es.foldl step t

@[simp] theorem stage?_asked (t : Standing) : t.asked.stage? = t.stage? := by
  cases t <;> rfl

@[simp] theorem isBefore_asked {t : Standing} {s : Stage} : t.asked.isBefore s ↔ t.isBefore s := by
  rw [isBefore, stage?_asked, isBefore]

@[simp] theorem isBefore_outside (s : Stage) : outside.isBefore s := by
  rintro s' ⟨⟩

@[simp] theorem isBefore_opening {s s' : Stage} : (opening s).isBefore s' ↔ s.index < s'.index := by
  simp [isBefore, stage?]

@[simp] theorem isBefore_working {s s' : Stage} : (working s).isBefore s' ↔ s.index < s'.index := by
  simp [isBefore, stage?]

/-- The program is in the stage that it has entered last. -/
theorem stage?_after (t : Standing) (es : List Event) :
    (t.after es).stage? = (Event.stages es).getLast?.or t.stage? := by
  induction es generalizing t with
  | nil => rfl
  | cons e es ih =>
    have hstep : (t.after (e :: es)).stage? = _ := ih (t.step e)
    rw [hstep]
    cases e with
    | asked r reply => rw [step, stage?_asked, Event.stages_asked]
    | entered s =>
      rw [Event.stages_entered, List.getLast?_cons]
      cases (Event.stages es).getLast? <;> rfl

/-- After entries only, a program that is at work has been so from the start. -/
theorem eq_nil_of_after_eq_working {t : Standing} {es : List Event} {s : Stage}
    (hes : Event.requests es = []) (h : t.after es = working s) : es = [] := by
  rcases List.eq_nil_or_concat es with rfl | ⟨es, e, rfl⟩
  · rfl
  · cases e with
    | asked r reply => simp at hes
    | entered s' =>
      rw [after, List.concat_eq_append, List.foldl_append] at h
      cases h

end Standing

namespace Program

variable {α β : Type}

/-- From a standing, every entry goes forward, every error is one of the session, labelled with the
stage that the program is at work in, a panic comes while it is at work, and `Q` holds of every
value and its standing. -/
def Accounts (t : Standing) (Q : α → Standing → Prop) : Program Failure α → Prop
  | .done (.value a) => Q a t
  | .done (.error f) => t = .working f.stage ∧ ∃ e, f.reason = .ofError e
  | .done (.panic _) => ∃ s, t = .working s
  | .ask _ next => ∀ reply, (next reply).Accounts t.asked Q
  | .enter s next => t.isBefore s ∧ next.Accounts (.opening s) Q

variable {t : Standing} {s : Stage}

/-! ## What this means on a path -/

theorem Accounts.value {Q : α → Standing → Prop} {p : Program Failure α} (hp : p.Accounts t Q)
    {es : List Event} {a : α} (h : p.Path es (.value a)) : Q a (t.after es) := by
  generalize ho : (Outcome.value a : Outcome Failure α) = o at h
  induction h generalizing t with
  | done o =>
    subst ho
    exact hp
  | ask reply _ ih => exact ih (hp reply) ho
  | enter _ ih => exact ih hp.2 ho

/-- An error names the stage that the program is at work in, and tells what the session tells. -/
theorem Accounts.failure {Q : α → Standing → Prop} {p : Program Failure α} (hp : p.Accounts t Q)
    {es : List Event} {f : Failure} (h : p.Path es (.error f)) :
    t.after es = .working f.stage ∧ ∃ e, f.reason = .ofError e := by
  generalize ho : (Outcome.error f : Outcome Failure α) = o at h
  induction h generalizing t with
  | done o =>
    subst ho
    exact hp
  | ask reply _ ih => exact ih (hp reply) ho
  | enter _ ih => exact ih hp.2 ho

theorem Accounts.error {Q : α → Standing → Prop} {p : Program Failure α} (hp : p.Accounts t Q)
    {es : List Event} {f : Failure} (h : p.Path es (.error f)) : t.after es = .working f.stage :=
  (hp.failure h).1

theorem Accounts.panic {Q : α → Standing → Prop} {p : Program Failure α} (hp : p.Accounts t Q)
    {es : List Event} {text : String} (h : p.Path es (.panic text)) :
    ∃ s, t.after es = .working s := by
  generalize ho : (Outcome.panic text : Outcome Failure α) = o at h
  induction h generalizing t with
  | done o =>
    subst ho
    exact hp
  | ask reply _ ih => exact ih (hp reply) ho
  | enter _ ih => exact ih hp.2 ho

/-- The stages entered lie ahead of the start, each ahead of the one before. -/
theorem Accounts.stages_increasing {Q : α → Standing → Prop} {p : Program Failure α}
    (hp : p.Accounts t Q) {es : List Event} {o : Outcome Failure α} (h : p.Path es o) :
    (Event.stages es).Pairwise (·.index < ·.index) ∧ ∀ s ∈ Event.stages es, t.isBefore s := by
  induction h generalizing t with
  | done o => simp
  | ask reply _ ih =>
    have := ih (hp reply)
    simpa using this
  | @enter s _ _ _ _ ih =>
    obtain ⟨hsorted, hahead⟩ := ih hp.2
    simp only [Standing.isBefore_opening] at hahead
    rw [Event.stages_entered]
    refine ⟨List.pairwise_cons.2 ⟨hahead, hsorted⟩, fun s' hs' => ?_⟩
    rcases List.mem_cons.1 hs' with rfl | hs'
    · exact hp.1
    · exact fun u hu => Nat.lt_trans (hp.1 u hu) (hahead s' hs')

/-! ## Programs made of others -/

/-- The first program ends in a standing from which the second accounts for itself. -/
theorem Accounts.bind {Q : β → Standing → Prop} {p : Program Failure α}
    {f : α → Program Failure β} (h : p.Accounts t fun a t' => (f a).Accounts t' Q) :
    (p >>= f).Accounts t Q := by
  rw [bind_eq]
  induction p generalizing t with
  | done o => cases o <;> exact h
  | ask r next ih => exact fun reply => ih reply (h reply)
  | enter s next ih => exact ⟨h.1, ih h.2⟩

theorem accounts_enter {Q : Unit → Standing → Prop} (hs : t.isBefore s) (hQ : Q () (.opening s)) :
    (Phase.enter s).Accounts t Q :=
  ⟨hs, hQ⟩

def silent : Conduct where
  enters _ := False
  tolerates _ := True

/-- Work in a stage that the program is at work in already. -/
theorem accounts_within {Q : α → Standing → Prop} {work : Session α} (hw : work.Keeps silent)
    (hQ : ∀ a, Q a (.working s)) : (Phase.within s work).Accounts (.working s) Q := by
  unfold Phase.within
  induction work with
  | done o =>
    cases o with
    | value a => exact hQ a
    | error e => exact ⟨rfl, e, rfl⟩
    | panic text => exact ⟨s, rfl⟩
  | ask r next ih => exact fun reply => ih reply (hw.2.2.2 reply)
  | enter s next ih => exact hw.1.elim

/-- The first work in a stage, which has to begin with a request. -/
theorem accounts_begin {Q : α → Standing → Prop} {work : Session α}
    (hfirst : ∃ r next, work = .ask r next) (hw : work.Keeps silent)
    (hQ : ∀ a, Q a (.working s)) : (Phase.within s work).Accounts (.opening s) Q := by
  obtain ⟨r, next, rfl⟩ := hfirst
  exact fun reply => accounts_within (hw.2.2.2 reply) hQ

end Program

end SellProbe
