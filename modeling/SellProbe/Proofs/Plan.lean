import Mathlib.Data.List.Forall2
import SellProbe.Proofs.Reading

/-!
# Plans

A plan lists the steps that a program means to take, in order: the stages that it goes into, and the
requests that it asks, each with the replies that it goes on after. What really happens follows the
plan and may break off at any step (`Follows`). A program is planned by a relation between values
and plans if every path of it follows a plan for some value, and a path to a value takes all the
steps of a plan for that value (`Program.Planned`); the lemmas go along the text of the program,
like those on how a probe conducts itself.
-/

namespace SellProbe

def Request.isChange : Request → Bool
  | .mine _ | .setStorage _ _ _ | .unlock _ | .send _ => true
  | _ => false

instance (n : Nat) : Nonempty (FixedBytes n) := ⟨FixedBytes.zero n⟩

instance (r : Request) : Nonempty r.Answer := by
  cases r with
  | send tx => exact ⟨Receipt.blank⟩
  | trace h => exact ⟨ExecutionTrace.blank⟩
  | storage a slot => exact ⟨FixedBytes.zero 32⟩
  | call tx => exact ⟨([] : Bytes)⟩
  | code a => exact ⟨([] : Bytes)⟩
  | balance a => exact ⟨(0 : Word)⟩
  | gasPrice => exact ⟨(0 : Word)⟩
  | _ => exact ⟨()⟩

def Event.changes (es : List Event) : List Request := (Event.requests es).filter Request.isChange

theorem Event.changes_append (es es' : List Event) :
    Event.changes (es ++ es') = Event.changes es ++ Event.changes es' := by
  rw [changes, requests_append, List.filter_append]
  rfl

/-- A step of a plan: to go into a stage, or to ask a request and go on after some replies. -/
inductive Step
  | enter (s : Stage)
  | ask (r : Request) (goesOn : Reply r → Prop)

namespace Step

def gives (r : Request) (p : r.Answer → Prop) : Step :=
  .ask r fun reply => ∃ a, reply = .value a ∧ p a

/-- A request that has to be answered. -/
def does (r : Request) : Step := gives r fun _ => True

def reads {α : Type} (read : Bytes → Option α) (tx : Transaction) (a : α) : Step :=
  gives (.call tx) fun data => Abi.decode read data = .ok a

/-- A request that may be refused. -/
def tries (r : Request) : Step := .ask r fun reply => ∀ t, reply ≠ .panic t

inductive Matches : Step → Event → Prop
  | enter (s : Stage) : Matches (.enter s) (.entered s)
  | ask {r : Request} {goesOn : Reply r → Prop} {reply : Reply r} :
      goesOn reply → Matches (.ask r goesOn) (.asked r reply)

def requests (steps : List Step) : List Request :=
  steps.filterMap fun
    | .ask r _ => some r
    | .enter _ => none

def changes (steps : List Step) : List Request := (requests steps).filter Request.isChange

theorem changes_enter (s : Stage) (steps : List Step) :
    changes (.enter s :: steps) = changes steps := rfl

theorem changes_append (steps steps' : List Step) :
    changes (steps ++ steps') = changes steps ++ changes steps' := by
  simp [changes, requests, List.filterMap_append]

def All (p : Request → Prop) (steps : List Step) : Prop := ∀ r ∈ requests steps, p r

variable {p : Request → Prop}

theorem all_nil : All p [] := by
  rintro r ⟨⟩

theorem All.enter {s : Stage} {steps : List Step} (h : All p steps) : All p (.enter s :: steps) := h

theorem All.ask {r : Request} {goesOn : Reply r → Prop} {steps : List Step} (hr : p r)
    (h : All p steps) : All p (.ask r goesOn :: steps) :=
  List.forall_mem_cons.2 ⟨hr, h⟩

theorem all_append {steps steps' : List Step} :
    All p (steps ++ steps') ↔ All p steps ∧ All p steps' := by
  simp only [All, requests, List.filterMap_append, List.forall_mem_append]

end Step

theorem Step.requests_eq {es : List Event} {steps : List Step}
    (h : List.Forall₂ Step.Matches steps es) : Event.requests es = Step.requests steps := by
  induction h with
  | nil => rfl
  | cons hmatch _ ih =>
    cases hmatch with
    | enter s => exact ih
    | @ask r goesOn reply hreply => exact congrArg (r :: ·) ih

/-- What happens takes the steps of a plan one after another. It may break off before any step, or
with whatever a request is replied. -/
inductive Follows : List Event → List Step → Prop
  | stop (steps : List Step) : Follows [] steps
  | last {r : Request} {goesOn : Reply r → Prop} (reply : Reply r) (steps : List Step) :
      Follows [.asked r reply] (.ask r goesOn :: steps)
  | cons {s : Step} {e : Event} {es : List Event} {steps : List Step} :
      s.Matches e → Follows es steps → Follows (e :: es) (s :: steps)

namespace Follows

variable {es es' : List Event} {steps steps' : List Step}

theorem append_right (h : Follows es steps) (steps' : List Step) :
    Follows es (steps ++ steps') := by
  induction h with
  | stop steps => exact .stop _
  | last reply steps => exact .last _ _
  | cons hmatch _ ih => exact .cons hmatch ih

/-- After all the steps of one plan come the steps of the next. -/
theorem append_left (h : List.Forall₂ Step.Matches steps es) (h' : Follows es' steps') :
    Follows (es ++ es') (steps ++ steps') := by
  induction h with
  | nil => exact h'
  | cons hmatch _ ih => exact .cons hmatch ih

/-- What is asked is the beginning of what is planned. -/
theorem requests_prefix (h : Follows es steps) : Event.requests es <+: Step.requests steps := by
  induction h with
  | stop steps => exact List.nil_prefix
  | last reply steps => exact (List.prefix_cons_inj _).2 List.nil_prefix
  | cons hmatch _ ih =>
    cases hmatch with
    | enter s => exact ih
    | ask hreply => exact (List.prefix_cons_inj _).2 ih

theorem changes_prefix (h : Follows es steps) : Event.changes es <+: Step.changes steps :=
  h.requests_prefix.filter _

end Follows

namespace Program

variable {ε ε' α β : Type} {Q : α → List Step → Prop}

/-- What a program does is laid down by plans for its values: it follows a plan for some value, and
when it ends with a value it has taken all the steps of a plan for that value. -/
structure Planned (p : Program ε α) (Q : α → List Step → Prop) : Prop where
  follows : ∀ {es o}, p.Path es o → ∃ a steps, Q a steps ∧ Follows es steps
  completes : ∀ {es a}, p.Path es (.value a) →
    ∃ steps, Q a steps ∧ List.Forall₂ Step.Matches steps es

theorem planned_pure {a : α} (h : Q a []) : (pure a : Program ε α).Planned Q where
  follows := by
    rintro es o ⟨⟩
    exact ⟨a, [], h, .stop _⟩
  completes := by
    rintro es _ ⟨⟩
    exact ⟨[], h, .nil⟩

/-- Where a program fails, any value will do for the plan. -/
theorem planned_fail {e : ε} (a : α) (h : Q a []) : (fail e).Planned Q where
  follows := by
    rintro es o ⟨⟩
    exact ⟨a, [], h, .stop _⟩
  completes := by rintro es _ ⟨⟩

theorem Planned.mono {p : Program ε α} {Q' : α → List Step → Prop} (hp : p.Planned Q)
    (h : ∀ a steps, Q a steps → Q' a steps) : p.Planned Q' where
  follows := by
    intro es o hpath
    obtain ⟨a, steps, ha, hes⟩ := hp.follows hpath
    exact ⟨a, steps, h a steps ha, hes⟩
  completes := by
    intro es a hpath
    obtain ⟨steps, ha, hes⟩ := hp.completes hpath
    exact ⟨steps, h a steps ha, hes⟩

/-- The plan of two programs is a plan of the first, and then one of the second. -/
theorem Planned.bind {p : Program ε α} {f : α → Program ε β} {R : β → List Step → Prop}
    (hp : p.Planned Q)
    (hf : ∀ a steps, Q a steps → (f a).Planned fun b steps' => R b (steps ++ steps')) :
    (p >>= f).Planned R where
  follows := by
    have hbroken : ∀ es a steps, Q a steps → Follows es steps →
        ∃ b steps', R b steps' ∧ Follows es steps' := by
      intro es a steps ha hes
      obtain ⟨es', o', hpath⟩ := exists_path (f a)
      obtain ⟨b, steps', hb, -⟩ := (hf a steps ha).follows hpath
      exact ⟨b, steps ++ steps', hb, hes.append_right steps'⟩
    intro es o h
    rcases h.of_bind with ⟨a, es₁, es₂, rfl, h₁, h₂⟩ | ⟨e, -, h₁⟩ | ⟨t, -, h₁⟩
    · obtain ⟨steps, ha, hes₁⟩ := hp.completes h₁
      obtain ⟨b, steps', hb, hes₂⟩ := (hf a steps ha).follows h₂
      exact ⟨b, steps ++ steps', hb, .append_left hes₁ hes₂⟩
    · obtain ⟨a, steps, ha, hes⟩ := hp.follows h₁
      exact hbroken es a steps ha hes
    · obtain ⟨a, steps, ha, hes⟩ := hp.follows h₁
      exact hbroken es a steps ha hes
  completes := by
    intro es b h
    obtain ⟨a, es₁, es₂, rfl, h₁, h₂⟩ := h.of_bind_value
    obtain ⟨steps, ha, hes₁⟩ := hp.completes h₁
    obtain ⟨steps', hb, hes₂⟩ := (hf a steps ha).completes h₂
    exact ⟨steps ++ steps', hb, List.rel_append hes₁ hes₂⟩

/-- After a program with one plan for each value. -/
theorem Planned.andThen {p : Program ε α} {f : α → Program ε β} {plan : α → List Step}
    {R : β → List Step → Prop} (hp : p.Planned fun a steps => steps = plan a)
    (hf : ∀ a, (f a).Planned fun b steps => R b (plan a ++ steps)) : (p >>= f).Planned R := by
  refine hp.bind ?_
  rintro a _ rfl
  exact hf a

theorem Planned.mapError {p : Program ε α} (f : ε → ε') (hp : p.Planned Q) :
    (p.mapError f).Planned Q where
  follows := by
    intro es o h
    obtain ⟨o', -, h'⟩ := h.of_mapError
    exact hp.follows h'
  completes h := hp.completes h.of_mapError_value

/-- One request, after some replies to which the program ends with a value. -/
theorem planned_ask [Nonempty α] {r : Request} {next : Reply r → Program ε α}
    (goesOn : α → Reply r → Prop)
    (h : ∀ reply, (∃ a, next reply = pure a ∧ goesOn a reply) ∨
      ∃ o, next reply = .done o ∧ ∀ a, o ≠ .value a) :
    (Program.ask r next).Planned fun a steps => steps = [.ask r (goesOn a)] where
  follows := by
    intro es o hpath
    cases hpath with
    | ask reply hpath =>
      rcases h reply with ⟨a, hnext, hreply⟩ | ⟨o', hnext, -⟩
      · rw [hnext] at hpath
        cases hpath
        exact ⟨a, _, rfl, .last _ _⟩
      · rw [hnext] at hpath
        cases hpath
        exact ⟨Classical.arbitrary α, _, rfl, .last _ _⟩
  completes := by
    intro es a hpath
    cases hpath with
    | ask reply hpath =>
      rcases h reply with ⟨a', hnext, hreply⟩ | ⟨o', hnext, ho⟩
      · rw [hnext] at hpath
        cases hpath
        exact ⟨_, rfl, .cons (.ask hreply) .nil⟩
      · rw [hnext] at hpath
        cases hpath
        exact (ho a rfl).elim

/-- One request, whose answer is read as a value or makes no sense. -/
theorem planned_reading [Nonempty α] {r : Request} {f : r.Answer → Session α}
    (good : α → r.Answer → Prop)
    (h : ∀ x, (∃ a, f x = pure a ∧ good a x) ∨ ∃ e, f x = fail e) :
    (request r >>= f).Planned fun a steps => steps = [.gives r (good a)] := by
  refine planned_ask (fun a reply => ∃ x, reply = .value x ∧ good a x) fun reply => ?_
  cases reply with
  | value x =>
    rcases h x with ⟨a, hx, hgood⟩ | ⟨e, hx⟩
    · exact .inl ⟨a, hx, x, rfl, hgood⟩
    · exact .inr ⟨.error e, hx, by simp⟩
  | error e => exact .inr ⟨.error e, rfl, by simp⟩
  | panic t => exact .inr ⟨.panic t, rfl, by simp⟩

theorem planned_answer (r : Request) :
    (request r).Planned fun a steps => steps = [.gives r (· = a)] := by
  rw [← bind_pure (request r)]
  exact planned_reading (fun a x => x = a) fun x => .inl ⟨x, rfl, rfl⟩

theorem planned_request (r : Request) : (request r).Planned fun _ steps => steps = [.does r] := by
  rw [← bind_pure (request r)]
  exact planned_reading (fun _ _ => True) fun x => .inl ⟨x, rfl, trivial⟩

/-- A computation that asks nothing, with the value that a plan may take for it. -/
theorem planned_ofExcept (x : Except ε α) (default : α) :
    (ofExcept x).Planned fun a steps => a = x.toOption.getD default ∧ steps = [] := by
  cases x with
  | ok a => exact planned_pure ⟨rfl, rfl⟩
  | error e => exact planned_fail default ⟨rfl, rfl⟩

theorem planned_orPanic (text : String) (x : Option α) (default : α) :
    (orPanic text x : Program ε α).Planned fun a steps => a = x.getD default ∧ steps = [] := by
  cases x with
  | some a => exact planned_pure ⟨rfl, rfl⟩
  | none =>
    constructor
    · rintro es o ⟨⟩
      exact ⟨default, [], ⟨rfl, rfl⟩, .stop _⟩
    · rintro es _ ⟨⟩

/-! ## Phases and contracts -/

theorem planned_enter (s : Stage) :
    (Phase.enter s).Planned fun _ steps => steps = [.enter s] where
  follows := by
    intro es o h
    obtain rfl := h.of_enter
    exact ⟨(), _, rfl, .cons (.enter s) (.stop _)⟩
  completes := by
    intro es a h
    obtain rfl := h.of_enter
    exact ⟨_, rfl, .cons (.enter s) .nil⟩

theorem Planned.within {work : Session α} (s : Stage) (h : work.Planned Q) :
    (Phase.within s work).Planned Q :=
  h.mapError _

theorem planned_send (tx : Transaction) :
    (Contract.send tx).Planned fun _ steps => steps = [.does (.send tx)] :=
  planned_request _

theorem planned_query [Nonempty α] (read : Bytes → Option α) (tx : Transaction) :
    (Contract.query read tx).Planned fun a steps => steps = [.reads read tx a] := by
  refine planned_reading (r := .call tx) (fun a data => Abi.decode read data = .ok a) fun data => ?_
  cases hdata : Abi.decode read data with
  | ok a => exact .inl ⟨a, rfl, rfl⟩
  | error e => exact .inr ⟨.abi e.message, rfl⟩

end Program

end SellProbe
