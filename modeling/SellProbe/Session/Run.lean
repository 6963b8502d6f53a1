import SellProbe.Session.Program

/-!
# Runs

Playing a program against someone who answers: a responder with a state of its own, or a backend,
which is any function from the requests so far and the next one to a reply. A run of two programs
one after the other is the run of the first, continued by the run of the second. The changes that a
program's error can undergo leave what happens in a run as it is.
-/

namespace SellProbe

/-- Something that happened while a program ran. -/
inductive Event
  | asked (r : Request) (reply : Reply r)
  | entered (s : Stage)

/-- How a program ran: its outcome, what happened, and the state of the responder afterwards. -/
structure Run (ε α σ : Type) where
  outcome : Outcome ε α
  events : List Event
  state : σ

/-- Anything that answers requests: the reply to the next one, and the state after it. -/
abbrev Responder (σ : Type) := σ → (r : Request) → Reply r × σ

/-- A chain as a function from the requests so far and the next one to a reply. -/
abbrev Backend := List Request → (r : Request) → Reply r

def Backend.responder (b : Backend) : Responder (List Request) :=
  fun history r => (b history r, history ++ [r])

namespace Event

def requests (es : List Event) : List Request :=
  es.filterMap fun
    | .asked r _ => some r
    | .entered _ => none

def stages (es : List Event) : List Stage :=
  es.filterMap fun
    | .asked _ _ => none
    | .entered s => some s

@[simp] theorem requests_nil : requests [] = [] := rfl

@[simp] theorem requests_asked (r : Request) (reply : Reply r) (es : List Event) :
    requests (.asked r reply :: es) = r :: requests es := rfl

@[simp] theorem requests_entered (s : Stage) (es : List Event) :
    requests (.entered s :: es) = requests es := rfl

@[simp] theorem stages_nil : stages [] = [] := rfl

@[simp] theorem stages_asked (r : Request) (reply : Reply r) (es : List Event) :
    stages (.asked r reply :: es) = stages es := rfl

@[simp] theorem stages_entered (s : Stage) (es : List Event) :
    stages (.entered s :: es) = s :: stages es := rfl

@[simp] theorem requests_append (es es' : List Event) :
    requests (es ++ es') = requests es ++ requests es' :=
  List.filterMap_append

@[simp] theorem stages_append (es es' : List Event) :
    stages (es ++ es') = stages es ++ stages es' :=
  List.filterMap_append

/-- The last stage entered, or `current` if none was. -/
def lastStage (current : Stage) (es : List Event) : Stage := (stages es).getLast?.getD current

theorem lastStage_asked (current : Stage) (r : Request) (reply : Reply r) (es : List Event) :
    lastStage current (.asked r reply :: es) = lastStage current es := rfl

theorem lastStage_entered (current s : Stage) (es : List Event) :
    lastStage current (.entered s :: es) = lastStage s es := by
  simp [lastStage, stages, List.getLast?_cons]

end Event

namespace Run

variable {ε α β σ : Type}

/-- The run after one more event in front. -/
def after (e : Event) (run : Run ε α σ) : Run ε α σ := { run with events := e :: run.events }

/-- The run continued by another, if it ended with a value. -/
def andThen (run : Run ε α σ) (next : α → σ → Run ε β σ) : Run ε β σ :=
  match run.outcome with
  | .value a =>
    let rest := next a run.state
    { rest with events := run.events ++ rest.events }
  | .error e => ⟨.error e, run.events, run.state⟩
  | .panic t => ⟨.panic t, run.events, run.state⟩

theorem andThen_after (e : Event) (run : Run ε α σ) (next : α → σ → Run ε β σ) :
    (run.after e).andThen next = (run.andThen next).after e := by
  obtain ⟨o, es, s⟩ := run
  cases o <;> rfl

end Run

def Outcome.mapError {ε ε' α : Type} (f : ε → ε') : Outcome ε α → Outcome ε' α
  | .value a => .value a
  | .error e => .error (f e)
  | .panic t => .panic t

def Outcome.attempt {ε ε' α : Type} : Outcome ε α → Outcome ε' (Except ε α)
  | .value a => .value (.ok a)
  | .error e => .value (.error e)
  | .panic t => .panic t

namespace Program

variable {ε ε' α β σ : Type}

def runWith (respond : Responder σ) : Program ε α → σ → Run ε α σ
  | .done o, s => ⟨o, [], s⟩
  | .ask r next, s =>
    let (reply, s') := respond s r
    ((next reply).runWith respond s').after (.asked r reply)
  | .enter stage next, s => (next.runWith respond s).after (.entered stage)

/-- Plays the program against a backend, from the start of its history. -/
def run (b : Backend) (p : Program ε α) : Run ε α (List Request) := p.runWith b.responder []

variable (respond : Responder σ)

theorem runWith_bind (p : Program ε α) (f : α → Program ε β) (s : σ) :
    (p.bind f).runWith respond s =
      (p.runWith respond s).andThen fun a s' => (f a).runWith respond s' := by
  induction p generalizing s with
  | done o => cases o <;> rfl
  | ask r next ih =>
    simp only [Program.bind, runWith, Run.andThen_after, ih]
  | enter stage next ih =>
    simp only [Program.bind, runWith, Run.andThen_after, ih]

theorem runWith_attempt (p : Program ε α) (s : σ) :
    (p.attempt : Program ε' (Except ε α)).runWith respond s =
      ⟨(p.runWith respond s).outcome.attempt, (p.runWith respond s).events,
        (p.runWith respond s).state⟩ := by
  induction p generalizing s with
  | done o => cases o <;> rfl
  | ask r next ih => simp only [attempt, runWith, Run.after, ih]
  | enter stage next ih => simp only [attempt, runWith, Run.after, ih]

theorem runWith_settle (p : Program ε α) (s : σ) :
    (p.settle : Program ε' (Outcome ε α)).runWith respond s =
      ⟨.value (p.runWith respond s).outcome, (p.runWith respond s).events,
        (p.runWith respond s).state⟩ := by
  induction p generalizing s with
  | done o => rfl
  | ask r next ih => simp only [settle, runWith, Run.after, ih]
  | enter stage next ih => simp only [settle, runWith, Run.after, ih]

theorem runWith_contain (current : Stage) (p : Program ε α) (s : σ) :
    (p.contain current : Program ε' (Outcome ε α × Stage)).runWith respond s =
      ⟨.value ((p.runWith respond s).outcome,
          Event.lastStage current (p.runWith respond s).events),
        (p.runWith respond s).events, (p.runWith respond s).state⟩ := by
  induction p generalizing s current with
  | done o => rfl
  | ask r next ih =>
    simp only [contain, runWith, Run.after, ih, Event.lastStage_asked]
  | enter stage next ih =>
    simp only [contain, runWith, Run.after, ih, Event.lastStage_entered]

end Program

end SellProbe
