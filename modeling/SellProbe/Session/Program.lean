import SellProbe.Probe.Stage
import SellProbe.Session.Request

/-!
# Programs

What the probe does, as a tree: it asks one request after another, each of which may depend on the
replies so far, notes the stages that it enters, and ends in an outcome. The tree says nothing about
who answers. One program goes on with another where it ends with a value; an error or a panic ends
both.
-/

namespace SellProbe

/-- A program that asks requests and ends in an outcome. -/
inductive Program (ε α : Type) : Type
  | done (o : Outcome ε α)
  | ask (r : Request) (next : Reply r → Program ε α)
  | enter (s : Stage) (next : Program ε α)

namespace Program

variable {ε ε' α β : Type}

protected def pure (a : α) : Program ε α := .done (.value a)

/-- Goes on after a value; an error or a panic ends the program. -/
protected def bind : Program ε α → (α → Program ε β) → Program ε β
  | .done (.value a), f => f a
  | .done (.error e), _ => .done (.error e)
  | .done (.panic t), _ => .done (.panic t)
  | .ask r next, f => .ask r fun reply => (next reply).bind f
  | .enter s next, f => .enter s (next.bind f)

instance : Monad (Program ε) where
  pure := Program.pure
  bind := Program.bind

theorem pure_eq (a : α) : (pure a : Program ε α) = .done (.value a) := rfl

theorem bind_eq (p : Program ε α) (f : α → Program ε β) : p >>= f = p.bind f := rfl

protected theorem bind_pure (p : Program ε α) : p.bind Program.pure = p := by
  induction p with
  | done o => cases o <;> rfl
  | ask r next ih => exact congrArg (ask r) (funext ih)
  | enter s next ih => exact congrArg (enter s) ih

protected theorem bind_assoc {γ : Type} (p : Program ε α) (f : α → Program ε β)
    (g : β → Program ε γ) : (p.bind f).bind g = p.bind fun a => (f a).bind g := by
  induction p with
  | done o => cases o <;> rfl
  | ask r next ih => exact congrArg (ask r) (funext ih)
  | enter s next ih => exact congrArg (enter s) ih

instance : LawfulMonad (Program ε) :=
  LawfulMonad.mk' _ Program.bind_pure (fun _ _ => rfl) Program.bind_assoc

def fail (e : ε) : Program ε α := .done (.error e)

def panic (text : String) : Program ε α := .done (.panic text)

def request (r : Request) : Program ProbeError r.Answer := .ask r .done

def ofExcept : Except ε α → Program ε α
  | .ok a => .done (.value a)
  | .error e => .done (.error e)

def orPanic (text : String) : Option α → Program ε α
  | some a => .done (.value a)
  | none => .done (.panic text)

def mapError (f : ε → ε') : Program ε α → Program ε' α
  | .done (.value a) => .done (.value a)
  | .done (.error e) => .done (.error (f e))
  | .done (.panic t) => .done (.panic t)
  | .ask r next => .ask r fun reply => (next reply).mapError f
  | .enter s next => .enter s (next.mapError f)

/-- The same program with its error as a value. A panic stays a panic. -/
def attempt : Program ε α → Program ε' (Except ε α)
  | .done (.value a) => .done (.value (.ok a))
  | .done (.error e) => .done (.value (.error e))
  | .done (.panic t) => .done (.panic t)
  | .ask r next => .ask r fun reply => (next reply).attempt
  | .enter s next => .enter s next.attempt

/-- The same program with its whole outcome as a value. -/
def settle : Program ε α → Program ε' (Outcome ε α)
  | .done o => .done (.value o)
  | .ask r next => .ask r fun reply => (next reply).settle
  | .enter s next => .enter s next.settle

/-- The same program with its whole outcome as a value, together with the last stage that it has
entered, which is `current` until it enters one. -/
def contain (current : Stage) : Program ε α → Program ε' (Outcome ε α × Stage)
  | .done o => .done (.value (o, current))
  | .ask r next => .ask r fun reply => (next reply).contain current
  | .enter s next => .enter s (next.contain s)

end Program

abbrev Session := Program ProbeError

end SellProbe
