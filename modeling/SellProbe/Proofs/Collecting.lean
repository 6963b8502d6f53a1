import Mathlib.Data.List.Forall2
import SellProbe.Session.Run

/-!
# Results one after the other

Computations that may fail, done one after the other: all have a result, or the first that has none
decides. An outcome is such a result, with an error or a panic where it has no value, and
`Outcome.Gathers` says that one outcome is made of the values of others.
-/

namespace SellProbe

variable {ε α β : Type} {f : α → Except ε β} {xs : List α} {ys : List β} {e : ε}

theorem bind_eq_ok_iff {x : Except ε α} {y : β} :
    x >>= f = .ok y ↔ ∃ a, x = .ok a ∧ f a = .ok y := by
  cases x with
  | error e => exact ⟨fun h => (by cases h), fun ⟨_, h, _⟩ => (by cases h)⟩
  | ok a => exact ⟨fun h => ⟨a, rfl, h⟩, fun ⟨_, ha, h⟩ => Except.ok.inj ha ▸ h⟩

theorem bind_eq_error_iff {x : Except ε α} :
    x >>= f = .error e ↔ x = .error e ∨ ∃ a, x = .ok a ∧ f a = .error e := by
  cases x with
  | error e' =>
    constructor
    · exact fun h => .inl (congrArg _ (Except.error.inj h))
    · rintro (h | ⟨a, ha, -⟩)
      · exact congrArg _ (Except.error.inj h)
      · cases ha
  | ok a =>
    constructor
    · exact fun h => .inr ⟨a, rfl, h⟩
    · rintro (h | ⟨_, ha, h⟩)
      · cases h
      · cases ha
        exact h

theorem mapM_eq_ok_iff :
    xs.mapM f = .ok ys ↔ List.Forall₂ (fun x y => f x = .ok y) xs ys := by
  induction xs generalizing ys with
  | nil =>
    rw [List.forall₂_nil_left_iff]
    exact ⟨fun h => (Except.ok.inj h).symm, fun h => congrArg Except.ok h.symm⟩
  | cons x xs ih =>
    simp only [List.mapM_cons, List.forall₂_cons_left_iff, bind_eq_ok_iff, ih]
    constructor
    · rintro ⟨y, hy, ys, hys, h⟩
      exact ⟨y, ys, hy, hys, (Except.ok.inj h).symm⟩
    · rintro ⟨y, ys, hy, hys, rfl⟩
      exact ⟨y, hy, ys, hys, rfl⟩

theorem exists_mapM_eq_ok_iff : (∃ ys, xs.mapM f = .ok ys) ↔ ∀ x ∈ xs, ∃ y, f x = .ok y := by
  induction xs with
  | nil => exact ⟨fun _ => List.forall_mem_nil _, fun _ => ⟨[], rfl⟩⟩
  | cons x xs ih =>
    simp only [List.mapM_cons, List.forall_mem_cons, bind_eq_ok_iff, ← ih]
    constructor
    · rintro ⟨-, y, hy, ys, hys, -⟩
      exact ⟨⟨y, hy⟩, ys, hys⟩
    · rintro ⟨⟨y, hy⟩, ys, hys⟩
      exact ⟨y :: ys, y, hy, ys, hys, rfl⟩

theorem mapM_eq_error_iff :
    xs.mapM f = .error e ↔ ∃ good bad rest, xs = good ++ bad :: rest ∧
      (∀ x ∈ good, ∃ y, f x = .ok y) ∧ f bad = .error e := by
  induction xs with
  | nil =>
    constructor
    · intro h
      cases h
    · rintro ⟨good, bad, rest, h, -⟩
      simp at h
  | cons x xs ih =>
    have hpure : ∀ zs : List β, ¬ (pure zs : Except ε (List β)) = .error e := by
      intro zs h
      cases h
    simp only [List.mapM_cons, bind_eq_error_iff, hpure, and_false, exists_false, or_false, ih]
    constructor
    · rintro (hx | ⟨y, hy, good, bad, rest, rfl, hgood, hbad⟩)
      · exact ⟨[], x, xs, rfl, List.forall_mem_nil _, hx⟩
      · exact ⟨x :: good, bad, rest, rfl, List.forall_mem_cons.2 ⟨⟨y, hy⟩, hgood⟩, hbad⟩
    · rintro ⟨good, bad, rest, hsplit, hgood, hbad⟩
      cases good with
      | nil =>
        obtain ⟨rfl, -⟩ := List.cons.inj hsplit
        exact .inl hbad
      | cons x' good =>
        obtain ⟨rfl, hrest⟩ := List.cons.inj hsplit
        obtain ⟨⟨y, hy⟩, hgood⟩ := List.forall_mem_cons.1 hgood
        exact .inr ⟨y, hy, good, bad, rest, hrest, hgood, hbad⟩

/-! ## Outcomes as results -/

/-- The value of an outcome, or the error or the panic that came instead. -/
def Outcome.toExcept : Outcome ε α → Except (ε ⊕ String) α
  | .value a => .ok a
  | .error e => .error (.inl e)
  | .panic t => .error (.inr t)

section

variable {o : Outcome ε α}

theorem Outcome.toExcept_eq_ok_iff {a : α} : o.toExcept = .ok a ↔ o = .value a := by
  cases o <;> simp [toExcept]

theorem Outcome.toExcept_eq_error_iff {e : ε} :
    o.toExcept = .error (.inl e) ↔ o = .error e := by
  cases o <;> simp [toExcept]

theorem Outcome.toExcept_eq_panic_iff {t : String} :
    o.toExcept = .error (.inr t) ↔ o = .panic t := by
  cases o <;> simp [toExcept]

end

theorem Program.toExcept_outcome_bind {σ : Type} (respond : Responder σ) (p : Program ε α)
    (f : α → Program ε β) (s : σ) :
    ((p >>= f).runWith respond s).outcome.toExcept = (do
      let a ← (p.runWith respond s).outcome.toExcept
      ((f a).runWith respond (p.runWith respond s).state).outcome.toExcept) := by
  rw [bind_eq, runWith_bind, Run.andThen]
  cases (p.runWith respond s).outcome <;> rfl

theorem mapM_toExcept_eq_ok_iff {os : List (Outcome ε α)} :
    os.mapM Outcome.toExcept = .ok xs ↔ os = xs.map .value := by
  simp only [mapM_eq_ok_iff, Outcome.toExcept_eq_ok_iff]
  rw [← List.forall₂_map_right_iff, List.forall₂_eq_eq_eq]

/-- An outcome is made of the values of others, or it is the first of these that has none. -/
structure Outcome.Gathers (make : List α → β) (os : List (Outcome ε α)) (o : Outcome ε β) :
    Prop where
  toExcept_eq : o.toExcept = (do
    let xs ← os.mapM Outcome.toExcept
    return make xs)

namespace Outcome.Gathers

variable {make : List α → β} {os : List (Outcome ε α)} {o : Outcome ε β}

theorem exists_value_iff (h : Gathers make os o) :
    (∃ b, o = .value b) ↔ ∀ x ∈ os, ∃ a, x = .value a := by
  simp only [← toExcept_eq_ok_iff, ← exists_mapM_eq_ok_iff, h.toExcept_eq, bind_eq_ok_iff]
  constructor
  · rintro ⟨b, xs, hxs, -⟩
    exact ⟨xs, hxs⟩
  · rintro ⟨xs, hxs⟩
    exact ⟨_, xs, hxs, rfl⟩

theorem eq_value_iff (h : Gathers make os o) {b : β} :
    o = .value b ↔ ∃ xs : List α, os = xs.map .value ∧ make xs = b := by
  rw [← toExcept_eq_ok_iff, h.toExcept_eq, bind_eq_ok_iff]
  simp only [mapM_toExcept_eq_ok_iff, pure, Except.pure, Except.ok.injEq]

/-- The first outcome without a value decides. -/
theorem toExcept_eq_error_iff (h : Gathers make os o) {failure : ε ⊕ String} :
    o.toExcept = .error failure ↔
      ∃ before behind x, x.toExcept = .error failure ∧ os = before ++ x :: behind ∧
        ∀ x ∈ before, ∃ a, x = .value a := by
  rw [h.toExcept_eq, bind_eq_error_iff, mapM_eq_error_iff]
  simp only [pure, Except.pure, reduceCtorEq, and_false, exists_false, or_false,
    Outcome.toExcept_eq_ok_iff]
  constructor
  · rintro ⟨before, x, behind, hos, hbefore, hfails⟩
    exact ⟨before, behind, x, hfails, hos, hbefore⟩
  · rintro ⟨before, behind, x, hfails, hos, hbefore⟩
    exact ⟨before, x, behind, hos, hbefore, hfails⟩

theorem eq_error_iff (h : Gathers make os o) {e : ε} :
    o = .error e ↔ ∃ before behind, os = before ++ .error e :: behind ∧
      ∀ x ∈ before, ∃ a, x = .value a := by
  rw [← Outcome.toExcept_eq_error_iff, h.toExcept_eq_error_iff]
  simp only [Outcome.toExcept_eq_error_iff, exists_eq_left]

theorem eq_panic_iff (h : Gathers make os o) {t : String} :
    o = .panic t ↔ ∃ before behind, os = before ++ .panic t :: behind ∧
      ∀ x ∈ before, ∃ a, x = .value a := by
  rw [← Outcome.toExcept_eq_panic_iff, h.toExcept_eq_error_iff]
  simp only [Outcome.toExcept_eq_panic_iff, exists_eq_left]

end Outcome.Gathers

end SellProbe
