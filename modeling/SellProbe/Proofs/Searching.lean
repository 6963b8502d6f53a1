import Mathlib.Data.List.Infix
import SellProbe.Text.Search

/-!
# What a search finds

The first place where one of several patterns stands cuts a text into a part in which none starts,
not even to run over its end, and a part that begins with one (`fromFirst?_eq_some_iff`). Whether a
pattern can run over the seam of two texts is a matter of the ends of the first one that agree with
it (`overlaps`), so it can be settled for all texts that follow.
-/

open scoped List

namespace SellProbe.Text

variable {patterns : List (List Char)} {before behind cs tail : List Char}

def IsFree (patterns : List (List Char)) (cs : List Char) : Prop := ∀ p ∈ patterns, ¬ p <:+: cs

/-- None of the patterns starts within the first of two texts, not even to run over its end. -/
def IsClear (patterns : List (List Char)) (before behind : List Char) : Prop :=
  ∀ s, s <:+ before → s ≠ [] → ∀ p ∈ patterns, ¬ p <+: s ++ behind

/-! ## The first place -/

theorem any_isPrefixOf_iff : patterns.any (·.isPrefixOf cs) = true ↔ ∃ p ∈ patterns, p <+: cs := by
  simp only [List.any_eq_true, List.isPrefixOf_iff_prefix]

theorem isClear_nil : IsClear patterns [] behind := by
  intro s hs hne
  exact absurd (List.suffix_nil.1 hs) hne

theorem isClear_cons {c : Char} :
    IsClear patterns (c :: cs) behind ↔
      (∀ p ∈ patterns, ¬ p <+: c :: (cs ++ behind)) ∧ IsClear patterns cs behind := by
  constructor
  · intro h
    exact ⟨h _ (List.suffix_refl _) (List.cons_ne_nil _ _),
      fun s hs => h s (hs.trans (List.suffix_cons _ _))⟩
  · rintro ⟨hfirst, hrest⟩ s hs
    rcases List.suffix_cons_iff.1 hs with rfl | hs
    · exact fun _ => hfirst
    · exact hrest s hs

theorem fromFirst?_of_begins {p : List Char} (hp : p ∈ patterns) (h : p <+: cs) :
    fromFirst? patterns cs = some cs := by
  have hany : patterns.any (·.isPrefixOf cs) = true := any_isPrefixOf_iff.2 ⟨p, hp, h⟩
  cases cs <;> rw [fromFirst?, if_pos hany]

theorem fromFirst?_cons_of_not_begins {c : Char} (h : ∀ p ∈ patterns, ¬ p <+: c :: cs) :
    fromFirst? patterns (c :: cs) = fromFirst? patterns cs := by
  rw [fromFirst?, if_neg]
  rw [any_isPrefixOf_iff]
  rintro ⟨p, hp, hbegins⟩
  exact h p hp hbegins

/-- A search passes over what is clear. -/
theorem fromFirst?_append (h : IsClear patterns before behind) :
    fromFirst? patterns (before ++ behind) = fromFirst? patterns behind := by
  induction before with
  | nil => rfl
  | cons c cs ih =>
    obtain ⟨hfirst, hrest⟩ := isClear_cons.1 h
    rw [List.cons_append, fromFirst?_cons_of_not_begins hfirst, ih hrest]

/-- A search finds a pattern with nothing but a clear text before it. -/
theorem fromFirst?_eq_some_iff :
    fromFirst? patterns cs = some tail ↔
      ∃ before, cs = before ++ tail ∧ IsClear patterns before tail ∧
        ∃ p ∈ patterns, p <+: tail := by
  constructor
  · intro h
    induction cs with
    | nil =>
      rw [fromFirst?] at h
      split at h
      next hany =>
        cases h
        exact ⟨[], rfl, isClear_nil, any_isPrefixOf_iff.1 hany⟩
      next => cases h
    | cons c cs ih =>
      by_cases hstarts : ∃ p ∈ patterns, p <+: c :: cs
      · obtain ⟨p, hp, hbegins⟩ := hstarts
        rw [fromFirst?_of_begins hp hbegins] at h
        cases h
        exact ⟨[], rfl, isClear_nil, p, hp, hbegins⟩
      · have hfirst : ∀ p ∈ patterns, ¬ p <+: c :: cs := fun p hp hbegins =>
          hstarts ⟨p, hp, hbegins⟩
        rw [fromFirst?_cons_of_not_begins hfirst] at h
        obtain ⟨before, rfl, hclear, htail⟩ := ih h
        exact ⟨c :: before, rfl, isClear_cons.2 ⟨hfirst, hclear⟩, htail⟩
  · rintro ⟨before, rfl, hclear, p, hp, hbegins⟩
    rw [fromFirst?_append hclear, fromFirst?_of_begins hp hbegins]

theorem fromFirst?_eq_none_iff : fromFirst? patterns cs = none ↔ IsFree patterns cs := by
  induction cs with
  | nil =>
    simp only [fromFirst?, ite_eq_right_iff, any_isPrefixOf_iff, List.prefix_nil, reduceCtorEq,
      imp_false, IsFree, List.infix_nil, not_exists, not_and]
  | cons c cs ih =>
    by_cases hstarts : ∃ p ∈ patterns, p <+: c :: cs
    · obtain ⟨p, hp, hbegins⟩ := hstarts
      rw [fromFirst?_of_begins hp hbegins]
      exact iff_of_false nofun fun h => h p hp hbegins.isInfix
    · have hfirst : ∀ p ∈ patterns, ¬ p <+: c :: cs := fun p hp hbegins =>
        hstarts ⟨p, hp, hbegins⟩
      rw [fromFirst?_cons_of_not_begins hfirst, ih]
      refine forall₂_congr fun p hp => ?_
      rw [List.infix_cons_iff, or_iff_right (hfirst p hp)]

theorem occurs_eq_true_iff {pattern : List Char} : occurs pattern cs = true ↔ pattern <:+: cs := by
  rw [occurs, Option.isSome_iff_ne_none, ne_eq, fromFirst?_eq_none_iff]
  simp [IsFree]

/-! ## Over the seam of two texts -/

/-- Whether some end of the text, not the empty one, agrees with the pattern as far as both
reach. -/
def overlaps (pattern : List Char) : List Char → Bool
  | [] => false
  | c :: cs => pattern.isPrefixOf (c :: cs) || (c :: cs).isPrefixOf pattern || overlaps pattern cs

theorem overlaps_eq_true_iff {pattern : List Char} :
    overlaps pattern cs = true ↔
      ∃ s, s <:+ cs ∧ s ≠ [] ∧ (pattern <+: s ∨ s <+: pattern) := by
  induction cs with
  | nil =>
    refine iff_of_false nofun ?_
    rintro ⟨s, hs, hne, -⟩
    exact hne (List.suffix_nil.1 hs)
  | cons c cs ih =>
    rw [overlaps, Bool.or_eq_true, Bool.or_eq_true, List.isPrefixOf_iff_prefix,
      List.isPrefixOf_iff_prefix, ih]
    constructor
    · rintro (h | ⟨s, hs, h⟩)
      · exact ⟨c :: cs, List.suffix_refl _, List.cons_ne_nil _ _, h⟩
      · exact ⟨s, hs.trans (List.suffix_cons _ _), h⟩
    · rintro ⟨s, hs, h⟩
      rcases List.suffix_cons_iff.1 hs with rfl | hs
      · exact .inl h.2
      · exact .inr ⟨s, hs, h⟩

/-- A text whose ends agree with no pattern is clear, whatever follows. -/
theorem isClear_of_overlaps (h : ∀ p ∈ patterns, overlaps p before = false)
    (behind : List Char) : IsClear patterns before behind := by
  intro s hs hne p hp hbegins
  have hagree : p <+: s ∨ s <+: p :=
    List.prefix_or_prefix_of_prefix hbegins (List.prefix_append _ _)
  have hoverlaps : overlaps p before = true := overlaps_eq_true_iff.2 ⟨s, hs, hne, hagree⟩
  rw [h p hp] at hoverlaps
  cases hoverlaps

/-- A pattern that stands in no end of another one cannot be run into. -/
theorem IsFree.isClear {p : List Char} (h : IsFree patterns before)
    (hp : ∀ q ∈ patterns, overlaps p q.tail = false) (hbehind : p <+: behind) :
    IsClear patterns before behind := by
  intro s hs hne q hq hbegins
  have hfree : ¬ q <+: s := fun hqs => h q hq (hqs.isInfix.trans hs.isInfix)
  obtain ⟨rest, rfl⟩ : s <+: q :=
    (List.prefix_or_prefix_of_prefix hbegins (List.prefix_append _ _)).resolve_left hfree
  -- what is left of the pattern behind the seam begins what follows, and so does the other one
  have hagree : p <+: rest ∨ rest <+: p :=
    List.prefix_or_prefix_of_prefix hbehind ((List.prefix_append_right_inj s).1 hbegins)
  have hrest : rest ≠ [] := by
    rintro rfl
    exact hfree (by rw [List.append_nil])
  have hsuffix : rest <:+ (s ++ rest).tail := by
    rw [List.tail_append_of_ne_nil hne]
    exact List.suffix_append _ _
  have hoverlaps : overlaps p (s ++ rest).tail = true :=
    overlaps_eq_true_iff.2 ⟨rest, hsuffix, hrest, hagree⟩
  rw [hp _ hq] at hoverlaps
  cases hoverlaps

theorem IsClear.isFree (h : IsClear patterns before behind) (hne : ∀ p ∈ patterns, p ≠ []) :
    IsFree patterns before := by
  rintro p hp ⟨x, y, rfl⟩
  refine h (p ++ y) ⟨x, by rw [List.append_assoc]⟩ ?_ p hp ?_
  · exact List.append_ne_nil_of_left_ne_nil (hne p hp) _
  · rw [List.append_assoc]
    exact List.prefix_append _ _

/-! ## Behind a character -/

theorem after?_append_of_notMem {c : Char} (h : c ∉ before) :
    after? c (before ++ cs) = after? c cs := by
  induction before with
  | nil => rfl
  | cons d before ih =>
    obtain ⟨hd, h⟩ := List.ne_and_not_mem_of_not_mem_cons h
    rw [List.cons_append, after?, if_neg hd.symm, ih h]

theorem after?_eq_some_iff {c : Char} :
    after? c cs = some behind ↔ ∃ before, c ∉ before ∧ cs = before ++ c :: behind := by
  constructor
  · intro h
    induction cs with
    | nil => cases h
    | cons d cs ih =>
      rw [after?] at h
      split at h
      next hd =>
        cases h
        exact ⟨[], List.not_mem_nil, by rw [hd]; rfl⟩
      next hd =>
        obtain ⟨before, hc, rfl⟩ := ih h
        exact ⟨d :: before, List.not_mem_cons_of_ne_of_not_mem (Ne.symm hd) hc, rfl⟩
  · rintro ⟨before, hc, rfl⟩
    rw [after?_append_of_notMem hc]
    exact if_pos rfl

theorem after?_eq_none_iff {c : Char} : after? c cs = none ↔ c ∉ cs := by
  induction cs with
  | nil => simp [after?]
  | cons d cs ih =>
    rw [after?, ite_eq_iff, ih, List.mem_cons]
    simp [eq_comm]

end SellProbe.Text
