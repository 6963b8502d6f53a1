import SellProbe.Proofs.Plan

/-!
# Dialogues

Many programs ask one request after another, go on with each answer, and end with the first failure.
A dialogue lists the turns that such a program takes when nothing fails: its requests, each with the
answer that it was given. What really happens is a whole dialogue, or the beginning of one and then
the first reply that fails, which decides how the program ends (`Happens`). A program converses in
the dialogues of a relation if its paths are exactly what can happen in them
(`Program.Converses`), and the lemmas go along the text of the program. A plan says less: it leaves
open which replies a program breaks off at, and how it ends there.
-/

namespace SellProbe

/-- A request, what is wrong with an answer to it, if anything is, and an answer with which nothing
is. -/
structure Turn where
  request : Request
  fault : request.Answer → Option ProbeError
  answer : request.Answer
  sound : fault answer = none

namespace Turn

def judged {α : Type} {r : Request} (judge : r.Answer → Except ProbeError α) {x : r.Answer} {a : α}
    (h : judge x = .ok a) : Turn where
  request := r
  fault x := match judge x with
    | .ok _ => none
    | .error e => some e
  answer := x
  sound := by rw [h]

def event (t : Turn) : Event := .asked t.request (.value t.answer)

/-- A turn fails with a reply that is no answer, or with an answer that something is wrong with. -/
inductive Fails (t : Turn) : Reply t.request → Outcome ProbeError Empty → Prop
  | error (e : ProbeError) : t.Fails (.error e) (.error e)
  | panic (text : String) : t.Fails (.panic text) (.panic text)
  | fault {a : t.request.Answer} {e : ProbeError} (h : t.fault a = some e) :
      t.Fails (.value a) (.error e)

end Turn

/-- An end without a value, as the end of a program that might have had one. -/
def Outcome.raise {ε α : Type} : Outcome ε Empty → Outcome ε α
  | .error e => .error e
  | .panic t => .panic t

/-- A dialogue breaks off at the first reply that fails. -/
inductive BreaksOff : List Turn → List Event → Outcome ProbeError Empty → Prop
  | here {t : Turn} {reply : Reply t.request} {o : Outcome ProbeError Empty} (h : t.Fails reply o)
      (ts : List Turn) : BreaksOff (t :: ts) [.asked t.request reply] o
  | later {ts : List Turn} {es : List Event} {o : Outcome ProbeError Empty} (t : Turn)
      (h : BreaksOff ts es o) : BreaksOff (t :: ts) (t.event :: es) o

/-- What happens in a dialogue for a value: all of it, or a part of it and then a failure. -/
inductive Happens {α : Type} (ts : List Turn) (a : α) : List Event → Outcome ProbeError α → Prop
  | whole : Happens ts a (ts.map Turn.event) (.value a)
  | part {es : List Event} {o : Outcome ProbeError Empty} (h : BreaksOff ts es o) :
      Happens ts a es o.raise

section

variable {α : Type} {ts ts' : List Turn} {es : List Event} {a : α}

theorem requests_map_event (ts : List Turn) :
    Event.requests (ts.map Turn.event) = ts.map Turn.request := by
  induction ts with
  | nil => rfl
  | cons t ts ih => exact congrArg (t.request :: ·) ih

namespace Outcome

theorem raise_ne_value (o : Outcome ProbeError Empty) (a : α) : o.raise ≠ .value a := by
  cases o with
  | value x => exact x.elim
  | error e => exact nofun
  | panic t => exact nofun

theorem raise_inj {o o' : Outcome ProbeError Empty} :
    (o.raise : Outcome ProbeError α) = o'.raise ↔ o = o' := by
  refine ⟨fun h => ?_, congrArg Outcome.raise⟩
  cases o with
  | value x => exact x.elim
  | error e =>
    cases o' with
    | value x => exact x.elim
    | error e' => exact congrArg _ (Outcome.error.inj h)
    | panic t' => cases h
  | panic t =>
    cases o' with
    | value x => exact x.elim
    | error e' => cases h
    | panic t' => exact congrArg _ (Outcome.panic.inj h)

end Outcome

namespace BreaksOff

variable {o : Outcome ProbeError Empty}

theorem append_right (h : BreaksOff ts es o) (ts' : List Turn) : BreaksOff (ts ++ ts') es o := by
  induction h with
  | here h ts => exact .here h _
  | later t _ ih => exact .later t ih

theorem append_left (ts : List Turn) (h : BreaksOff ts' es o) :
    BreaksOff (ts ++ ts') (ts.map Turn.event ++ es) o := by
  induction ts with
  | nil => exact h
  | cons t ts ih => exact .later t ih

/-- Two dialogues one after the other break off in the first, or after it in the second. -/
theorem append_iff : BreaksOff (ts ++ ts') es o ↔
    BreaksOff ts es o ∨ ∃ es', es = ts.map Turn.event ++ es' ∧ BreaksOff ts' es' o := by
  constructor
  · intro h
    induction ts generalizing es with
    | nil => exact .inr ⟨es, rfl, h⟩
    | cons t ts ih =>
      cases h with
      | here h => exact .inl (.here h ts)
      | later _ h =>
        rcases ih h with hfirst | ⟨es', rfl, hsecond⟩
        · exact .inl (.later t hfirst)
        · exact .inr ⟨es', rfl, hsecond⟩
  · rintro (h | ⟨es', rfl, h⟩)
    · exact h.append_right ts'
    · exact h.append_left ts

/-- The last request has a turn in the dialogue; all before it have had theirs. -/
theorem exists_split (h : BreaksOff ts es o) : ∃ before t behind reply, ts = before ++ t :: behind ∧
    es = before.map Turn.event ++ [.asked t.request reply] ∧ t.Fails reply o := by
  induction h with
  | here h ts => exact ⟨[], _, ts, _, rfl, rfl, h⟩
  | later t _ ih =>
    obtain ⟨before, t', behind, reply, rfl, rfl, h⟩ := ih
    exact ⟨t :: before, t', behind, reply, rfl, rfl, h⟩

theorem requests_prefix (h : BreaksOff ts es o) : Event.requests es <+: ts.map Turn.request := by
  obtain ⟨before, t, behind, reply, rfl, rfl, -⟩ := h.exists_split
  rw [Event.requests_append, requests_map_event, List.map_append, List.map_cons]
  exact (List.prefix_append_right_inj _).2 ((List.prefix_cons_inj _).2 List.nil_prefix)

end BreaksOff

theorem Happens.eq_of_value {b : α} (h : Happens ts a es (.value b)) :
    es = ts.map Turn.event ∧ b = a := by
  generalize ho : (Outcome.value b : Outcome ProbeError α) = o at h
  cases h with
  | whole => exact ⟨rfl, Outcome.value.inj ho⟩
  | part h => exact absurd ho.symm (Outcome.raise_ne_value _ b)

theorem Happens.breaksOff {o : Outcome ProbeError Empty} (h : Happens ts a es o.raise) :
    BreaksOff ts es o := by
  generalize ho : (o.raise : Outcome ProbeError α) = o' at h
  cases h with
  | whole => exact absurd ho (Outcome.raise_ne_value o a)
  | part h => exact Outcome.raise_inj.1 ho ▸ h

theorem Happens.append_left {o : Outcome ProbeError α} (ts : List Turn) (h : Happens ts' a es o) :
    Happens (ts ++ ts') a (ts.map Turn.event ++ es) o := by
  cases h with
  | whole => exact List.map_append ▸ .whole
  | part h => exact .part (h.append_left ts)

/-- Where the last turn asks what no other asks, its request comes after all the others have had
their answers. -/
theorem Happens.of_last_asked {o : Outcome ProbeError α} {t : Turn} (h : Happens (ts ++ [t]) a es o)
    (hnew : t.request ∉ ts.map Turn.request) (hasked : t.request ∈ Event.requests es) :
    ∃ reply, es = ts.map Turn.event ++ [.asked t.request reply] := by
  cases h with
  | whole => exact ⟨.value t.answer, List.map_append⟩
  | part h =>
    rcases BreaksOff.append_iff.1 h with hfirst | ⟨es', rfl, hlast⟩
    · exact absurd (hfirst.requests_prefix.subset hasked) hnew
    · cases hlast with
      | @here _ reply => exact ⟨reply, rfl⟩
      | later _ hnone => cases hnone

end

namespace Program

variable {α β : Type} {p : Session α} {f : α → Session β} {es : List Event}

/-- The paths of a program are what can happen in the dialogues of a relation between its values and
dialogues for them. -/
structure Converses (p : Session α) (Q : α → List Turn → Prop) : Prop where
  path_iff : ∀ {es : List Event} {o : Outcome ProbeError α},
    p.Path es o ↔ ∃ a ts, Q a ts ∧ Happens ts a es o

theorem Converses.congr {Q Q' : α → List Turn → Prop} (h : p.Converses Q)
    (hQ : ∀ a ts, Q a ts ↔ Q' a ts) : p.Converses Q' := by
  obtain rfl : Q = Q' := funext fun a => funext fun ts => propext (hQ a ts)
  exact h

theorem converses_pure (a : α) :
    (pure a : Session α).Converses fun b ts => b = a ∧ ts = [] := by
  refine ⟨⟨?_, ?_⟩⟩
  · intro h
    cases h
    exact ⟨a, [], ⟨rfl, rfl⟩, .whole⟩
  · rintro ⟨_, _, ⟨rfl, rfl⟩, h⟩
    cases h with
    | whole => exact .done _
    | part h => cases h

def judged (r : Request) (judge : r.Answer → Except ProbeError α) : Session α := do
  ofExcept (judge (← request r))

section

variable {r : Request} {judge : r.Answer → Except ProbeError α}

theorem path_judged_of_ok {x : r.Answer} {a : α} (h : judge x = .ok a) :
    (judged r judge).Path [.asked r (.value x)] (.value a) := by
  have hrest : (ofExcept (judge x)).Path [] (.value a) := by
    rw [h]
    exact .done _
  exact Path.bind (path_request r x) hrest

/-- A judged request ends without a value if its turn fails. -/
theorem path_judged_of_fails {x₀ : r.Answer} {a₀ : α} {h₀ : judge x₀ = .ok a₀}
    {reply : Reply (Turn.judged judge h₀).request} {o : Outcome ProbeError Empty}
    (h : (Turn.judged judge h₀).Fails reply o) :
    (judged r judge).Path [.asked r reply] o.raise := by
  cases h with
  | error e => exact .ask _ (.done _)
  | panic t => exact .ask _ (.done _)
  | @fault x e h =>
    have hrest : (ofExcept (judge x)).Path [] (.error e) := by
      cases hx : judge x with
      | ok a => simp [Turn.judged, hx] at h
      | error e' =>
        obtain rfl : e' = e := by simpa [Turn.judged, hx] using h
        exact .done _
    exact Path.bind (path_request r x) hrest

/-- The reply to a judged request passes, or fails its turn. -/
theorem Path.of_judged {o : Outcome ProbeError α} (h : (judged r judge).Path es o) :
    (∃ x a, judge x = .ok a ∧ es = [.asked r (.value x)] ∧ o = .value a) ∨
      ∃ reply o', es = [.asked r reply] ∧ o = o'.raise ∧
        ∀ {x₀ a₀} (h₀ : judge x₀ = .ok a₀), (Turn.judged judge h₀).Fails reply o' := by
  cases h with
  | ask reply h =>
    cases reply with
    | error e =>
      cases h
      exact .inr ⟨_, .error e, rfl, rfl, fun _ => .error e⟩
    | panic t =>
      cases h
      exact .inr ⟨_, .panic t, rfl, rfl, fun _ => .panic t⟩
    | value x =>
      change (ofExcept (judge x)).Path _ _ at h
      cases hx : judge x with
      | ok a =>
        rw [hx] at h
        cases h
        exact .inl ⟨x, a, hx, rfl, rfl⟩
      | error e =>
        rw [hx] at h
        cases h
        exact .inr ⟨_, .error e, rfl, rfl, fun _ => .fault (by simp only [Turn.judged, hx])⟩

theorem request_eq_judged (r : Request) : request r = judged r .ok := (bind_pure (request r)).symm

/-- What is made of an answer can be judged further. -/
theorem judged_bind {β : Type} (g : α → Except ProbeError β) :
    (judged r judge >>= fun a => ofExcept (g a)) = judged r fun x => judge x >>= g := by
  rw [judged, judged, bind_assoc]
  refine congrArg (request r >>= ·) (funext fun x => ?_)
  cases judge x <;> rfl

/-- A judged request is one turn, if there is an answer that passes. -/
theorem converses_judged (hpass : ∃ x a, judge x = .ok a) :
    (judged r judge).Converses fun a ts =>
      ∃ x, ∃ h : judge x = .ok a, ts = [.judged judge h] := by
  obtain ⟨x₀, a₀, h₀⟩ := hpass
  refine ⟨⟨?_, ?_⟩⟩
  · intro h
    rcases h.of_judged with ⟨x, a, hx, rfl, rfl⟩ | ⟨reply, o', rfl, rfl, hfails⟩
    · exact ⟨a, _, ⟨x, hx, rfl⟩, .whole⟩
    · exact ⟨a₀, _, ⟨x₀, h₀, rfl⟩, .part (.here (hfails h₀) [])⟩
  · rintro ⟨a, _, ⟨x, hx, rfl⟩, h⟩
    cases h with
    | whole => exact path_judged_of_ok hx
    | part h =>
      cases h with
      | later _ h => cases h
      | here h => exact path_judged_of_fails h

end

theorem converses_request (r : Request) : (request r).Converses fun x ts =>
    ts = [.judged (r := r) .ok (rfl : _ = Except.ok x)] := by
  obtain ⟨x₀⟩ : Nonempty r.Answer := inferInstance
  rw [request_eq_judged]
  refine (converses_judged ⟨x₀, x₀, rfl⟩).congr fun x ts => ?_
  constructor
  · rintro ⟨_, h, rfl⟩
    cases h
    rfl
  · rintro rfl
    exact ⟨x, rfl, rfl⟩

theorem Path.bind_raise {o : Outcome ProbeError Empty} (h : p.Path es o.raise) :
    (p >>= f).Path es o.raise := by
  rw [bind_eq]
  generalize ho : (o.raise : Outcome ProbeError α) = o' at h
  induction h with
  | done o' =>
    cases o with
    | value x => exact x.elim
    | error e => exact ho ▸ .done _
    | panic t => exact ho ▸ .done _
  | ask reply _ ih => exact .ask reply (ih ho)
  | enter _ ih => exact .enter (ih ho)

/-- A dialogue for a value of the first program, and then one of the second. -/
theorem Converses.bind {Q : α → List Turn → Prop} {R : α → β → List Turn → Prop}
    (hp : p.Converses Q) (hf : ∀ a, (f a).Converses (R a)) :
    (p >>= f).Converses fun b ts =>
      ∃ a ts₁ ts₂, ts = ts₁ ++ ts₂ ∧ Q a ts₁ ∧ R a b ts₂ := by
  have hbehind : ∀ a, ∃ b ts, R a b ts := by
    intro a
    obtain ⟨es, o, hpath⟩ := exists_path (f a)
    obtain ⟨b, ts, hts, -⟩ := (hf a).path_iff.1 hpath
    exact ⟨b, ts, hts⟩
  have hbroken : ∀ {es : List Event} {o : Outcome ProbeError Empty}, p.Path es o.raise →
      ∃ b ts, (∃ a ts₁ ts₂, ts = ts₁ ++ ts₂ ∧ Q a ts₁ ∧ R a b ts₂) ∧
        Happens ts b es o.raise := by
    intro es o h
    obtain ⟨a, ts₁, hts₁, hap⟩ := hp.path_iff.1 h
    obtain ⟨b, ts₂, hts₂⟩ := hbehind a
    exact ⟨b, _, ⟨a, ts₁, ts₂, rfl, hts₁, hts₂⟩, .part (hap.breaksOff.append_right ts₂)⟩
  refine ⟨⟨?_, ?_⟩⟩
  · intro h
    rcases h.of_bind with ⟨a, es₁, es₂, rfl, h₁, h₂⟩ | ⟨e, rfl, h₁⟩ | ⟨t, rfl, h₁⟩
    · obtain ⟨a', ts₁, hts₁, hap₁⟩ := hp.path_iff.1 h₁
      obtain ⟨rfl, rfl⟩ := hap₁.eq_of_value
      obtain ⟨b, ts₂, hts₂, hap₂⟩ := (hf a).path_iff.1 h₂
      exact ⟨b, _, ⟨a, ts₁, ts₂, rfl, hts₁, hts₂⟩, hap₂.append_left ts₁⟩
    · exact hbroken (o := .error e) h₁
    · exact hbroken (o := .panic t) h₁
  · rintro ⟨b, _, ⟨a, ts₁, ts₂, rfl, hts₁, hts₂⟩, hap⟩
    cases hap with
    | whole =>
      rw [List.map_append]
      exact Path.bind (hp.path_iff.2 ⟨a, ts₁, hts₁, .whole⟩)
        ((hf a).path_iff.2 ⟨b, ts₂, hts₂, .whole⟩)
    | part h =>
      rcases BreaksOff.append_iff.1 h with hfirst | ⟨es₂, rfl, hsecond⟩
      · exact Path.bind_raise (hp.path_iff.2 ⟨a, ts₁, hts₁, .part hfirst⟩)
      · exact Path.bind (hp.path_iff.2 ⟨a, ts₁, hts₁, .whole⟩)
          ((hf a).path_iff.2 ⟨b, ts₂, hts₂, .part hsecond⟩)

/-- The program ends with a value exactly if it runs through all of a dialogue for it. -/
theorem Converses.run_eq_value_iff {σ : Type} {Q : α → List Turn → Prop} (h : p.Converses Q)
    (respond : Responder σ) (s : σ) {a : α} : (p.runWith respond s).outcome = .value a ↔
      ∃ ts, Q a ts ∧ (p.runWith respond s).events = ts.map Turn.event := by
  have hpath := path_runWith respond p s
  constructor
  · intro ha
    obtain ⟨_, ts, hts, hap⟩ := h.path_iff.1 (ha ▸ hpath)
    obtain ⟨hevents, rfl⟩ := hap.eq_of_value
    exact ⟨ts, hts, hevents⟩
  · rintro ⟨ts, hts, hevents⟩
    exact (h.path_iff.2 ⟨a, ts, hts, .whole⟩).outcome_unique (hevents ▸ hpath)

/-- Where the dialogues and their values are told by courses, the program runs through a course
whoever answers, and it ends with a value exactly if it runs through all of a course with that
value. -/
theorem Converses.run_course {σ γ : Type} {value : γ → α} {turns : γ → List Turn}
    (h : p.Converses fun a ts => ∃ x, a = value x ∧ ts = turns x) (respond : Responder σ) (s : σ) :
    (∃ x, Happens (turns x) (value x) (p.runWith respond s).events
      (p.runWith respond s).outcome) ∧
    ∀ a, (p.runWith respond s).outcome = .value a ↔
      ∃ x, a = value x ∧ (p.runWith respond s).events = (turns x).map Turn.event := by
  obtain ⟨_, _, ⟨x, rfl, rfl⟩, hx⟩ := h.path_iff.1 (path_runWith respond p s)
  refine ⟨⟨x, hx⟩, fun a => (h.run_eq_value_iff respond s).trans ?_⟩
  constructor
  · rintro ⟨_, ⟨y, rfl, rfl⟩, hevents⟩
    exact ⟨y, rfl, hevents⟩
  · rintro ⟨y, rfl, hevents⟩
    exact ⟨_, ⟨y, rfl, rfl⟩, hevents⟩

end Program

end SellProbe
