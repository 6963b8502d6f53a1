import Mathlib.Order.Monotone.Basic
import SellProbe.Contract.Together
import SellProbe.Proofs.Collecting

/-!
# How calls that run together end

Calls that run together all have a value, or they end as the failing reply that is seen first: in
the earliest poll, and among the replies of one poll at the earliest place (`Outcome.FailsFirst`).
Calls that never go out, because a failing reply is seen at once, make no difference to that. Where
replies are seen in the order of the calls, the first failing one in this order decides.
-/

namespace SellProbe

variable {ε α : Type} {seen : Nat → Nat}

/-! ## The order in which replies are seen -/

namespace Contract

theorem seenBefore_iff {i j : Nat} :
    seenBefore seen i j = true ↔ seen i < seen j ∨ seen i = seen j ∧ i ≤ j := by
  simp [seenBefore]

theorem seenBefore_trans {i j k : Nat} (h : seenBefore seen i j = true)
    (h' : seenBefore seen j k = true) : seenBefore seen i k = true := by
  rw [seenBefore_iff] at h h' ⊢
  omega

theorem seenBefore_total (i j : Nat) : (seenBefore seen i j || seenBefore seen j i) = true := by
  rw [Bool.or_eq_true, seenBefore_iff, seenBefore_iff]
  omega

theorem seenBefore_antisymm {i j : Nat} (h : seenBefore seen i j = true)
    (h' : seenBefore seen j i = true) : i = j := by
  rw [seenBefore_iff] at h h'
  omega

end Contract

open Contract

namespace Outcome

variable {replies : List (Outcome ε α)} {o o' : Outcome ε α} {place place' : Nat}

theorem isValue_eq_true_iff : o.isValue = true ↔ ∃ a, o = .value a := by
  cases o <;> simp [isValue]

theorem isValue_eq_false_iff : o.isValue = false ↔ ∃ failure, o.toExcept = .error failure := by
  cases o <;> simp [isValue, toExcept]

/-- A failing reply before which no other failing reply is seen. -/
structure FailsFirst (seen : Nat → Nat) (replies : List (Outcome ε α)) (place : Nat)
    (o : Outcome ε α) : Prop where
  stands : replies[place]? = some o
  fails : o.isValue = false
  first : ∀ place' o', replies[place']? = some o' → o'.isValue = false →
    seen place < seen place' ∨ seen place = seen place' ∧ place ≤ place'

theorem FailsFirst.unique (h : FailsFirst seen replies place o)
    (h' : FailsFirst seen replies place' o') : o = o' := by
  have hbefore := seenBefore_iff.2 (h.first place' o' h'.stands h'.fails)
  have hbehind := seenBefore_iff.2 (h'.first place o h.stands h.fails)
  obtain rfl := seenBefore_antisymm hbefore hbehind
  exact Option.some.inj (h.stands.symm.trans h'.stands)

/-- Where replies are seen in their order, the first failing one of the list is seen first. -/
theorem exists_failsFirst_iff (hseen : Monotone seen) (hfails : o.isValue = false) :
    (∃ place, FailsFirst seen replies place o) ↔
      ∃ before behind, replies = before ++ o :: behind ∧ ∀ x ∈ before, ∃ a, x = .value a := by
  constructor
  · rintro ⟨place, h⟩
    obtain ⟨hlt, rfl⟩ := List.getElem?_eq_some_iff.1 h.stands
    refine ⟨replies.take place, replies.drop (place + 1), ?_, fun x hx => ?_⟩
    · rw [← List.drop_eq_getElem_cons hlt, List.take_append_drop]
    · obtain ⟨j, hj, rfl⟩ := List.mem_take_iff_getElem.1 hx
      refine isValue_eq_true_iff.1 (Bool.of_not_eq_false fun hfails => ?_)
      have hle := hseen (show j ≤ place by omega)
      have hfirst := h.first j _ (List.getElem?_eq_getElem (by omega)) hfails
      omega
  · rintro ⟨before, behind, rfl, hbefore⟩
    refine ⟨before.length, by simp, hfails, fun place' o' hstands' hfails' => ?_⟩
    have hle : before.length ≤ place' := by
      by_contra hlt
      rw [List.getElem?_append_left (by omega)] at hstands'
      obtain ⟨a, rfl⟩ := hbefore o' (List.mem_of_getElem? hstands')
      cases hfails'
    have hmono := hseen hle
    omega

theorem mem_sorted_iff {x : Outcome ε α × Nat} :
    x ∈ replies.zipIdx.mergeSort (fun x y => seenBefore seen x.2 y.2) ↔
      replies[x.2]? = some x.1 := by
  rw [List.mem_mergeSort, List.mem_zipIdx_iff_getElem?]

theorem pairwise_sorted (seen : Nat → Nat) (replies : List (Outcome ε α)) :
    (replies.zipIdx.mergeSort fun x y => seenBefore seen x.2 y.2).Pairwise
      fun x y => seenBefore seen x.2 y.2 = true := by
  refine List.pairwise_mergeSort ?_ ?_ _
  · exact fun _ _ _ => seenBefore_trans
  · exact fun _ _ => seenBefore_total _ _

theorem exists_failsFirst_of_mapM_eq_error {failure : ε ⊕ String}
    (h : (inOrderSeen seen replies).mapM toExcept = .error failure) :
    ∃ place o, FailsFirst seen replies place o ∧ o.toExcept = .error failure := by
  rw [inOrderSeen, List.mapM_map] at h
  obtain ⟨good, ⟨o, place⟩, rest, hsplit, hgood, hbad⟩ := mapM_eq_error_iff.1 h
  have hsorted := pairwise_sorted seen replies
  have hmem : ∀ x, x ∈ good ++ (o, place) :: rest ↔ replies[x.2]? = some x.1 := fun x => by
    rw [← hsplit, mem_sorted_iff]
  rw [hsplit] at hsorted
  refine ⟨place, o, ⟨(hmem (o, place)).1 (by simp), isValue_eq_false_iff.2 ⟨failure, hbad⟩,
    fun place' o' h' hfails => ?_⟩, hbad⟩
  rw [← seenBefore_iff]
  rcases List.mem_append.1 ((hmem (o', place')).2 h') with hx | hx
  · obtain ⟨failure', hfails⟩ := isValue_eq_false_iff.1 hfails
    obtain ⟨a, ha⟩ := hgood _ hx
    cases ha.symm.trans hfails
  · rcases List.mem_cons.1 hx with hx | hx
    · cases hx
      exact seenBefore_iff.2 (.inr ⟨rfl, le_rfl⟩)
    · exact List.rel_of_pairwise_cons (List.pairwise_append.1 hsorted).2.1 hx

theorem mem_inOrderSeen_iff : o ∈ inOrderSeen seen replies ↔ o ∈ replies := by
  rw [inOrderSeen, ((List.mergeSort_perm _ _).map Prod.fst).mem_iff, List.zipIdx_map_fst]

/-- Among the replies in the order in which they are seen, the first failing one is seen first. -/
theorem mapM_inOrderSeen_eq_error_iff {failure : ε ⊕ String} :
    (inOrderSeen seen replies).mapM toExcept = .error failure ↔
      ∃ place o, FailsFirst seen replies place o ∧ o.toExcept = .error failure := by
  refine ⟨exists_failsFirst_of_mapM_eq_error, ?_⟩
  rintro ⟨place, o, h, hfails⟩
  cases hall : (inOrderSeen seen replies).mapM toExcept with
  | ok xs =>
    have hmem : o ∈ inOrderSeen seen replies :=
      mem_inOrderSeen_iff.2 (List.mem_of_getElem? h.stands)
    obtain ⟨a, ha⟩ := exists_mapM_eq_ok_iff.1 ⟨xs, hall⟩ o hmem
    cases ha.symm.trans hfails
  | error failure' =>
    obtain ⟨place', o', h', hfails'⟩ := exists_failsFirst_of_mapM_eq_error hall
    obtain rfl := h.unique h'
    exact congrArg Except.error (Except.error.inj (hfails'.symm.trans hfails))

/-! ## Calls that do not go out -/

/-- The replies up to the first failing one that is seen at once. -/
def upToSeenFailure (seen : Nat → Nat) : Nat → List (Outcome ε α) → List (Outcome ε α)
  | _, [] => []
  | place, o :: os =>
    if !o.isValue && seen place == 0 then [o] else o :: upToSeenFailure seen (place + 1) os

/-- Either all replies come in, or the last that does fails and is seen at once. -/
theorem exists_upToSeenFailure (seen : Nat → Nat) (place : Nat) (replies : List (Outcome ε α)) :
    ∃ rest, replies = upToSeenFailure seen place replies ++ rest ∧
      (rest = [] ∨ ∃ before o, upToSeenFailure seen place replies = before ++ [o] ∧
        o.isValue = false ∧ seen (place + before.length) = 0) := by
  induction replies generalizing place with
  | nil => exact ⟨[], rfl, .inl rfl⟩
  | cons o os ih =>
    unfold upToSeenFailure
    split
    next hcut =>
      rw [Bool.and_eq_true, Bool.not_eq_true', beq_iff_eq] at hcut
      exact ⟨os, rfl, .inr ⟨[], o, rfl, hcut⟩⟩
    next =>
      obtain ⟨rest, hrest, hend⟩ := ih (place + 1)
      refine ⟨rest, congrArg (o :: ·) hrest, hend.imp_right ?_⟩
      rintro ⟨before, o', hcut, hfails, hseen⟩
      refine ⟨o :: before, o', congrArg (o :: ·) hcut, hfails, ?_⟩
      rw [List.length_cons, ← hseen]
      congr 1
      omega

theorem failsFirst_upToSeenFailure_iff :
    FailsFirst seen (upToSeenFailure seen 0 replies) place o ↔ FailsFirst seen replies place o := by
  obtain ⟨rest, hreplies, rfl | ⟨before, last, hcut, hfails, hseen⟩⟩ :=
    exists_upToSeenFailure seen 0 replies
  · rw [← hreplies.trans (List.append_nil _)]
  · rw [Nat.zero_add] at hseen
    rw [hcut] at hreplies ⊢
    have hlast : (before ++ [last])[before.length]? = some last := List.getElem?_concat_length
    have hsame : ∀ i ≤ before.length, replies[i]? = (before ++ [last])[i]? := fun i hi => by
      rw [hreplies, List.getElem?_append_left]
      rw [List.length_append, List.length_singleton]
      omega
    constructor
    · intro h
      have hle := h.first _ _ hlast hfails
      refine ⟨(hsame place (by omega)).trans h.stands, h.fails, fun place' o' h' hfails' => ?_⟩
      by_cases hin : place' ≤ before.length
      · exact h.first place' o' ((hsame place' hin).symm.trans h') hfails'
      · omega
    · intro h
      have hle := h.first _ _ ((hsame _ le_rfl).trans hlast) hfails
      refine ⟨(hsame place (by omega)).symm.trans h.stands, h.fails, fun place' o' h' hfails' => ?_⟩
      have hin := (List.getElem?_eq_some_iff.1 h').1
      rw [List.length_append, List.length_singleton] at hin
      exact h.first place' o' ((hsame place' (by omega)).trans h') hfails'

theorem upToSeenFailure_eq_map_value_iff {xs : List α} :
    upToSeenFailure seen 0 replies = xs.map .value ↔ replies = xs.map .value := by
  obtain ⟨rest, hreplies, rfl | ⟨before, last, hcut, hfails, -⟩⟩ :=
    exists_upToSeenFailure seen 0 replies
  · rw [← hreplies.trans (List.append_nil _)]
  · have hno : ∀ os, replies = os → last ∈ os → ¬ os = xs.map .value := by
      rintro os - hmem rfl
      obtain ⟨a, -, rfl⟩ := List.mem_map.1 hmem
      cases hfails
    refine iff_of_false ?_ (hno replies rfl ?_)
    · intro hvalues
      have hmem : last ∈ xs.map .value := by
        rw [← hvalues, hcut]
        simp
      obtain ⟨a, -, rfl⟩ := List.mem_map.1 hmem
      cases hfails
    · rw [hreplies, hcut]
      simp

end Outcome

/-! ## Replies to calls -/

/-- What the reply to a call tells, or why it tells nothing. -/
def Outcome.decode (read : Bytes → Option α) :
    Outcome ProbeError Bytes → Outcome ProbeError α
  | .value data =>
    match Abi.decode read data with
    | .ok a => .value a
    | .error e => .error (.abi e.message)
  | .error e => .error e
  | .panic t => .panic t

def Backend.answers (b : Backend) (read : Bytes → Option α) (history : List Request) :
    List Transaction → List (Outcome ProbeError α)
  | [] => []
  | tx :: txs => (b history (.call tx)).decode read :: b.answers read (history ++ [.call tx]) txs

theorem Contract.runWith_query (b : Backend) (read : Bytes → Option α) (tx : Transaction)
    (history : List Request) :
    (Contract.query read tx).runWith b.responder history =
      ⟨(b history (.call tx)).decode read, [.asked (.call tx) (b history (.call tx))],
        history ++ [.call tx]⟩ := by
  have hcall : (Contract.call tx).runWith b.responder history = ⟨b history (.call tx),
      [.asked (.call tx) (b history (.call tx))], history ++ [.call tx]⟩ := rfl
  rw [Contract.query, Program.bind_eq, Program.runWith_bind, hcall]
  cases b history (.call tx) with
  | value data =>
    simp only [Run.andThen, Outcome.decode]
    cases Abi.decode read data <;> rfl
  | error e => rfl
  | panic t => rfl

theorem Program.toExcept_outcome_mapM_done {σ : Type} (respond : Responder σ) (s : σ)
    (os : List (Outcome ε α)) :
    ((os.mapM Program.done).runWith respond s).outcome.toExcept = os.mapM Outcome.toExcept := by
  induction os with
  | nil => rfl
  | cons o os ih =>
    rw [List.mapM_cons, List.mapM_cons, toExcept_outcome_bind]
    refine bind_congr fun a => ?_
    rw [toExcept_outcome_bind]
    exact congrArg (· >>= _) ih

namespace Contract

variable (b : Backend) (read : Bytes → Option α) (history : List Request)
  (txs : List Transaction)

theorem outcome_issue (place : Nat) :
    ((issue read seen place txs).runWith b.responder history).outcome =
      .value (Outcome.upToSeenFailure seen place (b.answers read history txs)) := by
  induction txs generalizing place history with
  | nil => rfl
  | cons tx txs ih =>
    rw [issue, Program.bind_eq, Program.runWith_bind, Program.runWith_settle, runWith_query,
      Backend.answers, Outcome.upToSeenFailure]
    simp only [Run.andThen]
    split
    · rfl
    · rw [Program.bind_eq, Program.runWith_bind, Run.andThen, ih]
      rfl

theorem toExcept_outcome_queryAll :
    let replies := Outcome.upToSeenFailure seen 0 (b.answers read history txs)
    ((queryAll read seen txs).runWith b.responder history).outcome.toExcept = (do
      let _ ← (inOrderSeen seen replies).mapM Outcome.toExcept
      replies.mapM Outcome.toExcept) := by
  rw [queryAll, Program.toExcept_outcome_bind, outcome_issue]
  change Outcome.toExcept (Run.outcome _) = _
  rw [Program.toExcept_outcome_bind, Program.toExcept_outcome_mapM_done]
  refine bind_congr fun _ => ?_
  exact Program.toExcept_outcome_mapM_done _ _ _

theorem exists_mapM_inOrderSeen_iff {replies : List (Outcome ε α)} :
    (∃ xs, (inOrderSeen seen replies).mapM Outcome.toExcept = .ok xs) ↔
      ∃ xs, replies.mapM Outcome.toExcept = .ok xs := by
  simp only [exists_mapM_eq_ok_iff, Outcome.mem_inOrderSeen_iff]

/-- Calls that run together have values exactly if all their replies have. -/
theorem outcome_queryAll_eq_value_iff {xs : List α} :
    ((queryAll read seen txs).runWith b.responder history).outcome = .value xs ↔
      b.answers read history txs = xs.map .value := by
  rw [← Outcome.toExcept_eq_ok_iff, toExcept_outcome_queryAll, bind_eq_ok_iff,
    ← Outcome.upToSeenFailure_eq_map_value_iff, ← mapM_toExcept_eq_ok_iff]
  constructor
  · rintro ⟨-, -, h⟩
    exact h
  · intro h
    obtain ⟨ys, hys⟩ := exists_mapM_inOrderSeen_iff.2 ⟨xs, h⟩
    exact ⟨ys, hys, h⟩

/-- Calls that run together fail as the failing reply that is seen first. -/
theorem toExcept_outcome_queryAll_eq_error_iff {failure : ProbeError ⊕ String} :
    ((queryAll read seen txs).runWith b.responder history).outcome.toExcept = .error failure ↔
      ∃ place o, Outcome.FailsFirst seen (b.answers read history txs) place o ∧
        o.toExcept = .error failure := by
  rw [toExcept_outcome_queryAll, bind_eq_error_iff, Outcome.mapM_inOrderSeen_eq_error_iff]
  simp only [Outcome.failsFirst_upToSeenFailure_iff]
  refine or_iff_left ?_
  rintro ⟨xs, hxs, hfails⟩
  obtain ⟨ys, hys⟩ := exists_mapM_inOrderSeen_iff.1 ⟨xs, hxs⟩
  cases hys.symm.trans hfails

end Contract

end SellProbe
