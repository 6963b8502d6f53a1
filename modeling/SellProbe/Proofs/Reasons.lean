import SellProbe.Proofs.ByteOffsets
import SellProbe.Proofs.Searching
import SellProbe.Proofs.Shape

/-!
# Reasons told by error texts

The reason of a refusal stands behind the first colon behind the first revert marker, and nothing
else in the text matters (`classify_tells_reason`). Errors carry the text of a node behind a label
of their own. No marker can start in a label, so wrapping a text in errors, again and again, does
not change what it tells (`ofError_of_wraps`).
-/

open scoped List

namespace SellProbe

/-! ## Trimming -/

namespace Text

def trimmed (s : String) : String := String.ofList (trim s.toList)

theorem trimmed_eq_empty_iff {s : String} : trimmed s = "" ↔ trim s.toList = [] := by
  rw [trimmed, ← String.toList_inj, String.toList_ofList]
  rfl

/-- What is trimmed stands in the text. -/
theorem trim_infix (cs : List Char) : trim cs <:+: cs :=
  (List.rdropWhile_prefix isBlank _).isInfix.trans (List.dropWhile_suffix _).isInfix

theorem IsTrimmed.trimmed_eq {s : String} (h : IsTrimmed s) : trimmed s = s := by
  have hleft : trimLeft s.toList = s.toList := by
    refine List.dropWhile_eq_self_iff.2 fun hlen => ?_
    have hmem : s.toList[0] ∈ s.toList.head? := by
      rw [List.head?_eq_getElem?, List.getElem?_eq_getElem hlen]
      rfl
    simpa using h.head _ hmem
  have hright : trimRight s.toList = s.toList := by
    refine List.rdropWhile_eq_self_iff.2 fun hne => ?_
    simpa using h.last _ (List.getLast?_eq_some_getLast hne)
  rw [trimmed, trim, hleft, hright, String.ofList_toList]

end Text

namespace Reason

/-! ## Markers -/

def patterns : List (List Char) := markers.map String.toList

def IsUnmarked (s : String) : Prop := ∀ marker ∈ markers, ¬ marker.toList <:+: s.toList

instance : DecidablePred IsUnmarked := fun s =>
  inferInstanceAs (Decidable (∀ marker ∈ markers, ¬ marker.toList <:+: s.toList))

theorem isFree_patterns_iff {s : String} : Text.IsFree patterns s.toList ↔ IsUnmarked s := by
  simp only [Text.IsFree, patterns, IsUnmarked, List.forall_mem_map]

theorem patterns_ne_nil : ∀ p ∈ patterns, p ≠ [] := by decide

/-- No marker can begin within another one. -/
theorem overlaps_patterns : ∀ p ∈ patterns, ∀ q ∈ patterns, Text.overlaps p q.tail = false := by
  decide

theorem colon_notMem_marker : ∀ marker ∈ markers, ':' ∉ marker.toList := by decide

/-- No marker runs over the end of a text without markers into a marker. -/
theorem isClear_marked {before marker : String} (hbefore : IsUnmarked before)
    (hmarker : marker ∈ markers) (rest : List Char) :
    Text.IsClear patterns before.toList (marker.toList ++ rest) :=
  (isFree_patterns_iff.2 hbefore).isClear (overlaps_patterns _ (List.mem_map_of_mem hmarker))
    (List.prefix_append _ _)

/-- A marker behind a text without markers is the first one. -/
theorem fromFirst?_marked {before marker : String} (hbefore : IsUnmarked before)
    (hmarker : marker ∈ markers) (rest : String) :
    Text.fromFirst? patterns (before ++ marker ++ rest).toList =
      some (marker.toList ++ rest.toList) := by
  have hmem : marker.toList ∈ patterns := List.mem_map_of_mem hmarker
  rw [String.toList_append, String.toList_append, List.append_assoc,
    Text.fromFirst?_append (isClear_marked hbefore hmarker _)]
  exact Text.fromFirst?_of_begins hmem (List.prefix_append _ _)

/-- A text with a marker can be cut at the first one. -/
theorem exists_marker_of_not_isUnmarked {message : String} (h : ¬ IsUnmarked message) :
    ∃ before marker rest : String, IsUnmarked before ∧ marker ∈ markers ∧
      message = before ++ marker ++ rest := by
  rw [← isFree_patterns_iff, ← Text.fromFirst?_eq_none_iff, ← ne_eq,
    Option.ne_none_iff_exists'] at h
  obtain ⟨tail, htail⟩ := h
  obtain ⟨before, hmessage, hclear, p, hp, rest, rfl⟩ := Text.fromFirst?_eq_some_iff.1 htail
  obtain ⟨marker, hmarker, rfl⟩ := List.mem_map.1 hp
  refine ⟨String.ofList before, marker, String.ofList rest, ?_, hmarker, ?_⟩
  · rw [← isFree_patterns_iff, String.toList_ofList]
    exact hclear.isFree patterns_ne_nil
  · rw [← String.toList_inj, hmessage, String.toList_append, String.toList_append,
      String.toList_ofList, String.toList_ofList, List.append_assoc]

/-! ## What a text tells -/

def told (behind : List Char) : Reason :=
  if (Text.trim behind).isEmpty then .revertedSilently
  else .reverted (String.ofList (Text.trim behind))

theorem told_toList (behind : String) :
    told behind.toList =
      if Text.trimmed behind = "" then .revertedSilently else .reverted (Text.trimmed behind) := by
  rw [told]
  exact if_congr (by rw [List.isEmpty_iff, Text.trimmed_eq_empty_iff]) rfl rfl

/-- Behind the first marker, a text tells what is behind the next colon. -/
theorem classify_marked {before marker : String} (hbefore : IsUnmarked before)
    (hmarker : marker ∈ markers) (rest : String) :
    classify (before ++ marker ++ rest) =
      (Text.after? ':' rest.toList).elim .revertedSilently told := by
  have hfirst := fromFirst?_marked hbefore hmarker rest
  rw [patterns] at hfirst
  rw [classify, hfirst]
  dsimp only
  rw [Text.after?_append_of_notMem (colon_notMem_marker marker hmarker)]
  cases Text.after? ':' rest.toList <;> rfl

/-- Without a marker, a text tells at most that something was refused. -/
theorem classify_of_isUnmarked {message : String} (h : IsUnmarked message) :
    classify message =
      if Text.occurs "without".toList message.toList then .revertedSilently else .unknown := by
  have hnone := Text.fromFirst?_eq_none_iff.2 (isFree_patterns_iff.2 h)
  rw [patterns] at hnone
  rw [classify, hnone]

/-- A reason that is told stands behind the first colon behind the first marker. -/
theorem exists_of_classify_eq_reverted {message reason : String}
    (h : classify message = .reverted reason) :
    ∃ before marker between behind : String, IsUnmarked before ∧ marker ∈ markers ∧
      ':' ∉ between.toList ∧ message = before ++ marker ++ between ++ ":" ++ behind ∧
      Text.trimmed behind = reason ∧ reason ≠ "" := by
  by_cases hmarked : IsUnmarked message
  · rw [classify_of_isUnmarked hmarked] at h
    split at h <;> cases h
  obtain ⟨before, marker, rest, hbefore, hmarker, rfl⟩ := exists_marker_of_not_isUnmarked hmarked
  rw [classify_marked hbefore hmarker] at h
  cases hafter : Text.after? ':' rest.toList with
  | none =>
    rw [hafter] at h
    cases h
  | some behind =>
    rw [hafter, Option.elim_some, ← String.toList_ofList (l := behind), told_toList] at h
    obtain ⟨between, hbetween, hrest⟩ := Text.after?_eq_some_iff.1 hafter
    refine ⟨before, marker, String.ofList between, String.ofList behind, hbefore, hmarker, ?_, ?_,
      ?_⟩
    · rwa [String.toList_ofList]
    · have hrest : rest = String.ofList between ++ ":" ++ String.ofList behind := by
        rw [← String.toList_inj, hrest]
        simp
      rw [hrest]
      simp only [String.append_assoc]
    · split at h
      next => cases h
      next hne =>
        cases h
        exact ⟨rfl, hne⟩

/-- A reason has no blanks around it. -/
theorem trimmed_of_classify_eq_reverted {message reason : String}
    (h : classify message = .reverted reason) : Text.trimmed reason = reason := by
  have htrimmed := isTrimmed_classify message
  rw [h] at htrimmed
  exact htrimmed.trimmed_eq

/-- **What error texts tell.** Behind the first marker the reason is what stands behind the next
colon, without the blanks around it; a refusal without a colon or with nothing behind it has no
reason, and a text without a marker tells none. Every reason comes about this way. The first marker
can be looked for in bytes: cutting the text there does not fail. -/
theorem classify_tells_reason :
    (∀ before marker between behind : String, IsUnmarked before → marker ∈ markers →
      ':' ∉ between.toList →
      classify (before ++ marker ++ between ++ ":" ++ behind) =
        if Text.trimmed behind = "" then .revertedSilently
        else .reverted (Text.trimmed behind)) ∧
    (∀ before marker between : String, IsUnmarked before → marker ∈ markers →
      ':' ∉ between.toList → classify (before ++ marker ++ between) = .revertedSilently) ∧
    (∀ message reason : String, IsUnmarked message → classify message ≠ .reverted reason) ∧
    (∀ message reason : String, classify message = .reverted reason →
      reason ≠ "" ∧ Text.trimmed reason = reason ∧
        ∃ before marker between behind : String, marker ∈ markers ∧ ':' ∉ between.toList ∧
          message = before ++ marker ++ between ++ ":" ++ behind ∧
          Text.IsClear (markers.map String.toList) before.toList
            (marker ++ between ++ ":" ++ behind).toList ∧
          Text.trimmed behind = reason ∧ reason.toList <:+: behind.toList) ∧
    ∀ message : String,
      (Utf8.firstByte? (markers.map String.toList) message.toList).map
          (Utf8.sliceFrom? · message.toList) =
        (Text.fromFirst? (markers.map String.toList) message.toList).map some := by
  refine ⟨?_, ?_, ?_, ?_, fun message => Utf8.sliceFrom?_firstByte? _ _⟩
  · intro before marker between behind hbefore hmarker hbetween
    have hafter : Text.after? ':' (between ++ (":" ++ behind)).toList = some behind.toList :=
      Text.after?_eq_some_iff.2 ⟨between.toList, hbetween, by simp⟩
    rw [String.append_assoc, String.append_assoc, classify_marked hbefore hmarker, hafter,
      Option.elim_some, told_toList]
  · intro before marker between hbefore hmarker hbetween
    rw [classify_marked hbefore hmarker, Text.after?_eq_none_iff.2 hbetween]
    rfl
  · intro message reason h
    rw [classify_of_isUnmarked h]
    split <;> exact nofun
  · intro message reason h
    obtain ⟨before, marker, between, behind, hbefore, hmarker, hbetween, hmessage, rfl, hne⟩ :=
      exists_of_classify_eq_reverted h
    refine ⟨hne, trimmed_of_classify_eq_reverted h, before, marker, between, behind, hmarker,
      hbetween, hmessage, ?_, rfl, ?_⟩
    · rw [String.append_assoc, String.append_assoc, String.toList_append]
      exact isClear_marked hbefore hmarker _
    · rw [Text.trimmed, String.toList_ofList]
      exact Text.trim_infix _

/-- The reason can hold colons, markers, and what tells that there is none. -/
theorem classify_tells_reason_sample :
    IsUnmarked "não: " ∧ "execution reverted" ∈ markers ∧ ':' ∉ " at 3".toList ∧
      classify ("não: " ++ "execution reverted" ++ " at 3" ++ ":" ++ " VM Exception: without ") =
        .reverted "VM Exception: without" := by
  have hbefore : IsUnmarked "não: " := by decide
  have hmarker : "execution reverted" ∈ markers := by decide
  have hbetween : ':' ∉ " at 3".toList := by decide
  refine ⟨hbefore, hmarker, hbetween, ?_⟩
  rw [classify_tells_reason.1 _ _ _ _ hbefore hmarker hbetween]
  decide

end Reason

/-! ## Errors that carry a text -/

/-- The text that an error carries behind its label. -/
def ProbeError.detail? : ProbeError → Option String
  | .spawn detail | .connection detail | .unavailable detail | .rpc detail | .sending detail
  | .awaiting detail | .trace detail | .abi detail | .liquidity detail | .badInput detail
  | .scan (.invalidHex detail) => some detail
  | .reverted _ | .scan .emptyCode | .closed => none

/-- The error carries the text, or the text of an error that carries it, and so on. -/
inductive ProbeError.Wraps (m : String) : ProbeError → Prop
  | once {e : ProbeError} : e.detail? = some m → Wraps m e
  | again {inner e : ProbeError} : Wraps m inner → e.detail? = some inner.message → Wraps m e

namespace Reason

/-- Neither a marker nor the word for a missing reason can start in the text, whatever follows. -/
def IsQuiet (label : String) : Prop :=
  ∀ p ∈ "without".toList :: patterns, Text.overlaps p label.toList = false

instance : DecidablePred IsQuiet := fun label =>
  inferInstanceAs <| Decidable <|
    ∀ p ∈ "without".toList :: patterns, Text.overlaps p label.toList = false

/-- Every error that carries a text has a quiet label. -/
theorem exists_label {e : ProbeError} {m : String} (h : e.detail? = some m) :
    ∃ label, IsQuiet label ∧ e.message = label ++ m := by
  cases e with
  | reverted transaction => cases h
  | closed => cases h
  | scan e =>
    cases e with
    | emptyCode => cases h
    | invalidHex detail =>
      cases h
      exact ⟨"falha na análise de bytecode: " ++ "invalid bytecode hex: ", by decide +kernel,
        (String.append_assoc).symm⟩
  | spawn detail | connection detail | unavailable detail | rpc detail | sending detail
  | awaiting detail | trace detail | abi detail | liquidity detail | badInput detail =>
    cases h
    exact ⟨_, by decide +kernel, rfl⟩

/-- What a search finds in a text: the text from the first marker on, and whether the word stands
there. -/
structure TellsAs (s t : String) : Prop where
  fromFirst? : Text.fromFirst? patterns s.toList = Text.fromFirst? patterns t.toList
  occurs : Text.occurs "without".toList s.toList = Text.occurs "without".toList t.toList

theorem TellsAs.trans {s t u : String} (h : TellsAs s t) (h' : TellsAs t u) : TellsAs s u :=
  ⟨h.fromFirst?.trans h'.fromFirst?, h.occurs.trans h'.occurs⟩

theorem TellsAs.classify_eq {s t : String} (h : TellsAs s t) : classify s = classify t := by
  have hfirst := h.fromFirst?
  rw [patterns] at hfirst
  rw [classify, classify, hfirst, h.occurs]

/-- Behind a quiet label a text tells what it tells alone. -/
theorem IsQuiet.tellsAs {label : String} (h : IsQuiet label) (m : String) :
    TellsAs (label ++ m) m := by
  obtain ⟨hword, hpatterns⟩ := List.forall_mem_cons.1 h
  constructor
  · rw [String.toList_append, Text.fromFirst?_append (Text.isClear_of_overlaps hpatterns _)]
  · rw [String.toList_append, Text.occurs, Text.occurs, Text.fromFirst?_append]
    exact Text.isClear_of_overlaps (List.forall_mem_singleton.2 hword) _

theorem tellsAs_of_detail? {e : ProbeError} {m : String} (h : e.detail? = some m) :
    TellsAs e.message m := by
  obtain ⟨label, hlabel, hmessage⟩ := exists_label h
  exact hmessage ▸ hlabel.tellsAs m

theorem tellsAs_of_wraps {e : ProbeError} {m : String} (h : e.Wraps m) : TellsAs e.message m := by
  induction h with
  | once h => exact tellsAs_of_detail? h
  | again _ h ih => exact (tellsAs_of_detail? h).trans ih

/-- An error that carries a text is judged by its own text. -/
theorem ofError_of_detail? {e : ProbeError} {m : String} (h : e.detail? = some m) :
    ofError e = classify e.message := by
  cases e with
  | reverted transaction => cases h
  | _ => rfl

/-- **Wrapping does not change what a text tells.** An error that carries a text, or carries the
text of an error that carries it, and so on, gives the reason that the text gives: its own text is
the same from the first marker on, and holds the word for a missing reason just when the text
does. -/
theorem ofError_of_wraps {e : ProbeError} {m : String} (h : e.Wraps m) :
    ofError e = classify m ∧
      Text.fromFirst? (markers.map String.toList) e.message.toList =
        Text.fromFirst? (markers.map String.toList) m.toList ∧
      ("without".toList <:+: e.message.toList ↔ "without".toList <:+: m.toList) := by
  have htells : TellsAs e.message m := tellsAs_of_wraps h
  have hown : ofError e = classify e.message := by
    cases h with
    | once h => exact ofError_of_detail? h
    | again _ h => exact ofError_of_detail? h
  refine ⟨hown.trans htells.classify_eq, htells.fromFirst?, ?_⟩
  rw [← Text.occurs_eq_true_iff, ← Text.occurs_eq_true_iff, htells.occurs]

/-- A refusal wrapped three times, the text of the contract being a label itself. -/
theorem ofError_of_wraps_thrice :
    let m := "execution reverted: falha de rpc: without"
    let sent := (ProbeError.sending m).message
    let e := ProbeError.liquidity (ProbeError.scan (.invalidHex sent)).message
    e.Wraps m ∧ ofError e = .reverted "falha de rpc: without" := by
  intro m sent e
  have hwraps : e.Wraps m := .again (.again (.once rfl) rfl) rfl
  refine ⟨hwraps, (ofError_of_wraps hwraps).1.trans ?_⟩
  decide

end Reason

end SellProbe
