import SellProbe.Proofs.BigEndian
import SellProbe.Proofs.Forgery

/-!
# Which event tells the output

A receipt has events of all kinds, and what a swap has given is told by one of them: the first trade
between the wallet and the router, or the last withdrawal if there is no trade. Events that are
neither make no difference (`output_precedence`). What makes an event one or the other is said here
in terms of its topics and of the words that its data starts with.
-/

namespace SellProbe

namespace Abi

def words (ws : List Word) : Bytes := ws.flatMap fun w => w.toHash.toList

theorem append_isPrefix_iff {xs ys data : Bytes} :
    xs ++ ys <+: data ↔ xs <+: data ∧ ys <+: data.drop xs.length := by
  constructor
  · rintro ⟨rest, rfl⟩
    rw [List.append_assoc, List.drop_left]
    exact ⟨List.prefix_append _ _, List.prefix_append _ _⟩
  · rintro ⟨⟨behind, rfl⟩, hys⟩
    rw [List.drop_left] at hys
    exact (List.prefix_append_right_inj xs).2 hys

theorem toHash_ofBytes {bs : Bytes} (h : bs.length = 32) : (Word.ofBytes bs).toHash.toList = bs :=
  congrArg FixedBytes.toList (Word.toHash_toWord ⟨bs, h⟩)

theorem wordAt?_eq_some_iff {data : Bytes} {offset : Nat} {w : Word} :
    wordAt? data offset = some w ↔ w.toHash.toList <+: data.drop offset := by
  unfold wordAt? slice?
  constructor
  · intro h
    obtain ⟨bs, hbs, rfl⟩ := Option.map_eq_some_iff.1 h
    split at hbs
    · rename_i hinside
      obtain rfl := Option.some.inj hbs
      rw [toHash_ofBytes (List.length_take_of_le (by rw [List.length_drop]; omega))]
      exact List.take_prefix 32 _
    · cases hbs
  · rintro ⟨rest, hrest⟩
    have hlength := congrArg List.length hrest
    rw [List.length_append, FixedBytes.length_toList, List.length_drop] at hlength
    have hword : Word.ofBytes w.toHash.toList = w := Hash.toWord_toHash w
    rw [if_pos (by omega), ← hrest, List.take_left' w.toHash.length_toList, Option.map_some, hword]

theorem words_cons_isPrefix_iff {w : Word} {ws : List Word} {data : Bytes} {offset : Nat} :
    words (w :: ws) <+: data.drop offset ↔
      wordAt? data offset = some w ∧ words ws <+: data.drop (offset + 32) := by
  have hwords : words (w :: ws) = w.toHash.toList ++ words ws := List.flatMap_cons
  rw [hwords, append_isPrefix_iff, List.drop_drop, FixedBytes.length_toList, wordAt?_eq_some_iff]

theorem words_nil_isPrefix (data : Bytes) : words [] <+: data := List.nil_prefix

end Abi

namespace Swap

variable {logs : List Log} {log : Log} {wallet router : Address}

/-! ## Events -/

/-- A log that tells of this swap: three topics, the parties in the last two, and four amounts. -/
structure PairSwap.IsToldBy (s : PairSwap) (log : Log) : Prop where
  topics : ∃ sender recipient : Hash, log.topics = [pairSwapTopic, sender, recipient] ∧
    s.sender = sender.toAddress ∧ s.recipient = recipient.toAddress
  amounts : Abi.words [s.amount0In, s.amount1In, s.amount0Out, s.amount1Out] <+: log.data

/-- A log that tells of this withdrawal: two topics, the account in the last one, and an amount. -/
structure Withdrawal.IsToldBy (w : Withdrawal) (log : Log) : Prop where
  topics : ∃ source : Hash, log.topics = [withdrawalTopic, source] ∧ w.source = source.toAddress
  amount : Abi.words [w.amount] <+: log.data

theorem PairSwap.ofLog?_eq_some_iff {s : PairSwap} : ofLog? log = some s ↔ s.IsToldBy log := by
  have hamounts : Abi.words [s.amount0In, s.amount1In, s.amount0Out, s.amount1Out] <+: log.data ↔
      Abi.wordAt? log.data 0 = some s.amount0In ∧ Abi.wordAt? log.data 32 = some s.amount1In ∧
        Abi.wordAt? log.data 64 = some s.amount0Out ∧
        Abi.wordAt? log.data 96 = some s.amount1Out := by
    have hstart : log.data = log.data.drop 0 := rfl
    conv_lhs => rw [hstart]
    simp only [Abi.words_cons_isPrefix_iff, Abi.words_nil_isPrefix, and_true, Nat.zero_add,
      Nat.reduceAdd]
  unfold ofLog?
  constructor
  · intro h
    split at h
    next topic sender recipient htopics =>
      split at h
      next htopic =>
        obtain ⟨amount0In, h0In, h⟩ := Option.bind_eq_some_iff.1 h
        obtain ⟨amount1In, h1In, h⟩ := Option.bind_eq_some_iff.1 h
        obtain ⟨amount0Out, h0Out, h⟩ := Option.bind_eq_some_iff.1 h
        obtain ⟨amount1Out, h1Out, h⟩ := Option.bind_eq_some_iff.1 h
        obtain rfl := Option.some.inj h
        subst htopic
        exact ⟨⟨sender, recipient, htopics, rfl, rfl⟩, hamounts.2 ⟨h0In, h1In, h0Out, h1Out⟩⟩
      next => cases h
    next => cases h
  · rintro ⟨⟨sender, recipient, htopics, hsender, hrecipient⟩, hdata⟩
    obtain ⟨h0In, h1In, h0Out, h1Out⟩ := hamounts.1 hdata
    simp only [htopics, if_pos, h0In, h1In, h0Out, h1Out, ← hsender, ← hrecipient]
    rfl

theorem Withdrawal.ofLog?_eq_some_iff {w : Withdrawal} : ofLog? log = some w ↔ w.IsToldBy log := by
  have hamount : Abi.words [w.amount] <+: log.data ↔ Abi.wordAt? log.data 0 = some w.amount := by
    have hstart : log.data = log.data.drop 0 := rfl
    conv_lhs => rw [hstart]
    simp only [Abi.words_cons_isPrefix_iff, Abi.words_nil_isPrefix, and_true]
  unfold ofLog?
  constructor
  · intro h
    split at h
    next topic source htopics =>
      split at h
      next htopic =>
        obtain ⟨amount, hread, h⟩ := Option.bind_eq_some_iff.1 h
        obtain rfl := Option.some.inj h
        subst htopic
        exact ⟨⟨source, htopics, rfl⟩, hamount.2 hread⟩
      next => cases h
    next => cases h
  · rintro ⟨⟨source, htopics, hsource⟩, hdata⟩
    simp only [htopics, if_pos, hamount.1 hdata, ← hsource]
    rfl

/-- A swap that has the wallet and the router as its parties, in either role. -/
def PairSwap.IsBetween (s : PairSwap) (wallet router : Address) : Prop :=
  (s.sender = router ∨ s.recipient = router) ∧ (s.sender = wallet ∨ s.recipient = wallet)

def TellsTrade (wallet router : Address) (log : Log) : Prop :=
  ∃ s : PairSwap, s.IsToldBy log ∧ s.IsBetween wallet router

def TellsWithdrawal (log : Log) : Prop := ∃ w : Withdrawal, w.IsToldBy log

/-- A log that can decide what a swap has given. -/
def IsRelevant (wallet router : Address) (log : Log) : Prop :=
  TellsTrade wallet router log ∨ TellsWithdrawal log

theorem isTrade_iff : isTrade wallet router log = true ↔ TellsTrade wallet router log := by
  unfold isTrade TellsTrade
  simp only [Option.any_eq_true, PairSwap.ofLog?_eq_some_iff, PairSwap.involves,
    PairSwap.IsBetween, Bool.and_eq_true, Bool.or_eq_true, decide_eq_true_eq]

theorem Withdrawal.ofLog?_eq_none_iff : ofLog? log = none ↔ ¬ TellsWithdrawal log := by
  simp only [TellsWithdrawal, ← ofLog?_eq_some_iff, not_exists, Option.eq_none_iff_forall_ne_some]

/-! ## Which one counts -/

/-- The first trade between the wallet and the router that the logs tell of. -/
def IsFirstTrade (wallet router : Address) (logs : List Log) (s : PairSwap) : Prop :=
  ∃ before log behind, logs = before ++ log :: behind ∧
    (∀ l ∈ before, ¬ TellsTrade wallet router l) ∧ s.IsToldBy log ∧ s.IsBetween wallet router

/-- The last withdrawal that the logs tell of. -/
def IsLastWithdrawal (logs : List Log) (w : Withdrawal) : Prop :=
  ∃ before log behind, logs = before ++ log :: behind ∧
    (∀ l ∈ behind, ¬ TellsWithdrawal l) ∧ w.IsToldBy log

theorem output?_insert (h : ¬ IsRelevant wallet router log) (before behind : List Log) :
    output? (before ++ log :: behind) wallet router = output? (before ++ behind) wallet router := by
  have htrade : ¬ isTrade wallet router log = true := fun ht => h (.inl (isTrade_iff.1 ht))
  have hwithdrawal : Withdrawal.ofLog? log = none :=
    Withdrawal.ofLog?_eq_none_iff.2 fun hw => h (.inr hw)
  rw [output?_eq, output?_eq, List.find?_append, List.find?_append,
    List.find?_cons_of_neg htrade, List.filterMap_append, List.filterMap_append,
    List.filterMap_cons_none hwithdrawal]

theorem exists_first_trade (h : ∃ log ∈ logs, TellsTrade wallet router log) :
    ∃ s, IsFirstTrade wallet router logs s ∧ output? logs wallet router = some s.output := by
  obtain ⟨log, hlog, htrade⟩ := h
  obtain ⟨first, hfirst, hfirstTrade⟩ := exists_find?_of_mem hlog (isTrade_iff.2 htrade)
  obtain ⟨-, before, behind, hlogs, hbefore⟩ := List.find?_eq_some_iff_append.1 hfirst
  obtain ⟨s, hs, hbetween⟩ := isTrade_iff.1 hfirstTrade
  refine ⟨s, ⟨before, first, behind, hlogs, fun l hl ht => ?_, hs, hbetween⟩,
    output?_of_find? hfirst (PairSwap.ofLog?_eq_some_iff.2 hs)⟩
  have hother := hbefore l hl
  rw [isTrade_iff.2 ht] at hother
  cases hother

theorem output?_of_no_trade (h : ∀ log ∈ logs, ¬ TellsTrade wallet router log) :
    output? logs wallet router = (logs.reverse.findSome? Withdrawal.ofLog?).map (·.amount) := by
  have hnone : logs.find? (isTrade wallet router) = none :=
    List.find?_eq_none.2 fun log hlog ht => h log hlog (isTrade_iff.1 ht)
  rw [output?_eq, hnone, Option.bind_none, List.getLast?_filterMap]

theorem exists_last_withdrawal (hno : ∀ log ∈ logs, ¬ TellsTrade wallet router log)
    (h : ∃ log ∈ logs, TellsWithdrawal log) :
    ∃ w, IsLastWithdrawal logs w ∧ output? logs wallet router = some w.amount := by
  obtain ⟨log, hlog, hwithdrawal⟩ := h
  have hsome : logs.reverse.findSome? Withdrawal.ofLog? ≠ none := fun hnone =>
    Withdrawal.ofLog?_eq_none_iff.1
      (List.findSome?_eq_none_iff.1 hnone log (List.mem_reverse.2 hlog)) hwithdrawal
  obtain ⟨w, hw⟩ := Option.ne_none_iff_exists'.1 hsome
  obtain ⟨behind, last, before, hlogs, hlast, hbehind⟩ := List.findSome?_eq_some_iff.1 hw
  refine ⟨w, ⟨before.reverse, last, behind.reverse, ?_, fun l hl => ?_,
    Withdrawal.ofLog?_eq_some_iff.1 hlast⟩, ?_⟩
  · rw [← List.reverse_reverse logs, hlogs]
    simp
  · exact Withdrawal.ofLog?_eq_none_iff.1 (hbehind l (List.mem_reverse.1 hl))
  · rw [output?_of_no_trade hno, hw]
    rfl

theorem output?_eq_none_iff :
    output? logs wallet router = none ↔ ∀ log ∈ logs, ¬ IsRelevant wallet router log := by
  constructor
  · intro hnone
    have hno : ∀ log ∈ logs, ¬ TellsTrade wallet router log := by
      intro log hlog htrade
      obtain ⟨s, -, hsome⟩ := exists_first_trade ⟨log, hlog, htrade⟩
      cases hnone.symm.trans hsome
    rintro log hlog (htrade | hwithdrawal)
    · exact hno log hlog htrade
    · obtain ⟨w, -, hsome⟩ := exists_last_withdrawal hno ⟨log, hlog, hwithdrawal⟩
      cases hnone.symm.trans hsome
  · intro hall
    have hno : logs.reverse.findSome? Withdrawal.ofLog? = none :=
      List.findSome?_eq_none_iff.2 fun l hl =>
        Withdrawal.ofLog?_eq_none_iff.2 fun hw => hall l (List.mem_reverse.1 hl) (.inr hw)
    rw [output?_of_no_trade fun l hl ht => hall l hl (.inl ht), hno]
    rfl

/-- **Trades come before withdrawals, the first of those before the last of these.** An event that
is neither can stand anywhere. The first trade tells its second amount that came out, or its first
one if that is zero, whatever else is told; without a trade the last withdrawal tells its amount;
and nothing is told only if no event is a trade or a withdrawal. -/
theorem output_precedence (logs : List Log) (wallet router : Address) :
    (∀ before behind log, logs = before ++ behind → ¬ IsRelevant wallet router log →
      output? (before ++ log :: behind) wallet router = output? logs wallet router) ∧
    ((∃ log ∈ logs, TellsTrade wallet router log) →
      ∃ s, IsFirstTrade wallet router logs s ∧ output? logs wallet router =
        some (if s.amount1Out = 0 then s.amount0Out else s.amount1Out)) ∧
    ((∀ log ∈ logs, ¬ TellsTrade wallet router log) → (∃ log ∈ logs, TellsWithdrawal log) →
      ∃ w, IsLastWithdrawal logs w ∧ output? logs wallet router = some w.amount) ∧
    (output? logs wallet router = none ↔ ∀ log ∈ logs, ¬ IsRelevant wallet router log) := by
  refine ⟨?_, exists_first_trade, exists_last_withdrawal, output?_eq_none_iff⟩
  rintro before behind log rfl hirrelevant
  exact output?_insert hirrelevant before behind

def withdrawalLog (emitter source : Address) (amount : Nat) : Log where
  emitter
  topics := [withdrawalTopic, source.toHash]
  data := Abi.word amount

/-- Two trades between two withdrawals, and before them a trade of someone else. -/
theorem output_precedence_sample :
    let pair := FixedBytes.fill 20 0x11
    let asset := FixedBytes.fill 20 0xc0
    let wallet := FixedBytes.fill 20 0xa1
    let router := FixedBytes.fill 20 0x70
    let foreign := tradeLog pair (FixedBytes.fill 20 0xee) router 10
    let first := withdrawalLog asset router 5
    let trade := tradeLog pair wallet router 20
    let later := tradeLog pair wallet router 30
    let last := withdrawalLog asset router 8
    ¬ IsRelevant wallet router foreign ∧
      output? [first, foreign, trade, later, last] wallet router =
        output? [first, trade, later, last] wallet router ∧
      (∃ s, IsFirstTrade wallet router [first, trade, later, last] s ∧
        (if s.amount1Out = 0 then s.amount0Out else s.amount1Out) = 20) ∧
      (∀ log ∈ [first, foreign, last], ¬ TellsTrade wallet router log) ∧
      ∃ w, IsLastWithdrawal [first, foreign, last] w ∧ w.amount = 8 := by
  intro pair asset wallet router foreign first trade later last
  obtain ⟨hforeign, hnoTrade, htrade, hlast, hfirstAmount, hlastAmount⟩ :
      Withdrawal.ofLog? foreign = none ∧
        (∀ log ∈ [first, foreign, last], isTrade wallet router log = false) ∧
        isTrade wallet router trade = true ∧ Withdrawal.ofLog? last ≠ none ∧
        output? [first, trade, later, last] wallet router = some 20 ∧
        output? [first, foreign, last] wallet router = some 8 := by decide +kernel
  have hno : ∀ log ∈ [first, foreign, last], ¬ TellsTrade wallet router log := by
    intro log hlog hl
    cases (hnoTrade log hlog).symm.trans (isTrade_iff.2 hl)
  have hirrelevant : ¬ IsRelevant wallet router foreign := by
    rintro (hl | hl)
    · exact hno foreign (by simp) hl
    · exact Withdrawal.ofLog?_eq_none_iff.1 hforeign hl
  have hwithdrawal : TellsWithdrawal last := not_not.1 (mt Withdrawal.ofLog?_eq_none_iff.2 hlast)
  obtain ⟨hinsert, hfirst, -, -⟩ := output_precedence [first, trade, later, last] wallet router
  obtain ⟨s, hs, hsaid⟩ := hfirst ⟨trade, by simp, isTrade_iff.1 htrade⟩
  obtain ⟨-, -, hwithdrawn, -⟩ := output_precedence [first, foreign, last] wallet router
  obtain ⟨w, hw, hpaid⟩ := hwithdrawn hno ⟨last, by simp, hwithdrawal⟩
  exact ⟨hirrelevant, hinsert [first] _ foreign rfl hirrelevant,
    ⟨s, hs, Option.some.inj (hsaid.symm.trans hfirstAmount)⟩, hno, w, hw,
    Option.some.inj (hpaid.symm.trans hlastAmount)⟩

end Swap

end SellProbe
