import SellProbe.Swap.Logs
import Mathlib.Data.List.Basic

/-!
# What foreign events can do to a measurement

A swap is measured by the events in its receipt, and every contract that runs in the transaction can
emit events there. Nothing is asked about who has emitted an event: what counts is the first one of
its kind. So a measurement is what its own contract has reported as long as that contract comes
first (`output_eq_output_without`, `report_eq_report_of_router`), and another contract that comes
first chooses the amount itself (`exists_forged_output`, `exists_forged_report`).
-/

namespace SellProbe.Swap

variable {logs : List Log} {log : Log} {wallet router : Address}

/-- Filtering keeps the log that a search finds, as long as the log itself is kept. -/
theorem find?_filter_of_find? {p q : Log → Bool} (h : logs.find? q = some log)
    (hp : p log = true) : (logs.filter p).find? q = some log := by
  obtain ⟨hq, before, behind, hlogs, hbefore⟩ := List.find?_eq_some_iff_append.1 h
  rw [List.find?_filter, List.find?_eq_some_iff_append]
  refine ⟨by simp [hp, hq], before, behind, hlogs, fun l hl => ?_⟩
  have hskipped : q l = false := by simpa using hbefore l hl
  simp [hskipped]

theorem exists_find?_of_mem {q : Log → Bool} (hlog : log ∈ logs) (hq : q log = true) :
    ∃ first, logs.find? q = some first ∧ q first = true := by
  have hsome : (logs.find? q).isSome = true := List.find?_isSome.2 ⟨log, hlog, hq⟩
  obtain ⟨first, hfirst⟩ := Option.isSome_iff_exists.1 hsome
  exact ⟨first, hfirst, List.find?_some hfirst⟩

/-! ## Trades between a wallet and the public router -/

/-- Whether a log reads as a pair's swap that has the wallet and the router as its parties. -/
def isTrade (wallet router : Address) (log : Log) : Bool :=
  (PairSwap.ofLog? log).any fun s => s.involves router && s.involves wallet

theorem exists_swap_of_isTrade (h : isTrade wallet router log = true) :
    ∃ s, PairSwap.ofLog? log = some s := by
  unfold isTrade at h
  cases hs : PairSwap.ofLog? log with
  | some s => exact ⟨s, rfl⟩
  | none =>
    rw [hs] at h
    cases h

/-- The first trade decides, wherever it comes from; without one, the last withdrawal does. -/
theorem output?_eq (logs : List Log) (wallet router : Address) :
    output? logs wallet router =
      match (logs.find? (isTrade wallet router)).bind PairSwap.ofLog? with
      | some s => some s.output
      | none => (logs.filterMap Withdrawal.ofLog?).getLast?.map (·.amount) := by
  unfold output?
  simp only [List.find?_filterMap]
  rfl

theorem output?_of_find? {s : PairSwap} (hlog : logs.find? (isTrade wallet router) = some log)
    (hs : PairSwap.ofLog? log = some s) : output? logs wallet router = some s.output := by
  rw [output?_eq, hlog, Option.bind_some, hs]

/-- **The first trade is what a swap is measured by.** If some contract other than the token has
reported a trade, the amount is that of the first trade, whoever has reported it; and if that one is
not the token's, then no event of the token counts at all. -/
theorem output_eq_output_without {token : Address}
    (hgenuine : ∃ log ∈ logs, log.emitter ≠ token ∧ isTrade wallet router log = true) :
    ∃ first s, logs.find? (isTrade wallet router) = some first ∧
      PairSwap.ofLog? first = some s ∧ output? logs wallet router = some s.output ∧
      (first.emitter ≠ token →
        output? logs wallet router =
          output? (logs.filter fun l => l.emitter ≠ token) wallet router) := by
  obtain ⟨log, hlog, -, htrade⟩ := hgenuine
  obtain ⟨first, hfirst, hfirstTrade⟩ := exists_find?_of_mem hlog htrade
  obtain ⟨s, hs⟩ := exists_swap_of_isTrade hfirstTrade
  refine ⟨first, s, hfirst, hs, output?_of_find? hfirst hs, fun hne => ?_⟩
  have hkept : (logs.filter fun l => l.emitter ≠ token).find? (isTrade wallet router) =
      some first := find?_filter_of_find? hfirst (decide_eq_true hne)
  rw [output?_of_find? hfirst hs, output?_of_find? hkept hs]

def tradeLog (emitter wallet router : Address) (amount : Nat) : Log where
  emitter
  topics := [pairSwapTopic, router.toHash, wallet.toHash]
  data := [0, 0, 0, amount].flatMap Abi.word

/-- A pair's trade, and behind it one that the token makes up. -/
theorem output_eq_output_without_sample :
    let pair := FixedBytes.fill 20 0x11
    let token := FixedBytes.fill 20 0x07
    let wallet := FixedBytes.fill 20 0xa1
    let router := FixedBytes.fill 20 0x70
    let logs := [tradeLog pair wallet router 900, tradeLog token wallet router 999999]
    (∃ log ∈ logs, log.emitter ≠ token ∧ isTrade wallet router log = true) ∧
      output? logs wallet router = some 900 ∧
      output? logs wallet router =
        output? (logs.filter fun l => l.emitter ≠ token) wallet router := by
  intro pair token wallet router logs
  have htrade : isTrade wallet router (tradeLog pair wallet router 900) = true := by decide +kernel
  have hgenuine : ∃ log ∈ logs, log.emitter ≠ token ∧ isTrade wallet router log = true :=
    ⟨tradeLog pair wallet router 900, by simp [logs], by decide, htrade⟩
  have hpair : logs.find? (isTrade wallet router) = some (tradeLog pair wallet router 900) :=
    List.find?_cons_of_pos htrade
  have hamount : output? logs wallet router = some 900 := by decide +kernel
  obtain ⟨first, s, hfirst, -, -, hkept⟩ := output_eq_output_without hgenuine
  obtain rfl : tradeLog pair wallet router 900 = first := Option.some.inj (hpair.symm.trans hfirst)
  exact ⟨hgenuine, hamount, hkept (by decide)⟩

/-- A token that reports a trade before the pair does is believed. -/
theorem exists_forged_output :
    ¬ ∀ (logs : List Log) (wallet router token : Address),
      (∃ log ∈ logs, log.emitter ≠ token ∧ isTrade wallet router log = true) →
        output? logs wallet router =
          output? (logs.filter fun l => l.emitter ≠ token) wallet router := by
  intro h
  let pair := FixedBytes.fill 20 0x11
  let token := FixedBytes.fill 20 0x07
  let wallet := FixedBytes.fill 20 0xa1
  let router := FixedBytes.fill 20 0x70
  have htrade : isTrade wallet router (tradeLog pair wallet router 900) = true := by decide +kernel
  have hsame := h [tradeLog token wallet router 999999, tradeLog pair wallet router 900] wallet
    router token ⟨tradeLog pair wallet router 900, by simp, by decide, htrade⟩
  revert hsame
  decide +kernel

/-! ## Reports of the transit router -/

theorem wordAt?_eq_none_iff {data : Bytes} {offset : Nat} :
    Abi.wordAt? data offset = none ↔ data.length < offset + 32 := by
  unfold Abi.wordAt? Abi.slice?
  split
  · simp
    omega
  · simp
    omega

/-- Two words are read of any log that has that much data. -/
theorem exists_twoWords?_iff : (∃ words, twoWords? log = some words) ↔ 64 ≤ log.data.length := by
  unfold twoWords?
  constructor
  · rintro ⟨words, h⟩
    by_contra hlt
    have hnone : Abi.wordAt? log.data 32 = none := wordAt?_eq_none_iff.2 (by omega)
    rw [hnone] at h
    cases hfirst : Abi.wordAt? log.data 0 with
    | none => simp [hfirst] at h
    | some w => simp [hfirst] at h
  · intro hlength
    obtain ⟨v, hv⟩ := Option.ne_none_iff_exists'.1
      (fun h => absurd (wordAt?_eq_none_iff.1 h) (by omega) : Abi.wordAt? log.data 0 ≠ none)
    obtain ⟨w, hw⟩ := Option.ne_none_iff_exists'.1
      (fun h => absurd (wordAt?_eq_none_iff.1 h) (by omega) : Abi.wordAt? log.data 32 ≠ none)
    exact ⟨(v, w), by rw [hv, hw]; rfl⟩

def reportOf? (swap balance : Log) : Option TransitReport := do
  let (calculated, output) ← twoWords? swap
  let (balanceBefore, balanceAfter) ← twoWords? balance
  return { calculated, output, balanceBefore, balanceAfter }

theorem exists_reportOf?_iff {swap balance : Log} :
    (∃ report, reportOf? swap balance = some report) ↔
      64 ≤ swap.data.length ∧ 64 ≤ balance.data.length := by
  rw [← exists_twoWords?_iff, ← exists_twoWords?_iff]
  unfold reportOf?
  cases twoWords? swap with
  | none => simp
  | some amounts =>
    cases twoWords? balance with
    | none => simp
    | some balances => simp

/-- The first log with either topic decides, at whichever place it has the topic. -/
theorem ofLogs?_of_logWith? {swap balance : Log}
    (hswap : logWith? transitSwapTopic logs = some swap)
    (hbalance : logWith? transitBalanceTopic logs = some balance) :
    TransitReport.ofLogs? logs = reportOf? swap balance := by
  unfold TransitReport.ofLogs? reportOf?
  rw [hswap, hbalance]
  rfl

theorem exists_logWith?_of_head? {topic : Hash}
    (h : ∃ log ∈ logs, log.emitter = router ∧ log.topics.head? = some topic ∧
      64 ≤ log.data.length) : ∃ first, logWith? topic logs = some first := by
  obtain ⟨log, hlog, -, htopic, -⟩ := h
  have hmem : topic ∈ log.topics := List.mem_of_mem_head? htopic
  obtain ⟨first, hfirst, -⟩ :=
    exists_find?_of_mem (q := fun l => l.topics.contains topic) hlog (by simpa using hmem)
  exact ⟨first, hfirst⟩

/-- **The first logs with the router's topics are what a report is read from.** If the router has
emitted its two events in full, there is a first log with either topic, and a report exactly if both
have two words of data, whoever has emitted them; and if both are the router's, then no other
contract's event counts at all. -/
theorem report_eq_report_of_router
    (hswap : ∃ log ∈ logs, log.emitter = router ∧ log.topics.head? = some transitSwapTopic ∧
      64 ≤ log.data.length)
    (hbalance : ∃ log ∈ logs, log.emitter = router ∧ log.topics.head? = some transitBalanceTopic ∧
      64 ≤ log.data.length) :
    ∃ swap balance, logWith? transitSwapTopic logs = some swap ∧
      logWith? transitBalanceTopic logs = some balance ∧
      ((∃ report, TransitReport.ofLogs? logs = some report) ↔
        64 ≤ swap.data.length ∧ 64 ≤ balance.data.length) ∧
      (swap.emitter = router → balance.emitter = router →
        TransitReport.ofLogs? logs =
          TransitReport.ofLogs? (logs.filter fun l => l.emitter = router)) := by
  obtain ⟨swap, hfirstSwap⟩ := exists_logWith?_of_head? hswap
  obtain ⟨balance, hfirstBalance⟩ := exists_logWith?_of_head? hbalance
  have hreport := ofLogs?_of_logWith? hfirstSwap hfirstBalance
  refine ⟨swap, balance, hfirstSwap, hfirstBalance, ?_, fun hs hb => ?_⟩
  · rw [hreport]
    exact exists_reportOf?_iff
  · have hkeptSwap : logWith? transitSwapTopic (logs.filter fun l => l.emitter = router) =
        some swap := find?_filter_of_find? hfirstSwap (decide_eq_true hs)
    have hkeptBalance : logWith? transitBalanceTopic (logs.filter fun l => l.emitter = router) =
        some balance := find?_filter_of_find? hfirstBalance (decide_eq_true hb)
    rw [hreport, ofLogs?_of_logWith? hkeptSwap hkeptBalance]

def reportLog (emitter : Address) (topic : Hash) (first second : Nat) : Log where
  emitter
  topics := [topic]
  data := Abi.word first ++ Abi.word second

/-- The router's events, and behind them one that the token makes up. -/
theorem report_eq_report_of_router_sample :
    let token := FixedBytes.fill 20 0x07
    let router := FixedBytes.fill 20 0x70
    let logs := [reportLog router transitSwapTopic 1000 950,
      reportLog router transitBalanceTopic 0 950, reportLog token transitSwapTopic 1000 1000]
    (∃ log ∈ logs, log.emitter = router ∧ log.topics.head? = some transitSwapTopic ∧
      64 ≤ log.data.length) ∧
      (∃ log ∈ logs, log.emitter = router ∧ log.topics.head? = some transitBalanceTopic ∧
        64 ≤ log.data.length) ∧
      (∃ report, TransitReport.ofLogs? logs = some report) ∧
      TransitReport.ofLogs? logs =
        TransitReport.ofLogs? (logs.filter fun l => l.emitter = router) := by
  intro token router logs
  have hswap : ∃ log ∈ logs, log.emitter = router ∧
      log.topics.head? = some transitSwapTopic ∧ 64 ≤ log.data.length :=
    ⟨reportLog router transitSwapTopic 1000 950, by simp [logs], rfl, rfl, by decide⟩
  have hbalance : ∃ log ∈ logs, log.emitter = router ∧
      log.topics.head? = some transitBalanceTopic ∧ 64 ≤ log.data.length :=
    ⟨reportLog router transitBalanceTopic 0 950, by simp [logs], rfl, rfl, by decide⟩
  obtain ⟨swap, balance, hfirstSwap, hfirstBalance, hsome, hkept⟩ :=
    report_eq_report_of_router hswap hbalance
  obtain ⟨hfirst, hsecond⟩ : logWith? transitSwapTopic logs =
        some (reportLog router transitSwapTopic 1000 950) ∧
      logWith? transitBalanceTopic logs = some (reportLog router transitBalanceTopic 0 950) := by
    decide +kernel
  obtain rfl := Option.some.inj (hfirst.symm.trans hfirstSwap)
  obtain rfl := Option.some.inj (hsecond.symm.trans hfirstBalance)
  exact ⟨hswap, hbalance, hsome.2 (by decide +kernel), hkept rfl rfl⟩

/-- A token that emits an event with the router's topic before the router does is believed. -/
theorem exists_forged_report :
    ¬ ∀ (logs : List Log) (router : Address),
      (∃ log ∈ logs, log.emitter = router ∧ log.topics.head? = some transitSwapTopic ∧
        64 ≤ log.data.length) →
      (∃ log ∈ logs, log.emitter = router ∧ log.topics.head? = some transitBalanceTopic ∧
        64 ≤ log.data.length) →
        (∃ report, TransitReport.ofLogs? logs = some report) ∧
        TransitReport.ofLogs? logs =
          TransitReport.ofLogs? (logs.filter fun l => l.emitter = router) := by
  intro h
  let token := FixedBytes.fill 20 0x07
  let router := FixedBytes.fill 20 0x70
  have hsame := (h [reportLog token transitSwapTopic 1000 1000,
    reportLog router transitSwapTopic 1000 950, reportLog router transitBalanceTopic 0 950] router
    ⟨reportLog router transitSwapTopic 1000 950, by simp, rfl, rfl, by decide⟩
    ⟨reportLog router transitBalanceTopic 0 950, by simp, rfl, rfl, by decide⟩).2
  revert hsame
  decide +kernel

end SellProbe.Swap
