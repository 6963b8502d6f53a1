import SellProbe.Proofs.Contents
import SellProbe.Proofs.Dialogue
import SellProbe.Proofs.Precedence
import SellProbe.Proofs.Release
import SellProbe.Proofs.Together

/-!
# A swap comes last

A swap through the public router is prepared: for each token on the route its allowance is read and,
if that is zero, an approval sent, and then the router is asked for a quote. The swap itself is sent
when all of this has succeeded and not before. The program ends with what its whole course tells, or
with what is wrong with the first reply that fails (`swapWithQuote_keeps_its_course`).
-/

namespace SellProbe.Swap

open Program

/-! ## Judging the answers -/

def decoded {α : Type} (read : Bytes → Option α) (data : Bytes) : Except ProbeError α :=
  match Abi.decode read data with
  | .ok a => .ok a
  | .error e => .error (.abi e.message)

/-- What a quote promises: the last of its amounts. -/
def lastAmount (amounts : List Word) : Except ProbeError Word :=
  match amounts.getLast? with
  | some w => .ok w
  | none => .error (.abi "getAmountsOut sem retorno")

def promised (data : Bytes) : Except ProbeError Word := decoded Abi.readUints? data >>= lastAmount

/-- What the receipt of a swap says, after a promise. -/
def received (wallet router : Address) (calculated : Word) (receipt : Receipt) :
    Except ProbeError Quoted :=
  match output? receipt.logs wallet router with
  | some output => .ok { calculated, output, receipt }
  | none => .error (.abi "swap sem log de saída")

section

variable {α : Type} {read : Bytes → Option α} {wallet router : Address} {calculated : Word}
  {receipt : Receipt}

theorem decoded_data (x : Reading read) : decoded read x.data = .ok x.value := by
  rw [decoded, x.decoded]

/-- An answer that can be decoded is a reading. -/
theorem exists_reading {data : Bytes} {a : α} (h : decoded read data = .ok a) :
    ∃ x : Reading read, x.data = data ∧ x.value = a := by
  unfold decoded at h
  split at h
  next a' hdata =>
    cases h
    exact ⟨⟨data, a, hdata⟩, rfl, rfl⟩
  next => cases h

theorem promised_data (x : Reading Abi.readUints?) (h : x.value.getLast? = some calculated) :
    promised x.data = .ok calculated := by
  unfold promised
  rw [decoded_data]
  change lastAmount x.value = _
  rw [lastAmount, h]

theorem exists_quote {data : Bytes} (h : promised data = .ok calculated) :
    ∃ x : Reading Abi.readUints?, x.data = data ∧ x.value.getLast? = some calculated := by
  unfold promised at h
  cases hdata : decoded Abi.readUints? data with
  | error e =>
    rw [hdata] at h
    cases h
  | ok amounts =>
    obtain ⟨x, rfl, rfl⟩ := exists_reading hdata
    rw [hdata] at h
    change lastAmount x.value = _ at h
    unfold lastAmount at h
    split at h
    next w hw =>
      cases h
      exact ⟨x, rfl, hw⟩
    next => cases h

theorem received_eq_ok {output : Word} (h : output? receipt.logs wallet router = some output) :
    received wallet router calculated receipt = .ok { calculated, output, receipt } := by
  rw [received, h]

theorem exists_output {q : Quoted} (h : received wallet router calculated receipt = .ok q) :
    ∃ output, output? receipt.logs wallet router = some output ∧
      q = { calculated, output, receipt } := by
  unfold received at h
  split at h
  next output houtput =>
    cases h
    exact ⟨output, houtput, rfl⟩
  next => cases h

end

/-! ## The programs as judged requests -/

section

variable {wallet router : Address} {amount gas deadline : Word} {route : List Address}

theorem query_eq {α : Type} (read : Bytes → Option α) (tx : Transaction) :
    Contract.query read tx = judged (.call tx) (decoded read) := by
  refine congrArg (request (.call tx) >>= ·) (funext fun data => ?_)
  unfold decoded
  cases Abi.decode read data <;> rfl

theorem quote_eq : Exchange.quote router amount route =
    judged (.call (Contents.quote router amount route)) promised := by
  rw [Exchange.quote, Exchange.quoteCall_eq, query_eq]
  refine Eq.trans (congrArg (judged _ _ >>= ·) (funext fun amounts => ?_)) (judged_bind lastAmount)
  unfold lastAmount
  cases amounts.getLast? <;> rfl

theorem swapWithQuote_eq : swapWithQuote router wallet amount route gas deadline = (do
    ensureAllowance wallet router route
    let calculated ← judged (.call (Contents.quote router amount route)) promised
    judged (.send (Contents.swap wallet router amount route gas deadline))
      (received wallet router calculated)) := by
  rw [swapWithQuote, quote_eq, Exchange.swap, Exchange.swapTx_eq]
  refine congrArg (ensureAllowance wallet router route >>= ·) (funext fun _ => ?_)
  refine congrArg (judged _ _ >>= ·) (funext fun calculated => ?_)
  refine congrArg (request (.send _) >>= ·) (funext fun (receipt : Receipt) => ?_)
  unfold received
  cases output? receipt.logs wallet router <;> rfl

/-! ## The course of a swap -/

/-- What is replied for one token on the route. The receipt is that of the approval, if the token
needs one. -/
structure Clearance where
  token : Address
  allowed : Reading Abi.readUint?
  approved : Receipt

def approvalTurns (wallet router token : Address) (allowed : Word) (approved : Receipt) :
    List Turn :=
  if allowed = 0 then
    [.judged (r := .send (Contents.approval wallet token router)) .ok
      (rfl : _ = Except.ok approved)]
  else []

/-- The turns for a token: its allowance is read, and it is approved if that is zero. -/
def Clearance.turns (wallet router : Address) (x : Clearance) : List Turn :=
  .judged (r := .call (Contents.allowance x.token wallet router)) (decoded Abi.readUint?)
      (decoded_data x.allowed) ::
    approvalTurns wallet router x.token x.allowed.value x.approved

/-- What is replied when nothing fails. -/
structure Course (wallet router : Address) (route : List Address) where
  clearances : List Clearance
  covers : clearances.map (·.token) = route
  quote : Reading Abi.readUints?
  calculated : Word
  last : quote.value.getLast? = some calculated
  receipt : Receipt
  output : Word
  told : output? receipt.logs wallet router = some output

namespace Course

variable (x : Course wallet router route)

/-- What comes before the swap: the allowances and approvals along the route, and the quote. -/
def preparation (amount : Word) : List Turn :=
  x.clearances.flatMap (·.turns wallet router) ++
    [.judged (r := .call (Contents.quote router amount route)) promised
      (promised_data x.quote x.last)]

def swap (amount gas deadline : Word) : Turn :=
  .judged (r := .send (Contents.swap wallet router amount route gas deadline))
    (received wallet router x.calculated) (received_eq_ok x.told)

def turns (amount gas deadline : Word) : List Turn :=
  x.preparation amount ++ [x.swap amount gas deadline]

def quoted : Quoted := { calculated := x.calculated, output := x.output, receipt := x.receipt }

end Course

/-! ## What happens in a swap -/

theorem converses_query {α : Type} {read : Bytes → Option α} (x₀ : Reading read)
    (tx : Transaction) : (Contract.query read tx).Converses fun a ts => ∃ x : Reading read,
      x.value = a ∧ ts = [.judged (r := .call tx) (decoded read) (decoded_data x)] := by
  rw [query_eq]
  refine (converses_judged (r := .call tx) ⟨x₀.data, x₀.value, decoded_data x₀⟩).congr
    fun a ts => ?_
  constructor
  · rintro ⟨data, h, rfl⟩
    obtain ⟨x, rfl, rfl⟩ := exists_reading h
    exact ⟨x, rfl, rfl⟩
  · rintro ⟨x, rfl, rfl⟩
    exact ⟨x.data, decoded_data x, rfl⟩

def smallAllowance : Reading Abi.readUint? where
  data := Abi.word 1
  value := 1
  decoded := by rfl

/-- In front of a program, an approval if there is no allowance. -/
theorem converses_approve_then {token : Address} {p : Session Unit} {Q : List Turn → Prop}
    (h : p.Converses fun _ ts => Q ts) (allowed : Word) :
    (if allowed = 0 then do
        let _ ← Erc20.approve { account := wallet } token router Word.largest
        p
      else p).Converses fun _ ts =>
        ∃ approved ts', Q ts' ∧ ts = approvalTurns wallet router token allowed approved ++ ts' := by
  rw [Erc20.approve, Erc20.approveTx_eq]
  by_cases hzero : allowed = 0
  · simp only [approvalTurns, if_pos hzero]
    refine ((converses_request (.send _)).bind fun _ => h).congr fun _ ts => ?_
    constructor
    · rintro ⟨approved, _, ts', rfl, rfl, hts'⟩
      exact ⟨approved, ts', hts', rfl⟩
    · rintro ⟨approved, ts', hts', rfl⟩
      exact ⟨approved, _, ts', rfl, rfl, hts'⟩
  · simp only [approvalTurns, if_neg hzero]
    refine h.congr fun _ ts => ?_
    constructor
    · intro hts
      exact ⟨Receipt.blank, ts, hts, rfl⟩
    · rintro ⟨-, ts', hts', rfl⟩
      exact hts'

theorem converses_ensureAllowance (wallet router : Address) (route : List Address) :
    (ensureAllowance wallet router route).Converses fun _ ts => ∃ xs : List Clearance,
      xs.map (·.token) = route ∧ ts = xs.flatMap (·.turns wallet router) := by
  induction route with
  | nil =>
    refine (converses_pure ()).congr fun _ ts => ?_
    simp [List.map_eq_nil_iff]
  | cons token route ih =>
    rw [ensureAllowance, Erc20.allowance, Erc20.allowanceCall_eq]
    refine ((converses_query smallAllowance _).bind (converses_approve_then ih)).congr fun _ ts => ?_
    constructor
    · rintro ⟨_, _, _, rfl, ⟨allowed, rfl, rfl⟩, approved, _, ⟨xs, rfl, rfl⟩, rfl⟩
      exact ⟨⟨token, allowed, approved⟩ :: xs, rfl, rfl⟩
    · rintro ⟨_ | ⟨x, xs⟩, hroute, rfl⟩
      · cases hroute
      · obtain ⟨rfl, rfl⟩ := List.cons.inj hroute
        rw [List.flatMap_cons]
        exact ⟨x.allowed.value, [_], _, rfl, ⟨x.allowed, rfl, rfl⟩, x.approved, _, ⟨xs, rfl, rfl⟩,
          rfl⟩

def emptyQuote : Reading Abi.readUints? where
  data := Abi.word 32 ++ Abi.word 1 ++ Abi.word 0
  value := [0]
  decoded := by rfl

theorem exists_receipt_with_output (wallet router : Address) :
    ∃ receipt output, output? (Receipt.logs receipt) wallet router = some output := by
  obtain ⟨log, htold⟩ : ∃ log, TellsWithdrawal log := by
    refine ⟨⟨router, [withdrawalTopic, router.toHash], Abi.words [0]⟩, ⟨_, 0⟩, ⟨_, rfl, rfl⟩, ?_⟩
    exact List.prefix_refl (Abi.words [0])
  refine ⟨{ Receipt.blank with logs := [log] }, Option.ne_none_iff_exists'.1 fun hnone => ?_⟩
  exact output?_eq_none_iff.1 hnone log (List.mem_singleton.2 rfl) (.inr htold)

theorem converses_swapWithQuote :
    (swapWithQuote router wallet amount route gas deadline).Converses fun q ts =>
      ∃ x : Course wallet router route, q = x.quoted ∧ ts = x.turns amount gas deadline := by
  have hquote : ∃ data w, promised data = .ok w := ⟨_, 0, promised_data emptyQuote rfl⟩
  have hswap : ∀ calculated, ∃ receipt q, received wallet router calculated receipt = .ok q := by
    intro calculated
    obtain ⟨receipt, output, h⟩ := exists_receipt_with_output wallet router
    exact ⟨receipt, _, received_eq_ok h⟩
  rw [swapWithQuote_eq]
  refine ((converses_ensureAllowance wallet router route).bind fun _ =>
    (converses_judged (r := .call _) hquote).bind fun calculated =>
      converses_judged (r := .send _) (hswap calculated)).congr fun q ts => ?_
  constructor
  · rintro ⟨_, _, _, rfl, ⟨xs, hroute, rfl⟩, calculated, _, _, rfl, ⟨data, hdata, rfl⟩, receipt,
      hreceipt, rfl⟩
    obtain ⟨quote, rfl, hlast⟩ := exists_quote hdata
    obtain ⟨output, houtput, rfl⟩ := exists_output hreceipt
    let x : Course wallet router route :=
      ⟨xs, hroute, quote, calculated, hlast, receipt, output, houtput⟩
    exact ⟨x, rfl, (List.append_assoc _ _ _).symm⟩
  · rintro ⟨x, rfl, rfl⟩
    exact ⟨(), _, _, List.append_assoc _ _ _, ⟨x.clearances, x.covers, rfl⟩, x.calculated, _, _,
      rfl, ⟨x.quote.data, _, rfl⟩, x.receipt, _, rfl⟩

theorem Course.swap_not_in_preparation (x : Course wallet router route) :
    (x.swap amount gas deadline).request ∉ (x.preparation amount).map Turn.request := by
  intro hmem
  obtain ⟨t, ht, hrequest⟩ := List.mem_map.1 hmem
  rcases List.mem_append.1 ht with ht | ht
  · obtain ⟨c, -, ht⟩ := List.mem_flatMap.1 ht
    rcases List.mem_cons.1 ht with rfl | ht
    · cases hrequest
    · unfold approvalTurns at ht
      split at ht
      · obtain rfl := List.mem_singleton.1 ht
        cases congrArg Transaction.gas (Request.send.inj hrequest)
      · cases ht
  · obtain rfl := List.mem_singleton.1 ht
    cases hrequest

/-- **A swap is sent after a complete preparation.** Whoever answers, a swap with a quote takes the
turns of a course, up to the first reply that fails, if there is one. It ends with a value exactly
if all the turns of a course are taken. The swap is sent by the wallet to the router, for the
amount, no least return, the route, the wallet and the deadline, and it is sent only after all that
comes before it has succeeded. -/
theorem swapWithQuote_keeps_its_course {σ : Type} (respond : Responder σ) (s : σ)
    (router wallet : Address) (amount : Word) (route : List Address) (gas deadline : Word) :
    let run := (swapWithQuote router wallet amount route gas deadline).runWith respond s
    let swap := Request.send
      { sender := some wallet, target := some router
        data := Contents.calling
          ("swapExactTokensForTokensSupportingFeeOnTransferTokens" ++
            "(uint256,uint256,address[],address,uint256)")
          [.uint amount, .uint 0, .addresses route, .address wallet, .uint deadline]
        value := none, gas := some gas }
    (∀ x : Course wallet router route, (x.swap amount gas deadline).request = swap) ∧
    (∃ x : Course wallet router route,
      Happens (x.turns amount gas deadline) x.quoted run.events run.outcome) ∧
    (∀ q, run.outcome = .value q ↔ ∃ x : Course wallet router route,
      q = x.quoted ∧ run.events = (x.turns amount gas deadline).map Turn.event) ∧
    (swap ∈ Event.requests run.events → ∃ (x : Course wallet router route) (reply : Reply swap),
      run.events = (x.preparation amount).map Turn.event ++ [.asked swap reply]) := by
  intro run swap
  obtain ⟨⟨x, hx⟩, hvalue⟩ := converses_swapWithQuote.run_course respond s
  refine ⟨fun _ => rfl, ⟨x, hx⟩, hvalue, fun hasked => ?_⟩
  obtain ⟨reply, h⟩ := hx.of_last_asked x.swap_not_in_preparation hasked
  exact ⟨x, reply, h⟩

/-- Where nothing fails, the swap is sent. -/
theorem swapWithQuote_keeps_its_course_sample :
    let router := Probe.sampleProfile.router
    let wallet := Probe.sampleBox.main
    let route := [Probe.sampleProfile.wrappedNative, Probe.sampleToken.address]
    let run := (swapWithQuote router wallet 5 route 21000 60).run (Probe.failingAt fun _ => false)
    let swap := Request.send (Contents.swap wallet router 5 route 21000 60)
    run.outcome.isValue = true ∧ swap ∈ Event.requests run.events ∧
      ∃ (x : Course wallet router route) (reply : Reply swap),
        run.events = (x.preparation 5).map Turn.event ++ [.asked swap reply] := by
  intro router wallet route run swap
  obtain ⟨-, -, hvalue, hprepared⟩ := swapWithQuote_keeps_its_course
    (Probe.failingAt fun _ => false).responder [] router wallet 5 route 21000 60
  have hgood : run.outcome.isValue = true := by decide +kernel
  obtain ⟨q, hq⟩ := Outcome.isValue_eq_true_iff.1 hgood
  obtain ⟨x, -, hevents⟩ := (hvalue q).1 hq
  have hasked : swap ∈ Event.requests run.events := by
    refine hevents ▸ ?_
    rw [requests_map_event]
    exact List.mem_map_of_mem (List.mem_append_right _ (List.mem_singleton.2 rfl))
  exact ⟨hgood, hasked, hprepared hasked⟩

end

end SellProbe.Swap
