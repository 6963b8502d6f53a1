import SellProbe.Proofs.Protocol

/-!
# Every probe gives its sandbox back

However the stages of a probe end, it then locks the sentinel, destroys the sandbox and returns a
verdict, as long as these two requests do not themselves panic (`run_eq`). The stages ask for
neither, so the two are the last requests and the only ones of their kind
(`run_releases_sandbox`). What is replied to the lock does not matter.
-/

namespace SellProbe

/-- Locking an account and destroying the sandbox may fail, but they do not panic. -/
def Backend.Releases (b : Backend) : Prop :=
  (∀ h a t, b h (.lock a) ≠ .panic t) ∧ ∀ h t, b h .destroy ≠ .panic t

namespace Probe

open Program

variable {ε : Type} (protocol : Protocol) (box : Sandbox) (profile : Profile) (config : Config)
  (token : Token)

/-- The two requests that give a sandbox back, with their replies, after some others. -/
def releaseEvents (b : Backend) (box : Sandbox) (h : List Request) : List Event :=
  [.asked (.lock box.sentinel) (b h (.lock box.sentinel)),
    .asked .destroy (b (h ++ [.lock box.sentinel]) .destroy)]

theorem runWith_lockSentinel {b : Backend} (hb : b.Releases) (h : List Request) :
    (lockSentinel box : Program ε Unit).runWith b.responder h =
      ⟨.value (), [.asked (.lock box.sentinel) (b h (.lock box.sentinel))],
        h ++ [.lock box.sentinel]⟩ := by
  have hlock := hb.1 h box.sentinel
  unfold lockSentinel
  rw [bind_eq, runWith_bind, runWith_attempt]
  simp only [request, runWith, Run.after, Backend.responder]
  cases hr : b h (.lock box.sentinel) with
  | value u => rfl
  | error e => rfl
  | panic t => exact absurd hr (hlock t)

theorem runWith_destroy {b : Backend} (hb : b.Releases) (h : List Request) :
    (destroy : Program ε Unit).runWith b.responder h =
      ⟨.value (), [.asked .destroy (b h .destroy)], h ++ [.destroy]⟩ := by
  have hdestroy := hb.2 h
  simp only [destroy, runWith, Run.after, Backend.responder]
  cases hr : b h .destroy with
  | value u => rfl
  | error e => rfl
  | panic t => exact absurd hr (hdestroy t)

/-- A run of a probe: its stages, whatever they end in, then the release of the sandbox. -/
theorem run_eq {b : Backend} (hb : b.Releases) :
    (run protocol box profile config token : Program ε Verdict).run b =
      let work := (stages protocol box profile config token).run b
      ⟨.value (verdictOf work.outcome (Event.lastStage .prepare work.events)),
        work.events ++ releaseEvents b box work.state,
        work.state ++ [.lock box.sentinel, .destroy]⟩ := by
  unfold run Program.run
  rw [bind_eq, runWith_bind, runWith_contain]
  simp only [Run.andThen, bind_eq, runWith_bind, runWith_lockSentinel box hb,
    runWith_destroy hb, pure_eq, runWith, releaseEvents, List.append_assoc, List.cons_append,
    List.nil_append, List.append_nil]

theorem outcome_run {b : Backend} (hb : b.Releases) :
    ((run protocol box profile config token : Program ε Verdict).run b).outcome =
      .value (verdictOf ((stages protocol box profile config token).run b).outcome
        (Event.lastStage .prepare ((stages protocol box profile config token).run b).events)) :=
  congrArg Run.outcome (run_eq protocol box profile config token hb)

theorem requests_run {b : Backend} (hb : b.Releases) :
    Event.requests ((run protocol box profile config token : Program ε Verdict).run b).events =
      Event.requests ((stages protocol box profile config token).run b).events ++
        [.lock box.sentinel, .destroy] := by
  rw [run_eq protocol box profile config token hb, Event.requests_append]
  rfl

theorem stages_run {b : Backend} (hb : b.Releases) :
    Event.stages ((run protocol box profile config token : Program ε Verdict).run b).events =
      Event.stages ((stages protocol box profile config token).run b).events := by
  rw [run_eq protocol box profile config token hb, Event.stages_append]
  exact List.append_nil _

/-- No request of the stages makes a sandbox or gives one back. -/
theorem isWork_of_mem_requests (b : Backend) :
    ∀ r ∈ Event.requests ((stages protocol box profile config token).run b).events,
      r.isWork = true :=
  (stages_keeps box profile config token protocol).isWork (path_runWith _ _ _)

/-- Backends that differ in their replies to a lock only are the same to the stages. -/
theorem run_stages_congr {b b' : Backend} (h : ∀ h r, (∀ a, r ≠ .lock a) → b' h r = b h r) :
    (stages protocol box profile config token).run b' =
      (stages protocol box profile config token).run b := by
  have hpath : ∀ es o, (stages protocol box profile config token).Path es o →
      ∀ r ∈ Event.requests es, r.isWork = true :=
    fun es o => (stages_keeps box profile config token protocol).isWork
  refine runWith_congr _ hpath (fun s r hr => ?_) []
  have hlock : ∀ a, r ≠ .lock a := by
    rintro a rfl
    cases hr
  simp only [Backend.responder, h s r hlock]

/-- **A probe always returns a verdict and always gives its sandbox back.** The last two requests
lock the sentinel and destroy the sandbox, no earlier request does either, and the reply to the lock
changes nothing. -/
theorem run_releases_sandbox {b : Backend} (hb : b.Releases) :
    let probe : Program ε Verdict := run protocol box profile config token
    (∃ v, (probe.run b).outcome = .value v) ∧
    (∃ w, Event.requests (probe.run b).events = w ++ [.lock box.sentinel, .destroy] ∧
      ∀ r ∈ w, (∀ a, r ≠ .lock a) ∧ r ≠ .destroy) ∧
    ∀ b' : Backend, b'.Releases → (∀ h r, (∀ a, r ≠ .lock a) → b' h r = b h r) →
      Event.requests (probe.run b').events = Event.requests (probe.run b).events ∧
      (probe.run b').outcome = (probe.run b).outcome := by
  intro probe
  refine ⟨⟨_, outcome_run protocol box profile config token hb⟩,
    ⟨_, requests_run protocol box profile config token hb, fun r hr => ?_⟩, fun b' hb' hsame => ?_⟩
  · have hwork := isWork_of_mem_requests protocol box profile config token b r hr
    refine ⟨?_, ?_⟩
    · rintro a rfl
      cases hwork
    · rintro rfl
      cases hwork
  · have hstages := run_stages_congr protocol box profile config token hsame
    rw [requests_run protocol box profile config token hb',
      outcome_run protocol box profile config token hb', hstages]
    exact ⟨(requests_run protocol box profile config token hb).symm,
      (outcome_run protocol box profile config token hb).symm⟩

/-! ## Probes to look at -/

def sampleBox : Sandbox where
  main := FixedBytes.fill 20 0xa1
  transit := FixedBytes.fill 20 0xb2
  sentinel := sentinelAddress
  clock := fun _ => 0

def sampleProfile : Profile where
  name := "fakenet"
  chainId := 1337
  rpc := ""
  wrappedNative := FixedBytes.fill 20 0xc0
  router := FixedBytes.fill 20 0x70
  factory := FixedBytes.fill 20 0xfa
  burnAddresses := []
  lockers := Directory.ofList []

def sampleToken : Token where
  address := FixedBytes.fill 20 0x07
  symbol := ""
  name := none
  decimals := 18

def isGood : Outcome ε Verdict → Bool
  | .value v => v.isSellable
  | _ => false

/-- A backend that panics whenever it can, and refuses to lock. -/
def hostileBackend : Backend := fun _ r =>
  match r with
  | .lock _ => .error .closed
  | .destroy => .value ()
  | _ => .panic ""

theorem hostileBackend_releases : hostileBackend.Releases := by
  refine ⟨fun h a t => ?_, fun h t => ?_⟩ <;> simp [hostileBackend]

/-- Even a backend that panics at the first request gets its sandbox back. -/
theorem run_releases_sandbox_hostile :
    let probe : Program ProbeError Verdict :=
      run .publicRouter sampleBox sampleProfile {} sampleToken
    hostileBackend.Releases ∧ (∃ v, (probe.run hostileBackend).outcome = .value v) ∧
    (∃ w, Event.requests (probe.run hostileBackend).events =
        w ++ [.lock sampleBox.sentinel, .destroy] ∧
      ∀ r ∈ w, (∀ a, r ≠ .lock a) ∧ r ≠ .destroy) ∧
    ∀ b' : Backend, b'.Releases → (∀ h r, (∀ a, r ≠ .lock a) → b' h r = hostileBackend h r) →
      Event.requests (probe.run b').events = Event.requests (probe.run hostileBackend).events ∧
      (probe.run b').outcome = (probe.run hostileBackend).outcome :=
  ⟨hostileBackend_releases,
    run_releases_sandbox .publicRouter sampleBox sampleProfile {} sampleToken
      hostileBackend_releases⟩

def sampleLogs : List Log :=
  [{ emitter := sampleProfile.wrappedNative, topics := [Swap.withdrawalTopic, FixedBytes.zero 32]
     data := Abi.word 900 },
   { emitter := sampleProfile.router, topics := [Swap.transitSwapTopic]
     data := Abi.word 1000 ++ Abi.word 950 },
   { emitter := sampleProfile.router, topics := [Swap.transitBalanceTopic]
     data := Abi.word 0 ++ Abi.word 950 }]

/-- A backend that fails some requests and obliges otherwise. The router quotes a thousand, and all
other numbers grow with the requests. -/
def failingAt (fails : Request → Bool) : Backend := fun h r =>
  if fails r then .error .closed
  else match r with
    | .call tx =>
      .value (if tx.target = some sampleProfile.router then [32, 1, 1000].flatMap Abi.word
        else Abi.word (100 + h.length))
    | .send _ =>
      .value { Receipt.blank with created := some (FixedBytes.fill 20 0x77), logs := sampleLogs }
    | .code _ => .value []
    | .storage _ _ => .value (FixedBytes.zero 32)
    | .balance _ | .gasPrice => .value (0 : Word)
    | .trace _ => .error .closed
    | .mine _ | .setStorage _ _ _ | .unlock _ | .lock _ | .createSandbox _ | .destroy => .value ()

theorem failingAt_ne_panic (fails : Request → Bool) (h : List Request) (r : Request) (t : String) :
    failingAt fails h r ≠ .panic t := by
  unfold failingAt
  split
  · simp
  · cases r <;> simp

theorem failingAt_releases (fails : Request → Bool) : (failingAt fails).Releases :=
  ⟨fun h _ => failingAt_ne_panic fails h _, fun h => failingAt_ne_panic fails h _⟩

end Probe

end SellProbe
