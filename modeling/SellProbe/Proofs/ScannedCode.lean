import SellProbe.Proofs.Appraisal
import SellProbe.Proofs.Dialogue
import SellProbe.Proofs.MinimalProxies

/-!
# Scanning nothing

Which code is scanned is known only after the code of the target has been read: it is that code, or
the code of an implementation. An address without code of its own is rejected, but the code of an
implementation is taken as it comes (`scanTarget_keeps_its_course`). So there are scans of no code
at all: those of a minimal proxy in front of an address without code (`exists_scan_of_nothing`).
-/

namespace SellProbe.Storage

open Program Liquidity

def present (code : Bytes) : Except ProbeError Bytes :=
  if code = [] then .error (.scan .emptyCode) else .ok code

/-- What is read for a scan that succeeds. The second code is that of the implementation, if the
first one is a minimal proxy. -/
structure CodeReading where
  code : Bytes
  code_ne_nil : code ≠ []
  implementation : Bytes

variable {address : Address}

theorem present_eq_ok_iff {code code' : Bytes} :
    present code = .ok code' ↔ code ≠ [] ∧ code = code' := by
  unfold present
  split <;> simp_all

def implementationTurns (code implementation : Bytes) : List Turn :=
  match Bytecode.proxyTarget? code with
  | some target => [.judged (r := .code target) .ok (rfl : _ = Except.ok implementation)]
  | none => []

namespace CodeReading

variable (x : CodeReading)

def scanned : Bytes := Liquidity.scanned x.code x.implementation

/-- The code of the target is read, which must not be empty, and then that of an implementation. -/
def turns (address : Address) : List Turn :=
  .judged (r := .code address) present (present_eq_ok_iff.2 ⟨x.code_ne_nil, rfl⟩) ::
    implementationTurns x.code x.implementation

theorem scanned_eq_nil_iff : x.scanned = [] ↔
    (∃ target, Bytecode.proxyTarget? x.code = some target) ∧ x.implementation = [] := by
  unfold scanned Liquidity.scanned
  cases Bytecode.proxyTarget? x.code with
  | some target => simp
  | none => simpa using x.code_ne_nil

end CodeReading

def scanBehind (code : Bytes) : Session Bytecode.Scan :=
  match Bytecode.proxyTarget? code with
  | some target => do return Bytecode.scan (← codeAt target)
  | none => return Bytecode.scan code

theorem scanTarget_eq : scanTarget address = judged (.code address) present >>= scanBehind := by
  unfold scanTarget judged
  rw [bind_assoc]
  refine congrArg (request (.code address) >>= ·) (funext fun (code : Bytes) => ?_)
  by_cases hcode : code = []
  · subst hcode
    rfl
  · rw [if_neg (by simpa using hcode), present, if_neg hcode]
    rfl

theorem converses_scanBehind (code : Bytes) : (scanBehind code).Converses fun scan ts =>
    ∃ implementation, scan = Bytecode.scan (Liquidity.scanned code implementation) ∧
      ts = implementationTurns code implementation := by
  unfold scanBehind Liquidity.scanned implementationTurns
  cases Bytecode.proxyTarget? code with
  | some target =>
    refine ((converses_request (.code target)).bind fun implementation =>
      converses_pure (Bytecode.scan implementation)).congr fun scan ts => ?_
    constructor
    · rintro ⟨implementation, _, _, rfl, rfl, rfl, rfl⟩
      exact ⟨implementation, rfl, rfl⟩
    · rintro ⟨implementation, rfl, rfl⟩
      exact ⟨implementation, _, _, (List.append_nil _).symm, rfl, rfl, rfl⟩
  | none =>
    refine (converses_pure (Bytecode.scan code)).congr fun scan ts => ?_
    simp

theorem converses_scanTarget : (scanTarget address).Converses fun scan ts =>
    ∃ x : CodeReading, scan = Bytecode.scan x.scanned ∧ ts = x.turns address := by
  have hpresent : ∃ code code', present code = .ok code' :=
    ⟨[0], [0], rfl⟩
  rw [scanTarget_eq]
  refine ((converses_judged (r := .code address) hpresent).bind converses_scanBehind).congr
    fun scan ts => ?_
  constructor
  · rintro ⟨_, _, _, rfl, ⟨code, hcode, rfl⟩, implementation, rfl, rfl⟩
    obtain ⟨hne, rfl⟩ := present_eq_ok_iff.1 hcode
    exact ⟨⟨code, hne, implementation⟩, rfl, rfl⟩
  · rintro ⟨x, rfl, rfl⟩
    exact ⟨x.code, [_], _, rfl, ⟨x.code, _, rfl⟩, x.implementation, rfl, rfl⟩

/-- Whoever answers, a scan reads the code of the target and then that of its implementation, if the
target is a minimal proxy, up to the first reading that fails; an answer without code is a failure
for the target's own code only. It succeeds exactly if these readings do, with the scan of the code
read last. An address without code of its own is rejected. What is scanned without being rejected is
no code at all exactly for a minimal proxy of an implementation without code. -/
theorem scanTarget_keeps_its_course {σ : Type} (respond : Responder σ) (s : σ) (address : Address) :
    let run := (scanTarget address).runWith respond s
    (∃ x : CodeReading,
      Happens (x.turns address) (Bytecode.scan x.scanned) run.events run.outcome) ∧
    (∀ scan, run.outcome = .value scan ↔ ∃ x : CodeReading,
      scan = Bytecode.scan x.scanned ∧ run.events = (x.turns address).map Turn.event) ∧
    ((respond s (.code address)).1 = .value [] →
      run.outcome = .error (.scan .emptyCode) ∧
        run.events = [.asked (.code address) (.value [])]) ∧
    ∀ x : CodeReading, x.scanned = [] ↔
      (∃ target, Bytecode.proxyTarget? x.code = some target) ∧ x.implementation = [] := by
  intro run
  obtain ⟨hcourse, hvalue⟩ := converses_scanTarget.run_course respond s
  refine ⟨hcourse, hvalue, fun hempty => ?_, CodeReading.scanned_eq_nil_iff⟩
  have hrun : run = ⟨.error (.scan .emptyCode), [.asked (.code address) (.value [])],
      (respond s (.code address)).2⟩ := by
    change Run.after (.asked (.code address) (respond s (.code address)).1)
      (runWith respond (Program.bind (.done (respond s (.code address)).1) _) _) = _
    rw [hempty]
    rfl
  rw [hrun]
  exact ⟨rfl, rfl⟩

def codelessProxy (address target : Address) : Backend
  | _, .code a => .value (if a = address then Bytecode.proxyOf target else ([] : Bytes))
  | _, _ => .error .closed

/-- A minimal proxy is scanned although the code behind it is empty, and the scan is no error. -/
theorem exists_scan_of_nothing :
    let address : Address := FixedBytes.fill 20 0x07
    let target : Address := FixedBytes.fill 20 0x11
    let run := (scanTarget address).run (codelessProxy address target)
    Bytecode.proxyTarget? (Bytecode.proxyOf target) = some target ∧
      run.events = [.asked (.code address) (.value (Bytecode.proxyOf target)),
        .asked (.code target) (.value [])] ∧
      run.outcome = .value (Bytecode.scan []) ∧ run.outcome ≠ .error (.scan .emptyCode) := by
  intro address target run
  have hproxy := Bytecode.proxyTarget?_proxyOf target
  have hpath : (scanTarget address).Path [.asked (.code address) (.value (Bytecode.proxyOf target)),
      .asked (.code target) (.value [])] (.value (Bytecode.scan [])) := by
    refine path_scanTarget_iff.2 ⟨Bytecode.proxyOf target, [], List.cons_ne_nil _ _, ?_, ?_⟩
    · rw [codeEvents, hproxy]
    · rw [Liquidity.scanned, hproxy]
  obtain ⟨hevents, houtcome⟩ := runWith_of_path (b := codelessProxy address target) hpath (by
    intro r reply hmem history
    rcases List.mem_cons.1 hmem with h | h
    · cases h
      rfl
    · cases List.mem_singleton.1 h
      rfl) []
  refine ⟨hproxy, hevents, houtcome, fun herror => ?_⟩
  cases houtcome.symm.trans herror

end SellProbe.Storage
