import SellProbe.Probe.PublicRouter
import SellProbe.Probe.TransitRouter

/-!
# Running a probe

A probe owns its sandbox. However its stages end, be it with a verdict, with a failure or in a
panic, the sentinel is locked and the sandbox destroyed, and the outcome becomes a verdict.
-/

namespace SellProbe.Probe

def stages (protocol : Protocol) (box : Sandbox) (profile : Profile) (config : Config)
    (token : Token) : Phase Verdict :=
  match protocol with
  | .publicRouter => PublicRouter.probe box profile config token
  | .transitRouter => TransitRouter.probe box profile config token

def verdictOf : Outcome Failure Verdict → Stage → Verdict
  | .value v, _ => v
  | .error f, _ => f.verdict
  | .panic _, stage => .failed stage.name Reason.unknownText

variable {ε : Type}

/-- Gives the sandbox back. Whether an error comes of destroying it cannot be told. -/
def destroy : Program ε Unit := .ask .destroy fun
  | .value _ => return ()
  | .error _ => return ()
  | .panic t => Program.panic t

/-- Locks the sentinel again; an error in this does not matter. -/
def lockSentinel (box : Sandbox) : Program ε Unit := do
  let _ ← (Program.request (.lock box.sentinel)).attempt

/-- Probes a token in a sandbox and gives the sandbox back. -/
def run (protocol : Protocol) (box : Sandbox) (profile : Profile) (config : Config)
    (token : Token) : Program ε Verdict := do
  let (outcome, stage) ← (stages protocol box profile config token).contain .prepare
  lockSentinel box
  destroy
  return verdictOf outcome stage

/-- Probes a token in a sandbox of its own. The only error is that no sandbox could be made. -/
def probeToken (protocol : Protocol) (box : Sandbox) (profile : Profile) (config : Config)
    (address : Address) : Session Verdict := do
  match ← (Program.request (.createSandbox profile.name)).attempt with
  | .error (e : ProbeError) => Program.fail (.unavailable e.message)
  | .ok _ =>
    match ← (Erc20.resolve address).attempt with
    | .error e => do
      destroy
      return (Failure.ofError .prepare e).verdict
    | .ok token => run protocol box profile config token

end SellProbe.Probe
