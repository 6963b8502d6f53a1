import SellProbe.Probe.Stage
import SellProbe.Session.Error
import SellProbe.Text.Blank
import SellProbe.Text.Search
import SellProbe.Verdict

/-!
# Failures of a probe

A stage fails with an error of the session, whose text tells whether a contract has refused the
transaction and for what reason. The reason is what stands behind the first colon after the first
revert marker.
-/

namespace SellProbe

inductive Reason
  | reverted (reason : String)
  | revertedSilently
  | unknown
deriving DecidableEq

namespace Reason

/-- The texts by which nodes report that a contract has refused a transaction. -/
def markers : List String := ["VM Exception", "execution reverted"]

def silentText : String := "Honeypot test failed without a reason"

def unknownText : String := "Honeypot test failed with a unknown reason"

def classify (message : String) : Reason :=
  match Text.fromFirst? (markers.map String.toList) message.toList with
  | some tail =>
    match Text.after? ':' tail with
    | some behind =>
      let reason := Text.trim behind
      if reason.isEmpty then .revertedSilently else .reverted (String.ofList reason)
    | none => .revertedSilently
  | none =>
    if Text.occurs "without".toList message.toList then .revertedSilently else .unknown

/-- The reason that an error tells. A transaction mined as failed has none. -/
def ofError : ProbeError → Reason
  | .reverted _ => .revertedSilently
  | e => classify e.message

def message : Reason → String
  | .reverted reason => reason
  | .revertedSilently => silentText
  | .unknown => unknownText

end Reason

structure Failure where
  stage : Stage
  reason : Reason
deriving DecidableEq

namespace Failure

def ofError (stage : Stage) (e : ProbeError) : Failure := ⟨stage, .ofError e⟩

def verdict (f : Failure) : Verdict := .failed f.stage.name f.reason.message

end Failure

end SellProbe
