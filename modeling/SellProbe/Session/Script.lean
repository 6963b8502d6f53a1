import SellProbe.Session.Run
import SellProbe.Session.View

/-!
# Scripted chains

A chain that answers from rules. A rule applies to the requests that have all the parts that it
names, and hands out its replies one after another; the last one it repeats. The first rule that
applies answers, and without one a request has a reply of its own.
-/

namespace SellProbe

inductive ScriptedReply
  | answer (j : Json)
  | error (e : ProbeError)
  | panic (text : String)

/-- A rule: the parts of the requests it answers, its next reply, and the replies after that. -/
structure Rule where
  conditions : List (String × Json)
  reply : ScriptedReply
  later : List ScriptedReply

namespace Rule

/-- Whether a request has a part. Of call data only the start has to agree. -/
def agrees (entry : List (String × Json)) (condition : String × Json) : Bool :=
  match entry.lookup condition.1 with
  | none => false
  | some part =>
    if condition.1 = "data" then
      match condition.2, part with
      | .string (some start), .string (some whole) => start.toList.isPrefixOf whole.toList
      | _, _ => false
    else part == condition.2

def applies (rule : Rule) (entry : List (String × Json)) : Bool :=
  rule.conditions.all (agrees entry)

def advance (rule : Rule) : Rule :=
  match rule.later with
  | [] => rule
  | reply :: later => { rule with reply, later }

end Rule

/-- A scripted chain: its rules, and how many requests it has had. -/
structure Script where
  rules : List Rule
  asked : Nat := 0

namespace Script

def pick (entry : List (String × Json)) : List Rule → Option ScriptedReply × List Rule
  | [] => (none, [])
  | rule :: rules =>
    if rule.applies entry then (some rule.reply, rule.advance :: rules)
    else
      let (reply, rules) := pick entry rules
      (reply, rule :: rules)

def usualReply : (r : Request) → Reply r
  | .call _ => .error (.rpc "no rule")
  | .send _ => .value Receipt.blank
  | .code _ => .value ([] : Bytes)
  | .storage _ _ => .value (FixedBytes.zero 32 : Hash)
  | .balance _ | .gasPrice => .value (0 : Word)
  | .trace _ => .value ExecutionTrace.blank
  | .mine _ | .setStorage _ _ _ | .unlock _ | .lock _ | .createSandbox _ | .destroy => .value ()

/-- A scripted reply as a reply to a request. An answer that cannot be read is an error. -/
def replyOf (r : Request) : ScriptedReply → Reply r
  | .answer j =>
    match r.readAnswer j with
    | .ok a => .value a
    | .error e => .error e
  | .error e => .error e
  | .panic text => .panic text

/-- Answers one request. Destroying the sandbox always succeeds. -/
def respond : Responder Script := fun s r =>
  let next := { s with asked := s.asked + 1 }
  match r with
  | .destroy => (.value (), next)
  | r =>
    match pick (r.entry s.asked) s.rules with
    | (some reply, rules) => (replyOf r reply, { next with rules })
    | (none, _) => (usualReply r, next)

end Script

end SellProbe
