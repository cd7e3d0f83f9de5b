import DrainGuard.Notice.Rfc3339
import DrainGuard.Json.Reader

/-!
# Reclaim notices

The metadata service announces what will happen to the machine and when.

* `ReclaimAction.parse`: blanks around the word and its case do not matter.
* `Notice.parse`: a notice from its JSON body.
* `Notice.remaining`: the time left, never negative.
-/

namespace DrainGuard

/-- What the cloud is about to do to the machine. -/
inductive ReclaimAction where
  /-- Stop it. -/
  | stop
  /-- Terminate it. -/
  | terminate
  /-- Hibernate it. -/
  | hibernate
  deriving DecidableEq

namespace ReclaimAction

/-- The word for an action. -/
def name : ReclaimAction → String
  | stop => "stop"
  | terminate => "terminate"
  | hibernate => "hibernate"

/-- The action that a word names. -/
def parse (word : String) : Option ReclaimAction :=
  let w := Text.lowerAscii (Text.trim word)
  if w = "stop" then some stop
  else if w = "terminate" then some terminate
  else if w = "hibernate" then some hibernate
  else none

end ReclaimAction

/-- The announced end of the machine. -/
structure Notice where
  /-- What will happen. -/
  action : ReclaimAction
  /-- When it will happen. -/
  scheduled : Moment
  deriving DecidableEq

namespace Notice

/-- Why a body is no notice. -/
inductive Fault where
  /-- The body is not JSON, or not of the right shape. -/
  | body (fault : Json.Fault)
  /-- The action is none of the known ones. -/
  | action (word : String)
  deriving DecidableEq

/-- The wording of a fault. -/
def Fault.message : Fault → String
  | body fault => fault.message
  | action word => "unrecognized action '" ++ word ++ "'"

/-- The value of one field of a body. -/
inductive Field where
  /-- The word for the action. -/
  | action (word : String)
  /-- The scheduled instant. -/
  | time (at_ : Moment)

/-- Reads the field of a name. -/
def field (name : String) : Json.Reader Field :=
  if name = "action" then
    Json.Reader.text "a string" fun s => .ok (.action s)
  else
    Json.Reader.text "an RFC 3339 formatted date and time string" fun s =>
      match Rfc3339.parse s with
      | .ok m => .ok (.time m)
      | .error e => .error e.text

/-- Reads the word for the action and the instant. -/
def raw : Json.Reader (String × Moment) := do
  let found ← Json.Reader.record "RawNotice" ["action", "time"] field
  match found.lookup "action", found.lookup "time" with
  | some (.action word), some (.time m) => return (word, m)
  | _, _ => Json.Reader.complain "missing field `action`"

/-- A notice from its body. -/
def parse (body : String) : Except Fault Notice :=
  match Json.Reader.whole raw body with
  | .error f => .error (.body f)
  | .ok (word, m) => match ReclaimAction.parse word with
    | some a => .ok ⟨a, m⟩
    | none => .error (.action word)

/-- The time left at `now`, zero when the scheduled instant has passed. -/
def remaining (n : Notice) (now : Moment) : Span := (n.scheduled.since now).clamp

/-- A notice in words. -/
def text (n : Notice) : String := n.action.name ++ " scheduled at " ++ Rfc3339.render n.scheduled

end Notice

end DrainGuard
