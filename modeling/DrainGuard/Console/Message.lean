import DrainGuard.Json.Writer
import DrainGuard.Text.Blank

/-!
# What is typed into the console

* `ConsoleCommand`: the commands that drain the server.
* `Broadcast`: messages to the players; `Broadcast.command` is the line that sends one. Urgent
  ones are JSON, so that their text cannot end the line.
* `singleLine`: a command kept on one line.
-/

namespace DrainGuard

/-- A command that drains the server. -/
inductive ConsoleCommand where
  /-- No more automatic saves. -/
  | saveOff
  /-- Flush the world. -/
  | saveAll
  /-- Automatic saves again. -/
  | saveOn
  /-- Stop the server. -/
  | stop
  deriving DecidableEq

/-- The text of a command. -/
def ConsoleCommand.text : ConsoleCommand → String
  | saveOff => "save-off"
  | saveAll => "save-all"
  | saveOn => "save-on"
  | stop => "stop"

/-- How urgent a message is. -/
inductive Severity where
  /-- News. -/
  | info
  /-- Something is about to happen. -/
  | warning
  /-- Something went wrong. -/
  | critical
  deriving DecidableEq

/-- A message to the players. -/
structure Broadcast where
  /-- What it says. -/
  text : String
  /-- How urgent it is. -/
  severity : Severity
  deriving DecidableEq

namespace Broadcast

/-- The content of an urgent message. -/
def payload (text color : String) (bold : Bool) : Json.Value :=
  .ofFields ([("text", .str ("[Server] " ++ text)), ("color", .str color)] ++
    if bold then [("bold", .bool true)] else [])

/-- The console line that sends a message. -/
def command (b : Broadcast) : String :=
  match b.severity with
  | .info => "say " ++ b.text
  | .warning => "tellraw @a " ++ (payload b.text "gold" false).compact
  | .critical => "tellraw @a " ++ (payload b.text "red" true).compact

/-- News. -/
def info (text : String) : Broadcast := ⟨text, .info⟩

/-- A warning. -/
def warning (text : String) : Broadcast := ⟨text, .warning⟩

/-- A message that something went wrong. -/
def critical (text : String) : Broadcast := ⟨text, .critical⟩

/-- A console line that sends a message. -/
def isCommand (line : String) : Bool := "say ".isPrefixOf line || "tellraw ".isPrefixOf line

end Broadcast

/-- A command with a blank for each carriage return and line feed. -/
def singleLine (command : String) : String :=
  String.ofList (command.toList.map fun c => if c = '\r' ∨ c = '\n' then ' ' else c)

end DrainGuard
