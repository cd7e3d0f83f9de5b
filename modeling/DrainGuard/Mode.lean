import DrainGuard.Text.Blank

/-!
# Modes

* `RunMode`: what a guard does once it runs.
* `RunMode.ofName`: a mode by its name, with or without regard to case.
-/

namespace DrainGuard

/-- What a guard does once it runs. -/
inductive RunMode where
  /-- Watch for a notice and drain the server when one comes. -/
  | daemon
  /-- Drain the server now. -/
  | active
  /-- Make a backup while the server keeps running. -/
  | backup
  deriving DecidableEq, Inhabited

namespace RunMode

/-- The name of a mode. -/
def name : RunMode → String
  | daemon => "daemon"
  | active => "active"
  | backup => "backup"

/-- The name of a mode as a title. -/
def title : RunMode → String
  | daemon => "Daemon"
  | active => "Active"
  | backup => "Backup"

/-- All modes, in the order in which they are listed. -/
def all : List RunMode := [daemon, active, backup]

/-- What a mode is for. -/
def purpose : RunMode → String
  | daemon => "Poll instance metadata and drain the server when a notice appears"
  | active => "Drain, stop and back up the server right now"
  | backup => "Back up while the server keeps running"

/-- The mode of a name. Only ASCII letters have a case to disregard. -/
def ofName? (anyCase : Bool) (text : String) : Option RunMode :=
  let text := if anyCase then Text.lowerAscii text else text
  all.find? fun m => m.name = text

/-- The mode of a name, or a complaint. -/
def ofName (anyCase : Bool) (text : String) : Except String RunMode :=
  match ofName? anyCase text with
  | some m => .ok m
  | none => .error ("invalid variant: " ++ text)

end RunMode

end DrainGuard
