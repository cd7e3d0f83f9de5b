import DrainGuard.Backup.Outcome
import DrainGuard.Host.Program
import DrainGuard.Settings.Basic
import DrainGuard.Text.Utf8

/-!
# The backup agent

A program that makes backups. It is told by its last argument which kind of backup to make, and
its exit status tells how it went.

* `BackupSettings.action`: the argument for a kind of backup.
* `Output.detail`: the line of an output that says the most about a failure.
* `BackupSettings.outcome`: what a run of the agent came to.
-/

namespace DrainGuard

namespace Output

/-- The last line of bytes that is not blank, without the blanks around it. -/
def lastLine? (bytes : List UInt8) : Option (List Char) := Text.lastLine? (Text.decode bytes)

/-- What is said where a program wrote nothing. -/
def nothing : String := "no output"

/-- The last thing that a program wrote: about errors, or else at all. -/
def detail (o : Output) : String :=
  (((lastLine? o.err).or (lastLine? o.out)).map String.ofList).getD nothing

end Output

namespace BackupSettings

/-- The action that a mode stands for. -/
def action (s : BackupSettings) : BackupMode → String
  | .scheduled => s.scheduledAction
  | .preShutdown => s.preShutdownAction

/-- The arguments of the agent. -/
def arguments (s : BackupSettings) (mode : BackupMode) : List String := s.args ++ [s.action mode]

/-- What a run of the agent came to. -/
def outcome (s : BackupSettings) (mode : BackupMode) :
    Except StartError Output → BackupOutcome
  | .error e => .failure ("failed to start " ++ s.command ++ ": " ++ e.text)
  | .ok o =>
    if o.status.isSuccess then .success
    else .failure (s.command ++ " " ++ s.action mode ++ " exited with " ++ o.status.text ++ ": " ++
      o.detail)

end BackupSettings

end DrainGuard
