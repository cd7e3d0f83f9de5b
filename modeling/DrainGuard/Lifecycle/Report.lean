import DrainGuard.Backup.Outcome
import DrainGuard.Notice.Basic

/-!
# Exit codes, triggers and reports

* `ExitCode`: the codes a process of the guard ends with.
* `Report`: the result of one shutdown sequence; `Report.exitCode` is its code.
-/

namespace DrainGuard

namespace ExitCode

/-- All went well. -/
def ok : Nat := 0

/-- The backup failed. -/
def backupFailed : Nat := 1

/-- The shutdown sequence failed. -/
def sequenceFailed : Nat := 2

/-- The guard could not start. -/
def startupFailed : Nat := 3

/-- Another guard is at work. -/
def alreadyRunning : Nat := 4

end ExitCode

/-- What started a shutdown sequence. -/
inductive Trigger where
  /-- The metadata service announced the end of the machine. -/
  | notice (n : Notice)
  /-- An operator asked for it. -/
  | operator
  deriving DecidableEq

/-- The name of a trigger. -/
def Trigger.label : Trigger → String
  | notice _ => "notice"
  | operator => "operator"

/-- The result of one shutdown sequence. -/
structure Report where
  /-- The phase it ended in. -/
  finalPhase : Phase
  /-- Every phase it was in, from the start. -/
  history : List Phase
  /-- What the backup came to, if one was made. -/
  backup : Option BackupOutcome
  /-- The fault that made it fail. -/
  fault : Option String
  deriving DecidableEq

namespace Report

/-- A backup was made and succeeded. -/
def backupSucceeded (r : Report) : Bool := r.backup == some .success

/-- How many times the sequence entered the backup. -/
def backupAttempts (r : Report) : Nat := r.history.count .backingUp

/-- The code a process ends with after the sequence. -/
def exitCode (r : Report) : Nat :=
  if r.finalPhase = .completed then
    if r.backupSucceeded then ExitCode.ok else ExitCode.backupFailed
  else ExitCode.sequenceFailed

end Report

end DrainGuard
