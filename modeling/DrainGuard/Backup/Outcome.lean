import DrainGuard.Failure

/-!
# Backups and their outcomes

* `BackupMode`: when the backup runs relative to the server's life.
* `BackupOutcome`: success, or a reason why not.
-/

namespace DrainGuard

/-- When a backup runs. -/
inductive BackupMode where
  /-- The server keeps running. -/
  | scheduled
  /-- The server has exited. -/
  | preShutdown
  deriving DecidableEq

/-- The name of a mode. -/
def BackupMode.name : BackupMode → String
  | scheduled => "scheduled"
  | preShutdown => "pre-shutdown"

/-- What a backup came to. -/
inductive BackupOutcome where
  /-- The world is archived. -/
  | success
  /-- It is not, and why. -/
  | failure (reason : String)
  deriving DecidableEq

namespace BackupOutcome

/-- The world is archived. -/
def isSuccess : BackupOutcome → Bool
  | success => true
  | failure _ => false

/-- The outcome as a cause of failure. -/
def toExcept : BackupOutcome → Except Failure Unit
  | success => .ok ()
  | failure reason => .error (.backupFailed reason)

end BackupOutcome

end DrainGuard
