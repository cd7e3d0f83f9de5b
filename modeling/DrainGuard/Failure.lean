import DrainGuard.Lifecycle.Phase

/-!
# What can go wrong

* `Failure`: the causes that the guard reports.
* `Failure.text`: their wording.
* `Failure.isTransient`: the causes that the poll loop takes for "no notice".
-/

namespace DrainGuard

/-- What is wrong with a configuration. -/
inductive ConfigFault where
  /-- A configuration file that does not parse. -/
  | unreadable
  /-- A setting of the wrong type; names its source and its key where they are known. -/
  | wrongType (found expected : String) (source key : Option String)
  /-- A complaint in words. -/
  | complaint (text : String)
  /-- Any other fault, with its wording. -/
  | other (text : String)
  deriving DecidableEq

/-- The wording of a fault. -/
def ConfigFault.text : ConfigFault → String
  | unreadable => "unreadable configuration file"
  | wrongType found expected source key =>
    "invalid type: " ++ found ++ ", expected " ++ expected ++
      (match key with | some k => " for key `" ++ k ++ "`" | none => "") ++
      (match source with | some s => " in " ++ s | none => "")
  | complaint text => text
  | other text => text

/-- A cause of failure. -/
inductive Failure where
  /-- The metadata service gave no answer. -/
  | metadataUnreachable (message : String)
  /-- The metadata service gave an answer that is no notice. -/
  | metadataParse (message : String)
  /-- The console cannot be reached. -/
  | channelUnavailable (target message : String)
  /-- The backup failed. -/
  | backupFailed (reason : String)
  /-- The rules of the lifecycle forbid the move. -/
  | invalidMove (source target : Phase)
  /-- Another guard holds the lock at `path`; `pid` is what it wrote there, 0 if nothing. -/
  | alreadyRunning (path : String) (pid : Nat)
  /-- The configuration is not usable. -/
  | configuration (fault : ConfigFault)
  /-- The operating system refused. -/
  | io (message : String)
  /-- A configuration cannot be rendered. -/
  | serialization (message : String)
  /-- Anything else. -/
  | system (message : String)
  deriving DecidableEq

namespace Failure

/-- The wording of a cause. -/
def text : Failure → String
  | metadataUnreachable m => "Metadata endpoint unreachable: " ++ m
  | metadataParse m => "Metadata response could not be parsed: " ++ m
  | channelUnavailable target m => "Control channel unavailable for '" ++ target ++ "': " ++ m
  | backupFailed reason => "Backup failed: " ++ reason
  | invalidMove source target =>
    "Invalid lifecycle transition from " ++ source.name ++ " to " ++ target.name
  | alreadyRunning path pid => "Another guard (pid " ++ toString pid ++ ") already holds " ++ path
  | configuration fault => "Configuration error: " ++ fault.text
  | io m => "IO error: " ++ m
  | serialization m => "Serialization error: " ++ m
  | system m => "System error: " ++ m

/-- The poll loop takes the cause for "no notice" and tries again. -/
def isTransient : Failure → Bool
  | metadataUnreachable _ | metadataParse _ => true
  | _ => false

end Failure

end DrainGuard
