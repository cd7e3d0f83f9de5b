import DrainGuard.Settings.Basic
import DrainGuard.Toml.Printer

/-!
# Settings as a document

* `Settings.sections`: the sections with their entries; a setting that is absent has none.
* `Settings.toToml`: the document, or a failure where a number has no place in it.
-/

namespace DrainGuard

open Toml (Entry Section)

/-- The largest number that a document can hold. -/
def maxDocumentNumber : Nat := 0x7FFFFFFFFFFFFFFF

/-- The entry of a setting that may be absent. -/
def optionalEntry (key : String) (value : Option String) : List (String × Entry) :=
  match value with
  | some s => [(key, .text s)]
  | none => []

/-- The section of the watch. -/
def MetadataSettings.toSection (s : MetadataSettings) : Section where
  name := "metadata"
  entries := [("endpoint", .text s.endpoint), ("poll_interval_secs", .number s.pollIntervalSecs),
    ("request_timeout_secs", .number s.requestTimeoutSecs)] ++
      optionalEntry "token_endpoint" s.tokenEndpoint

/-- The section of the shutdown. -/
def ShutdownSettings.toSection (s : ShutdownSettings) : Section where
  name := "shutdown"
  entries := [("warning_delay_secs", .number s.warningDelaySecs),
    ("grace_delay_secs", .number s.graceDelaySecs),
    ("exit_poll_interval_millis", .number s.exitPollIntervalMillis)]

/-- The section of the console. -/
def ControlSettings.toSection (s : ControlSettings) : Section where
  name := "control"
  entries := [("tmux_binary", .text s.tmuxBinary), ("target", .text s.target)] ++
    optionalEntry "pid_file" s.pidFile

/-- The section of the backups. -/
def BackupSettings.toSection (s : BackupSettings) : Section where
  name := "backup"
  entries := [("command", .text s.command), ("args", .texts s.args),
    ("scheduled_action", .text s.scheduledAction), ("pre_shutdown_action", .text s.preShutdownAction)]

/-- The section of the logs. -/
def LoggingSettings.toSection (s : LoggingSettings) : Section where
  name := "logging"
  entries := optionalEntry "file" s.file

namespace Settings

/-- All sections. -/
def sections (s : Settings) : List Section :=
  [s.metadata.toSection, s.shutdown.toSection, s.control.toSection, s.backup.toSection,
    s.logging.toSection]

/-- The numbers among the settings. -/
def numbers (s : Settings) : List Nat :=
  [s.metadata.pollIntervalSecs, s.metadata.requestTimeoutSecs, s.shutdown.warningDelaySecs,
    s.shutdown.graceDelaySecs, s.shutdown.exitPollIntervalMillis]

/-- The settings as a document. -/
def toToml (s : Settings) : Except Failure String :=
  if s.numbers.all (· ≤ maxDocumentNumber) then .ok (String.ofList (Toml.write s.sections))
  else .error (.serialization "out-of-range value for u64 type")

end Settings

end DrainGuard
