import DrainGuard.Failure
import DrainGuard.Text.Blank

/-!
# Settings

* `Settings`: everything that can be configured, in five sections. A field that is not given has its
  `Default`.
* `Settings.default`: the settings where nothing is configured.
* `Settings.problem?`: the first value that makes no sense, if any.
-/

namespace DrainGuard

/-! ## Defaults -/

namespace Default

def endpoint : String := "http://169.254.169.254/latest/meta-data/spot/instance-action"

def pollIntervalSecs : Nat := 5

def requestTimeoutSecs : Nat := 2

def warningDelaySecs : Nat := 30

def graceDelaySecs : Nat := 15

def exitPollIntervalMillis : Nat := 1000

def tmuxBinary : String := "tmux"

def target : String := "minecraft"

def command : String := "prospector"

def scheduledAction : String := "backup"

def preShutdownAction : String := "backup_current"

end Default

/-! ## Sections -/

/-- How notices are looked for. -/
structure MetadataSettings where
  /-- Where notices appear. -/
  endpoint : String := Default.endpoint
  /-- Seconds between two looks. -/
  pollIntervalSecs : Nat := Default.pollIntervalSecs
  /-- Seconds that a request may take. -/
  requestTimeoutSecs : Nat := Default.requestTimeoutSecs
  /-- Where session tokens come from; without it requests carry none. -/
  tokenEndpoint : Option String := none
  deriving DecidableEq

/-- The pace of a shutdown. -/
structure ShutdownSettings where
  /-- Seconds between the warning and the first save command. -/
  warningDelaySecs : Nat := Default.warningDelaySecs
  /-- Seconds between `save-off`, `save-all` and `stop`. -/
  graceDelaySecs : Nat := Default.graceDelaySecs
  /-- Milliseconds between two looks at the server process. -/
  exitPollIntervalMillis : Nat := Default.exitPollIntervalMillis
  deriving DecidableEq

/-- How the console is reached. -/
structure ControlSettings where
  /-- The terminal multiplexer's program. -/
  tmuxBinary : String := Default.tmuxBinary
  /-- The session or pane of the server. -/
  target : String := Default.target
  /-- A file that holds the server's process id, relative to the server root. -/
  pidFile : Option String := none
  deriving DecidableEq

/-- How backups are made. -/
structure BackupSettings where
  /-- The backup agent's program. -/
  command : String := Default.command
  /-- Arguments before the action. -/
  args : List String := []
  /-- The action while the server runs. -/
  scheduledAction : String := Default.scheduledAction
  /-- The action after the server has exited. -/
  preShutdownAction : String := Default.preShutdownAction
  deriving DecidableEq

/-- Where logs go. -/
structure LoggingSettings where
  /-- A file for log lines, besides standard error. -/
  file : Option String := none
  deriving DecidableEq

/-- Everything that can be configured. -/
structure Settings where
  /-- How notices are looked for. -/
  metadata : MetadataSettings := {}
  /-- The pace of a shutdown. -/
  shutdown : ShutdownSettings := {}
  /-- How the console is reached. -/
  control : ControlSettings := {}
  /-- How backups are made. -/
  backup : BackupSettings := {}
  /-- Where logs go. -/
  logging : LoggingSettings := {}
  deriving DecidableEq

namespace MetadataSettings

/-- The time between two looks in milliseconds. -/
def pollInterval (s : MetadataSettings) : Nat := s.pollIntervalSecs * 1000

/-- The time that a request may take in milliseconds. -/
def requestTimeout (s : MetadataSettings) : Nat := s.requestTimeoutSecs * 1000

end MetadataSettings

namespace ShutdownSettings

/-- The warning delay in milliseconds. -/
def warningDelay (s : ShutdownSettings) : Nat := s.warningDelaySecs * 1000

/-- The grace delay in milliseconds. -/
def graceDelay (s : ShutdownSettings) : Nat := s.graceDelaySecs * 1000

end ShutdownSettings

/-- The pace where nothing is configured. -/
def ShutdownSettings.default : ShutdownSettings where
  warningDelaySecs := Default.warningDelaySecs
  graceDelaySecs := Default.graceDelaySecs
  exitPollIntervalMillis := Default.exitPollIntervalMillis

namespace Settings

/-- The settings where nothing is configured. -/
def default : Settings where
  metadata :=
    { endpoint := Default.endpoint
      pollIntervalSecs := Default.pollIntervalSecs
      requestTimeoutSecs := Default.requestTimeoutSecs
      tokenEndpoint := none }
  shutdown := .default
  control := { tmuxBinary := Default.tmuxBinary, target := Default.target, pidFile := none }
  backup :=
    { command := Default.command
      args := []
      scheduledAction := Default.scheduledAction
      preShutdownAction := Default.preShutdownAction }
  logging := { file := none }

/-- The first value that makes no sense. -/
def problem? (s : Settings) : Option String :=
  if Text.isBlankText s.metadata.endpoint then some "Metadata endpoint must not be empty"
  else if s.metadata.pollIntervalSecs = 0 then
    some "Metadata poll_interval_secs must be greater than 0"
  else if s.shutdown.exitPollIntervalMillis = 0 then
    some "Shutdown exit_poll_interval_millis must be greater than 0"
  else if Text.isBlankText s.control.target then some "Control target must not be empty"
  else if Text.isBlankText s.backup.command then some "Backup command must not be empty"
  else if Text.isBlankText s.backup.scheduledAction || Text.isBlankText s.backup.preShutdownAction
    then some "Backup actions must not be empty"
  else none

/-- A path taken relative to a directory, unless it is absolute. -/
def joinPath (dir file : String) : String :=
  if file.toList.head? = some '/' ∨ dir.isEmpty then file
  else if dir.toList.getLast? = some '/' then dir ++ file
  else dir ++ "/" ++ file

/-- Where the process id file lies for a server root. -/
def pidPath (s : Settings) (root : String) : Option String :=
  s.control.pidFile.map (joinPath root)

end Settings

end DrainGuard
