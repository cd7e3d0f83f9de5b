import DrainGuard.Settings.Render
import DrainGuard.Proofs.Toml.Documents

/-!
# The settings one by one

- **Settings** (`Setting`): each by its section, its key and the kind of value that it holds.
- **Values** (`Settings.get`): what each of them has. Settings that agree in each are the same
  (`Settings.ext_get`).
-/

namespace DrainGuard

open Toml (Entry Value Section)

/-- A kind of value. -/
inductive Kind where
  /-- A text. -/
  | text
  /-- A number. -/
  | number
  /-- A list of texts. -/
  | texts
  deriving DecidableEq

/-- The kind of an entry. -/
def Toml.Entry.kind : Entry → Kind
  | .text _ => .text
  | .number _ => .number
  | .texts _ => .texts

/-- One of the settings. -/
inductive Setting where
  | endpoint | pollInterval | requestTimeout | tokenEndpoint
  | warningDelay | graceDelay | exitPollInterval
  | tmuxBinary | target | pidFile
  | command | args | scheduledAction | preShutdownAction
  | logFile
  deriving DecidableEq

namespace Setting

/-- The section of a setting, its key there and what it holds. -/
def place : Setting → String × String × Kind
  | endpoint => ("metadata", "endpoint", .text)
  | pollInterval => ("metadata", "poll_interval_secs", .number)
  | requestTimeout => ("metadata", "request_timeout_secs", .number)
  | tokenEndpoint => ("metadata", "token_endpoint", .text)
  | warningDelay => ("shutdown", "warning_delay_secs", .number)
  | graceDelay => ("shutdown", "grace_delay_secs", .number)
  | exitPollInterval => ("shutdown", "exit_poll_interval_millis", .number)
  | tmuxBinary => ("control", "tmux_binary", .text)
  | target => ("control", "target", .text)
  | pidFile => ("control", "pid_file", .text)
  | command => ("backup", "command", .text)
  | args => ("backup", "args", .texts)
  | scheduledAction => ("backup", "scheduled_action", .text)
  | preShutdownAction => ("backup", "pre_shutdown_action", .text)
  | logFile => ("logging", "file", .text)

/-- The section of a setting. -/
def sectionName (x : Setting) : String := x.place.1

/-- The key of a setting. -/
def key (x : Setting) : String := x.place.2.1

/-- What a setting holds. -/
def kind (x : Setting) : Kind := x.place.2.2

/-- The keys alone tell the settings apart. -/
theorem key_injective {x y : Setting} (h : x.key = y.key) : x = y := by
  cases x <;> cases y <;> first | rfl | exact absurd h (by decide)

end Setting

namespace Settings

/-- What a setting has; none if it is absent. -/
def get (s : Settings) : Setting → Option Entry
  | .endpoint => some (.text s.metadata.endpoint)
  | .pollInterval => some (.number s.metadata.pollIntervalSecs)
  | .requestTimeout => some (.number s.metadata.requestTimeoutSecs)
  | .tokenEndpoint => s.metadata.tokenEndpoint.map .text
  | .warningDelay => some (.number s.shutdown.warningDelaySecs)
  | .graceDelay => some (.number s.shutdown.graceDelaySecs)
  | .exitPollInterval => some (.number s.shutdown.exitPollIntervalMillis)
  | .tmuxBinary => some (.text s.control.tmuxBinary)
  | .target => some (.text s.control.target)
  | .pidFile => s.control.pidFile.map .text
  | .command => some (.text s.backup.command)
  | .args => some (.texts s.backup.args)
  | .scheduledAction => some (.text s.backup.scheduledAction)
  | .preShutdownAction => some (.text s.backup.preShutdownAction)
  | .logFile => s.logging.file.map .text

/-- Settings are told apart by what the single settings have. -/
theorem ext_get {s t : Settings} (h : ∀ x, s.get x = t.get x) : s = t := by
  have text {a b : String} (h : some (Entry.text a) = some (.text b)) : a = b := by cases h; rfl
  have number {a b : Nat} (h : some (Entry.number a) = some (.number b)) : a = b := by cases h; rfl
  have texts {a b : List String} (h : some (Entry.texts a) = some (.texts b)) : a = b := by
    cases h; rfl
  have optional {a b : Option String} (h : a.map Entry.text = b.map Entry.text) : a = b :=
    Option.map_inj_right (fun _ _ h => Entry.text.inj h) |>.mp h
  obtain ⟨⟨_, _, _, _⟩, ⟨_, _, _⟩, ⟨_, _, _⟩, ⟨_, _, _, _⟩, ⟨_⟩⟩ := s
  obtain ⟨⟨_, _, _, _⟩, ⟨_, _, _⟩, ⟨_, _, _⟩, ⟨_, _, _, _⟩, ⟨_⟩⟩ := t
  simp only [mk.injEq, MetadataSettings.mk.injEq, ShutdownSettings.mk.injEq,
    ControlSettings.mk.injEq, BackupSettings.mk.injEq, LoggingSettings.mk.injEq]
  exact ⟨⟨text (h .endpoint), number (h .pollInterval), number (h .requestTimeout),
    optional (h .tokenEndpoint)⟩, ⟨number (h .warningDelay), number (h .graceDelay),
    number (h .exitPollInterval)⟩, ⟨text (h .tmuxBinary), text (h .target), optional (h .pidFile)⟩,
    ⟨text (h .command), texts (h .args), text (h .scheduledAction), text (h .preShutdownAction)⟩,
    optional (h .logFile)⟩

end Settings

end DrainGuard
