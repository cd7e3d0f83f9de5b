import DrainGuard.Settings.Basic

/-!
# Settings from values

Settings are read from two kinds of values, strict ones and layered ones. What both have in
common is here: the records, their fields and the order of complaints.

* `Format`: how values of one kind are taken apart.
* `Format.record`: reads a record. Fields that are not given keep the default; unknown ones do not
  matter.
* `Settings.decode`: reads all settings.
-/

namespace DrainGuard

/-- A record as its readers know it. -/
structure Shape where
  /-- The name that complaints use. -/
  name : String
  /-- The fields in order. -/
  fields : List String
  /-- How many of the first fields have to be given. -/
  required : Nat := 0

/-- A field of a record as it was found. -/
structure Found (ν : Type) where
  /-- The field. -/
  field : String
  /-- Where it stood: its name, or its position in brackets. -/
  place : String
  /-- Its value. -/
  value : ν

/-- How values of one kind are taken apart; `ε` is a complaint. -/
structure Format (ν ε : Type) where
  /-- A whole number of 64 bits without sign. -/
  natural : ν → Except ε Nat
  /-- A text. -/
  text : ν → Except ε String
  /-- The value stands for no value. -/
  isAbsent : ν → Bool
  /-- The items of a list. -/
  items : ν → Except ε (List ν)
  /-- The fields of a record, given by name or by position. -/
  fields : Shape → ν → Except ε (List (Found ν))
  /-- Complains about fields that are missing or too many, after all others have been read. -/
  complete : Shape → ν → Except ε Unit
  /-- A complaint about a value at a place inside another. -/
  inside : String → ε → ε

/-- A field by its position. -/
def Found.atPosition {ν : Type} (shape : Shape) (values : List ν) : List (Found ν) :=
  (shape.fields.zip values).zipIdx.map fun ((field, value), i) =>
    ⟨field, "[" ++ toString i ++ "]", value⟩

namespace Format

variable {ν ε α : Type}

/-- Reads a value that stands at a place. -/
def readAt (f : Format ν ε) (place : String) (read : ν → Except ε α) (v : ν) : Except ε α :=
  (read v).mapError (f.inside place)

/-- Reads a record from its default on, field by field. -/
def record (f : Format ν ε) (shape : Shape) (default : α) (set : String → ν → α → Except ε α)
    (v : ν) : Except ε α := do
  let found ← f.fields shape v
  let a ← found.foldlM (fun a x => f.readAt x.place (set x.field · a) x.value) default
  f.complete shape v
  return a

/-- Reads a text that may be absent. -/
def optionalText (f : Format ν ε) (v : ν) : Except ε (Option String) :=
  if f.isAbsent v then .ok none else (f.text v).map some

/-- Reads a list of texts. -/
def texts (f : Format ν ε) (v : ν) : Except ε (List String) := do
  let vs ← f.items v
  vs.zipIdx.mapM fun (x, i) => f.readAt ("[" ++ toString i ++ "]") f.text x

end Format

variable {ν ε : Type}

/-- The record of the watch. -/
def MetadataSettings.shape : Shape :=
  ⟨"MetadataConfig", ["endpoint", "poll_interval_secs", "request_timeout_secs", "token_endpoint"], 0⟩

/-- Reads one setting of the watch. -/
def MetadataSettings.set (f : Format ν ε) (field : String) (v : ν) (s : MetadataSettings) :
    Except ε MetadataSettings :=
  match field with
  | "endpoint" => do return { s with endpoint := ← f.text v }
  | "poll_interval_secs" => do return { s with pollIntervalSecs := ← f.natural v }
  | "request_timeout_secs" => do return { s with requestTimeoutSecs := ← f.natural v }
  | "token_endpoint" => do return { s with tokenEndpoint := ← f.optionalText v }
  | _ => .ok s

/-- The record of the shutdown. -/
def ShutdownSettings.shape : Shape :=
  ⟨"ShutdownConfig", ["warning_delay_secs", "grace_delay_secs", "exit_poll_interval_millis"], 0⟩

/-- Reads one setting of the shutdown. -/
def ShutdownSettings.set (f : Format ν ε) (field : String) (v : ν) (s : ShutdownSettings) :
    Except ε ShutdownSettings :=
  match field with
  | "warning_delay_secs" => do return { s with warningDelaySecs := ← f.natural v }
  | "grace_delay_secs" => do return { s with graceDelaySecs := ← f.natural v }
  | "exit_poll_interval_millis" => do return { s with exitPollIntervalMillis := ← f.natural v }
  | _ => .ok s

/-- The record of the console. -/
def ControlSettings.shape : Shape :=
  ⟨"ControlConfig", ["tmux_binary", "target", "pid_file"], 0⟩

/-- Reads one setting of the console. -/
def ControlSettings.set (f : Format ν ε) (field : String) (v : ν) (s : ControlSettings) :
    Except ε ControlSettings :=
  match field with
  | "tmux_binary" => do return { s with tmuxBinary := ← f.text v }
  | "target" => do return { s with target := ← f.text v }
  | "pid_file" => do return { s with pidFile := ← f.optionalText v }
  | _ => .ok s

/-- The record of the backups. -/
def BackupSettings.shape : Shape :=
  ⟨"BackupConfig", ["command", "args", "scheduled_action", "pre_shutdown_action"], 0⟩

/-- Reads one setting of the backups. -/
def BackupSettings.set (f : Format ν ε) (field : String) (v : ν) (s : BackupSettings) :
    Except ε BackupSettings :=
  match field with
  | "command" => do return { s with command := ← f.text v }
  | "args" => do return { s with args := ← f.texts v }
  | "scheduled_action" => do return { s with scheduledAction := ← f.text v }
  | "pre_shutdown_action" => do return { s with preShutdownAction := ← f.text v }
  | _ => .ok s

/-- The record of the logs. -/
def LoggingSettings.shape : Shape := ⟨"LoggingConfig", ["file"], 0⟩

/-- Reads one setting of the logs. -/
def LoggingSettings.set (f : Format ν ε) (field : String) (v : ν) (s : LoggingSettings) :
    Except ε LoggingSettings :=
  match field with
  | "file" => do return { s with file := ← f.optionalText v }
  | _ => .ok s

/-- Reads the settings of the watch. -/
def MetadataSettings.decode (f : Format ν ε) : ν → Except ε MetadataSettings :=
  f.record shape {} (set f)

/-- Reads the pace of a shutdown. -/
def ShutdownSettings.decode (f : Format ν ε) : ν → Except ε ShutdownSettings :=
  f.record shape {} (set f)

/-- Reads the settings of the console. -/
def ControlSettings.decode (f : Format ν ε) : ν → Except ε ControlSettings :=
  f.record shape {} (set f)

/-- Reads the settings of the backups. -/
def BackupSettings.decode (f : Format ν ε) : ν → Except ε BackupSettings :=
  f.record shape {} (set f)

/-- Reads the settings of the logs. -/
def LoggingSettings.decode (f : Format ν ε) : ν → Except ε LoggingSettings :=
  f.record shape {} (set f)

namespace Settings

/-- The record of all settings; only the logs may be left out. -/
def shape : Shape := ⟨"GuardConfig", ["metadata", "shutdown", "control", "backup", "logging"], 4⟩

/-- Reads one section. -/
def set (f : Format ν ε) (field : String) (v : ν) (s : Settings) : Except ε Settings :=
  match field with
  | "metadata" => do return { s with metadata := ← MetadataSettings.decode f v }
  | "shutdown" => do return { s with shutdown := ← ShutdownSettings.decode f v }
  | "control" => do return { s with control := ← ControlSettings.decode f v }
  | "backup" => do return { s with backup := ← BackupSettings.decode f v }
  | "logging" => do return { s with logging := ← LoggingSettings.decode f v }
  | _ => .ok s

/-- Reads all settings. -/
def decode (f : Format ν ε) : ν → Except ε Settings := f.record shape {} (set f)

end Settings

end DrainGuard
