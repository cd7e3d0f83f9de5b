import DrainGuard.Settings.Basic
import DrainGuard.Settings.Path
import DrainGuard.Json.Reader
import DrainGuard.Toml.Printer
import DrainGuard.Toml.Reader
import DrainGuard.Text.Utf8

/-!
# Layers of settings

Settings are resolved from three layers: the defaults, a file and the environment. A later layer
wins over an earlier one, for each setting on its own.

* `Layer.ofDefaults`, `Layer.ofFile`, `Layer.ofEnvironment`: the layers.
* `Settings.resolve`: the settings that layers come to.
-/

namespace DrainGuard

/-- One layer: values under keys. -/
abbrev Layer := List (String × Node)

/-- How a file is written. YAML, INI, RON and JSON5 files are left out. -/
inductive FileFormat where
  /-- As TOML. -/
  | toml
  /-- As JSON. -/
  | json
  deriving DecidableEq

/-- The format that a file name ends in; none for those that are left out. -/
def FileFormat.ofExtension? : String → Option FileFormat
  | "toml" => some .toml
  | "json" => some .json
  | _ => none

namespace Node

mutual

/-- A value of a TOML document. -/
def ofToml (source : Option String) : Toml.Value → Node
  | .text s => .scalar source (.text s)
  | .integer i => .scalar source (.integer i)
  | .float x => .scalar source (.real x)
  | .bool b => .scalar source (.truth b)
  | .moment s => .scalar source (.text s)
  | .array items => .list source (ofTomlItems source items)
  | .table fields => .table source (ofTomlFields source fields)

/-- The items of a list in a TOML document. -/
def ofTomlItems (source : Option String) : List Toml.Value → List Node
  | [] => []
  | v :: vs => ofToml source v :: ofTomlItems source vs

/-- The entries of a table in a TOML document. -/
def ofTomlFields (source : Option String) : List (String × Toml.Value) → List (String × Node)
  | [] => []
  | (k, v) :: fs => (k, ofToml source v) :: ofTomlFields source fs

end

/-- A number of a JSON text; an integer that needs more than 63 bits becomes a binary64 number. -/
def ofJsonNumber : Json.Number → Scalar
  | .int i => if i < 0x8000000000000000 then .integer i else .real (UInt64.ofNat i.toNat).toFloat
  | .float x => .real x

mutual

/-- A value of a JSON text. -/
def ofJson (source : Option String) : Json.Value → Node
  | .null => .scalar source .absent
  | .bool b => .scalar source (.truth b)
  | .num n => .scalar source (ofJsonNumber n)
  | .str s => .scalar source (.text s)
  | .arr items => .list source (ofJsonItems source items)
  | .obj fields => .table source (ofJsonFields source fields)

/-- The items of a list in a JSON text. -/
def ofJsonItems (source : Option String) : List Json.Value → List Node
  | [] => []
  | v :: vs => ofJson source v :: ofJsonItems source vs

/-- The fields of an object in a JSON text. -/
def ofJsonFields (source : Option String) : List (String × Json.Value) → List (String × Node)
  | [] => []
  | (k, v) :: fs => (k, ofJson source v) :: ofJsonFields source fs

end

/-- The value of an environment variable: a truth value, an integer or a number where its text
looks like one. -/
def scalarOfVariable (text : String) : Scalar :=
  let word := Text.lowerAscii text
  if word = "true" then .truth true
  else if word = "false" then .truth false
  else match Decimal.intText? text.toList with
    | some i => .integer i
    | none => match Decimal.realText? text.toList with
      | some x => .real x
      | none => .text text

end Node

namespace Layer

/-- An entry of a default. -/
def ofEntry : Toml.Entry → Node
  | .text s => .scalar none (.text s)
  | .number n => .scalar none (.integer n)
  | .texts ss => .list none (ss.map fun s => .scalar none (.text s))

/-- The defaults, each under its path. -/
def ofDefaults : Layer :=
  [("metadata.endpoint", ofEntry (.text Default.endpoint)),
    ("metadata.poll_interval_secs", ofEntry (.number Default.pollIntervalSecs)),
    ("metadata.request_timeout_secs", ofEntry (.number Default.requestTimeoutSecs)),
    ("shutdown.warning_delay_secs", ofEntry (.number Default.warningDelaySecs)),
    ("shutdown.grace_delay_secs", ofEntry (.number Default.graceDelaySecs)),
    ("shutdown.exit_poll_interval_millis", ofEntry (.number Default.exitPollIntervalMillis)),
    ("control.tmux_binary", ofEntry (.text Default.tmuxBinary)),
    ("control.target", ofEntry (.text Default.target)),
    ("backup.command", ofEntry (.text Default.command)),
    ("backup.args", ofEntry (.texts [])),
    ("backup.scheduled_action", ofEntry (.text Default.scheduledAction)),
    ("backup.pre_shutdown_action", ofEntry (.text Default.preShutdownAction))]

/-- The bytes of a file without the byte order mark in front. -/
def withoutMark : List UInt8 → List UInt8
  | 0xEF :: 0xBB :: 0xBF :: rest => rest
  | bytes => bytes

/-- The layer of a file that is called `source`. Bytes that are no text are replaced. -/
def ofFile (format : FileFormat) (source : String) (bytes : List UInt8) : Except ConfigFault Layer :=
  let text := Text.decode (withoutMark bytes)
  match format with
  | .toml => match Toml.parse? text with
    | some fields => .ok (Node.ofTomlFields (some source) fields)
    | none => .error .unreadable
  | .json => match Json.parse (String.ofList text) with
    | .ok (.obj fields) => .ok (Node.ofJsonFields (some source) fields)
    | _ => .error .unreadable

/-- What the name of a variable starts with if it holds a setting, in any case. -/
def variablePrefix : List Char := "spotguard_".toList

/-- Two underscores stand for a point. -/
def dotted : List Char → List Char
  | '_' :: '_' :: cs => '.' :: dotted cs
  | c :: cs => c :: dotted cs
  | [] => []

/-- The path that the name of a variable stands for, if it holds a setting. -/
def variablePath? (name : String) : Option String :=
  let cs := (foldKey name).toList
  if variablePrefix.isPrefixOf cs then
    some (String.ofList (dotted (cs.drop variablePrefix.length)))
  else none

/-- The layer of environment variables. -/
def ofEnvironment (environment : List (String × String)) : Layer :=
  environment.filterMap fun (name, text) => (variablePath? name).map fun path =>
    (path, .scalar (some "the environment") (Node.scalarOfVariable text))

/-- Lays a layer over a value. -/
def lay (root : Node) (layer : Layer) : Node :=
  layer.foldl (fun root (key, value) => Node.assign value (PathStep.ofKey key) root) root

end Layer

/-- The settings that layers come to, the later over the earlier. -/
def Settings.resolve (layers : List Layer) : Except ConfigFault Settings :=
  decode layeredFormat (layers.foldl Layer.lay Node.emptyTable)

end DrainGuard
