import DrainGuard.Settings.Layer

/-!
# Loading settings

* `ConfigFile.find`: the file that a path means. A file that exists is read as its extension says
  and counts as missing if that says nothing; for a missing one the path with an extension added
  is tried. TOML and JSON are all formats there are here: a YAML, INI, RON or JSON5 file counts as
  missing too.
* `Settings.load`: the settings from a path and the environment; a missing file does not matter.
-/

namespace DrainGuard

namespace ConfigFile

/-- The name of the settings file in a server root. -/
def defaultName : String := "spotguard.toml"

/-- The parts of a path between slashes; empty ones and single points say nothing. -/
def parts (path : String) : List String :=
  ((path.toList.splitOnP (· = '/')).map String.ofList).filter fun p => !p.isEmpty && p ≠ "."

/-- A path without what says nothing, as it is named in complaints. -/
def displayName (path : String) : String :=
  (if path.toList.head? = some '/' then "/" else "") ++ String.intercalate "/" (parts path)

/-- What follows the last point of a file name; a point in front of all does not count. -/
def extension? (path : String) : Option String :=
  match (parts path).getLast? with
  | none => none
  | some file =>
    if file = ".." then none
    else
      let reversed := file.toList.reverse
      let ending := reversed.takeWhile (· ≠ '.')
      match reversed.dropWhile (· ≠ '.') with
      | _ :: _ :: _ => some (String.ofList ending.reverse)
      | _ => none

/-- A path with an extension added to its file name. -/
def withExtension? (path ext : String) : Option String :=
  match (parts path).getLast? with
  | none => none
  | some file => if file = ".." then none else some (displayName path ++ "." ++ ext)

/-- The paths that are looked at for a path. -/
def candidates (path : String) : List String :=
  path :: ["toml", "json"].filterMap (withExtension? path)

/-- The file that a path means: its format, its name in complaints and its bytes. `read` gives the
bytes of a path that is a file. One whose extension is no `FileFormat` counts as missing. -/
def find (read : String → Option (List UInt8)) (path : String) :
    Option (FileFormat × String × List UInt8) :=
  match read path with
  | some bytes =>
    ((extension? path).bind FileFormat.ofExtension?).map fun f => (f, displayName path, bytes)
  | none =>
    let attempt (ext : String) (format : FileFormat) : Option (FileFormat × String × List UInt8) :=
      (withExtension? path ext).bind fun p => (read p).map fun bytes => (format, displayName p, bytes)
    attempt "toml" .toml <|> attempt "json" .json

end ConfigFile

namespace Settings

/-- The layer of the file that a path means. -/
def fileLayer (read : String → Option (List UInt8)) (path : String) : Except ConfigFault Layer :=
  match ConfigFile.find read path with
  | some (format, name, bytes) => Layer.ofFile format name bytes
  | none => .ok []

/-- Loads settings from a file, with the environment over it. -/
def load (read : String → Option (List UInt8)) (path : String)
    (environment : List (String × String)) : Except Failure Settings := do
  let file ← (fileLayer read path).mapError .configuration
  (resolve [Layer.ofDefaults, file, Layer.ofEnvironment environment]).mapError .configuration

/-- Loads settings for a server root. -/
def loadForRoot (read : String → Option (List UInt8)) (root : String)
    (environment : List (String × String)) : Except Failure Settings :=
  load read (joinPath root ConfigFile.defaultName) environment

end Settings

end DrainGuard
