import DrainGuard.Host.Surroundings

/-!
# The command line

The outermost layer. It takes the files that matter from the real machine, runs the program on
them and writes back what is new. No other programs can be started from here, so a guard finds a
console that cannot be reached.

* `main`: the program.
-/

namespace DrainGuard.Outer

/-- The bytes of a file, if it can be read. -/
def bytes? (path : String) : IO (Option (List UInt8)) := do
  try return some (← IO.FS.readBinFile path).toList
  catch _ => return none

/-- The variables in a list that is separated by zeros. -/
def environmentIn (bytes : List UInt8) : List (String × String) :=
  (bytes.splitOnP (· = 0)).filterMap fun v =>
    match (Text.decode v).span (· ≠ '=') with
    | (name, _ :: value) => some (String.ofList name, String.ofList value)
    | _ => none

/-- The files that a command line is about: the configuration files that it may mean, and the root
directory of the server. -/
def filesFor (here : Place) (o : Options) : IO Files := do
  let root := (← IO.currentDir) / o.serverRoot
  let mut files : Files := (({} : Files).extend [] here).toOption.getD {}
  if ← root.isDir then
    files := (files.makeDirectories here o.serverRoot).toOption.getD files
  let config := o.config.getD (Settings.joinPath o.serverRoot ConfigFile.defaultName)
  for path in ConfigFile.candidates config do
    if let some content ← bytes? path then
      files := files.install here path content Files.newFileMode
  return files

/-- Adds to a file, which is made with its directory if it is missing. -/
def writeBack (place : Place) (content : List UInt8) : IO Unit := do
  IO.FS.createDirAll ("/" ++ String.intercalate "/" place.dropLast)
  let handle ← IO.FS.Handle.mk ("/" ++ String.intercalate "/" place) .append
  handle.write ⟨content.toArray⟩

/-- Waits for ever. -/
partial def idle : IO UInt32 := do
  IO.sleep 60000
  idle

/-- How many fetches and looks at a process are enough where the answers never change. -/
def enough : Nat := 64

end DrainGuard.Outer

open DrainGuard in
/-- The program. -/
def main (arguments : List String) : IO UInt32 := do
  let here := (Route.ofString (← IO.currentDir).toString).parts
  let environment := Outer.environmentIn ((← Outer.bytes? "/proc/self/environ").getD [])
  let files ← match CommandLine.read arguments with
    | .ok o => Outer.filesFor here o
    | .error _ => pure {}
  let around := Machine.surroundings environment
  match CommandLine.run around arguments Outer.enough Outer.enough { files, here } with
  | none => Outer.idle
  | some (exit, session) =>
    for (place, content) in session.world.files.changedSince files do
      Outer.writeBack place content
    IO.print exit.out
    IO.eprint exit.err
    return exit.code.toUInt32
