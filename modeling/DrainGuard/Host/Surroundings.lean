import DrainGuard.CommandLine.Launch
import DrainGuard.Host.Station
import DrainGuard.Settings.Load

/-!
# The program on a machine

* `LogPath.name?`, `LogPath.directory`: the two parts of the path of a log file.
* `Machine.openLog`: makes the log file.
* `Machine.surroundings`: what the program needs of a machine.
-/

namespace DrainGuard

namespace LogPath

/-- The first part of a path, and the others without those at the end that say nothing. The first
part of an absolute path is empty. -/
def pieces (path : String) : String × List String :=
  match (path.toList.splitOnP (· = '/')).map String.ofList with
  | [] => ("", [])
  | first :: rest => (first, (rest.reverse.dropWhile fun p => p.isEmpty || p = ".").reverse)

/-- The file name at the end of a path. -/
def name? (path : String) : Option String :=
  let (first, rest) := pieces path
  match rest.getLast? with
  | none => if ["", ".", ".."].contains first then none else some first
  | some last => if last = ".." then none else some last

/-- The directory in which a path ends. -/
def directory (path : String) : String :=
  let (first, rest) := pieces path
  match rest with
  | [] => "."
  | _ =>
    let (first, rest) := pieces (String.intercalate "/" (first :: rest.dropLast))
    if rest.isEmpty && first.isEmpty then "/" else String.intercalate "/" (first :: rest)

end LogPath

namespace Machine

/-- The path of the log file, if there is to be one. -/
def logPath? (o : Options) (s : Settings) : Option String :=
  (o.logFile.or s.logging.file).map (Settings.joinPath o.serverRoot)

/-- Makes the log file, with its directory. What is in it stays. -/
def openLog (o : Options) (s : Settings) (m : Machine) : Except LogFault Machine :=
  match logPath? o s with
  | none => .ok m
  | some path => match LogPath.name? path with
    | none => .error (.noName path)
    | some name =>
      let directory := LogPath.directory path
      match m.files.makeDirectories m.here directory with
      | .error e => .error (.noDirectory directory e)
      | .ok files => match files.append m.here (Settings.joinPath directory name) [] with
        | .error e => .error (.noFile e)
        | .ok files => .ok { m with files }

/-- What the program needs of a machine. -/
def surroundings (environment : List (String × String)) : Surroundings Machine where
  load o m := match o.config with
    | some path => Settings.load m.read? path environment
    | none => Settings.loadForRoot m.read? o.serverRoot environment
  openLog := openLog
  station o s := station s o.serverRoot

end Machine

end DrainGuard
