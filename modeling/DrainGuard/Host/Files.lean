import DrainGuard.Entries

/-!
# Files

A tree of files and directories, and paths into it.

* `Files.resolve`: the place that a path leads to from a working directory. All but the last part
  of a path have to be directories that exist.
* `Files.read?`, `Files.write`, `Files.append`, `Files.remove`, `Files.makeDirectories`: what can
  be done at a path.
-/

namespace DrainGuard

/-- Why something cannot be done with a file. -/
inductive FileError where
  /-- There is no such file. -/
  | missing
  /-- It may not be used so. -/
  | denied
  /-- There is a file already. -/
  | present
  /-- A part of the path is no directory. -/
  | notDirectory
  /-- It is a directory. -/
  | isDirectory
  /-- A part of the path is too long. -/
  | nameTooLong
  /-- The path holds the character zero. -/
  | zeroInName
  deriving DecidableEq

/-- The wording of an error. -/
def FileError.text : FileError → String
  | missing => "No such file or directory (os error 2)"
  | denied => "Permission denied (os error 13)"
  | present => "File exists (os error 17)"
  | notDirectory => "Not a directory (os error 20)"
  | isDirectory => "Is a directory (os error 21)"
  | nameTooLong => "File name too long (os error 36)"
  | zeroInName => "file name contained an unexpected NUL byte"

/-- A place in the tree: names from the root on. -/
abbrev Place := List String

/-- A file or a directory. -/
inductive FileEntry where
  /-- A file with its number, its content and its permission bits. A file made anew has a number
  of its own, also where another of its name has been before. -/
  | file (number : Nat) (content : List UInt8) (mode : Nat)
  /-- A directory. -/
  | directory
  deriving DecidableEq, Inhabited

/-- A tree of files. The root is always a directory. -/
structure Files where
  /-- What is at each place. -/
  entries : List (Place × FileEntry) := []
  /-- The number of the next file. -/
  nextNumber : Nat := 0
  deriving Inhabited

/-- A path taken apart. -/
structure Route where
  /-- It starts at the root. -/
  absolute : Bool
  /-- Its parts; those that say nothing are left out. -/
  parts : List String
  /-- It has to lead to a directory. -/
  directory : Bool

/-- Takes a path apart. -/
def Route.ofString (path : String) : Route :=
  let parts := (path.toList.splitOnP (· = '/')).map String.ofList
  { absolute := path.toList.head? = some '/'
    parts := parts.filter fun p => !p.isEmpty && p ≠ "."
    directory := parts.getLast? = some "" ∨ parts.getLast? = some "." ∨
      parts.getLast? = some ".." }

namespace Files

/-- What is at a place. -/
def entry? (fs : Files) (place : Place) : Option FileEntry :=
  if place = [] then some .directory else fs.entries.lookup place

/-- Follows the parts of a path. The last part need not exist. -/
def follow (fs : Files) : Place → List String → Except FileError Place
  | here, [] => .ok here
  | here, part :: rest =>
    if part = ".." then fs.follow here.dropLast rest
    else if 255 < part.utf8ByteSize then .error .nameTooLong
    else
      let next := here ++ [part]
      match fs.entry? next with
      | some .directory => fs.follow next rest
      | some (.file ..) => if rest.isEmpty then .ok next else .error .notDirectory
      | none => if rest.isEmpty then .ok next else .error .missing

/-- The place that a path leads to from a working directory. -/
def resolve (fs : Files) (here : Place) (path : String) : Except FileError Place :=
  if path.toList.contains (Char.ofNat 0) then .error .zeroInName
  else if path.isEmpty then .error .missing
  else do
    let route := Route.ofString path
    let place ← fs.follow (if route.absolute then [] else here) route.parts
    match fs.entry? place with
    | some (.file ..) => if route.directory then .error .notDirectory else return place
    | _ => return place

/-- The bytes of a file. -/
def read (fs : Files) (here : Place) (path : String) : Except FileError (List UInt8) := do
  match fs.entry? (← fs.resolve here path) with
  | some (.file _ content _) => return content
  | some .directory => .error .isDirectory
  | none => .error .missing

/-- The bytes of a path that is a file. -/
def read? (fs : Files) (here : Place) (path : String) : Option (List UInt8) :=
  (fs.read here path).toOption

/-- Puts an entry at a place. -/
def put (fs : Files) (place : Place) (e : FileEntry) : Files :=
  { fs with entries := setEntry place e fs.entries }

/-- Puts a new file at a place. -/
def putNew (fs : Files) (place : Place) (content : List UInt8) (mode : Nat) : Files :=
  { fs.put place (.file fs.nextNumber content mode) with nextNumber := fs.nextNumber + 1 }

/-- Takes away what is at a place. -/
def erase (fs : Files) (place : Place) : Files :=
  { fs with entries := fs.entries.filter fun e => e.1 ≠ place }

/-- The permission bits of a new file. -/
def newFileMode : Nat := 0o644

/-- Changes the content of a file, which is made if it is missing. -/
def modify (fs : Files) (here : Place) (path : String) (f : List UInt8 → List UInt8)
    (newMode : Nat) : Except FileError Files := do
  let place ← fs.resolve here path
  match fs.entry? place with
  | some (.file number content mode) => return fs.put place (.file number (f content) mode)
  | some .directory => .error .isDirectory
  | none =>
    if (Route.ofString path).directory then .error .isDirectory
    else return fs.putNew place (f []) newMode

/-- Writes a file. -/
def write (fs : Files) (here : Place) (path : String) (content : List UInt8) :
    Except FileError Files :=
  fs.modify here path (fun _ => content) newFileMode

/-- Writes at the end of a file. -/
def append (fs : Files) (here : Place) (path : String) (content : List UInt8) :
    Except FileError Files :=
  fs.modify here path (· ++ content) newFileMode

/-- Takes a file away. -/
def remove (fs : Files) (here : Place) (path : String) : Except FileError Files := do
  let place ← fs.resolve here path
  match fs.entry? place with
  | some (.file ..) => return fs.erase place
  | some .directory => .error .isDirectory
  | none => .error .missing

/-- Makes directories along a route where they are missing. -/
def extend (fs : Files) : Place → List String → Except FileError Files
  | _, [] => .ok fs
  | here, part :: rest =>
    if part = ".." then fs.extend here.dropLast rest
    else if 255 < part.utf8ByteSize then .error .nameTooLong
    else
      let next := here ++ [part]
      match fs.entry? next with
      | some .directory => fs.extend next rest
      | some (.file ..) => .error (if rest.isEmpty then .present else .notDirectory)
      | none => (fs.put next .directory).extend next rest

/-- Makes a directory with all those on the way to it. -/
def makeDirectories (fs : Files) (here : Place) (path : String) : Except FileError Files :=
  if path.toList.contains (Char.ofNat 0) then .error .zeroInName
  else
    let route := Route.ofString path
    fs.extend (if route.absolute then [] else here) route.parts

/-- Puts a file at a path, with the directories on the way to it; where that is not possible
nothing changes. -/
def install (fs : Files) (here : Place) (path : String) (content : List UInt8) (mode : Nat) :
    Files :=
  let route := Route.ofString path
  let made := do
    let fs ← fs.extend (if route.absolute then [] else here) route.parts.dropLast
    fs.modify here path (fun _ => content) mode
  made.toOption.getD fs

/-- The files that are new or not what they were before. -/
def changedSince (fs before : Files) : List (Place × List UInt8) :=
  fs.entries.filterMap fun (place, e) =>
    match e with
    | .file _ content _ => if before.entry? place = some e then none else some (place, content)
    | .directory => none

/-- Is there a directory at the path? -/
def isDirectory (fs : Files) (here : Place) (path : String) : Bool :=
  match fs.resolve here path with
  | .ok place => fs.entry? place = some .directory
  | .error _ => false

/-- The paths of all files below a place, in order. -/
def below (fs : Files) (place : Place) : List String :=
  let names := fs.entries.filterMap fun (p, e) =>
    match e with
    | .file .. => if place.isPrefixOf p then some (p.drop place.length) else none
    | .directory => none
  (names.map (String.intercalate "/")).mergeSort (· ≤ ·)

end Files

end DrainGuard
