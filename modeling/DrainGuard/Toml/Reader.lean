import DrainGuard.Toml.Value
import DrainGuard.Toml.Number
import DrainGuard.Toml.Moment

/-!
# Reading TOML

Readers over `List Char` with the rest of the document as state; none where the document is
malformed.

* `Reader.value`: a value, nested at most so many levels deep.
* `Reader.lines`: the lines of a document. The table that a header opened is kept by its path.
* `parse?`: the content of a document.
-/

namespace DrainGuard.Toml

/-- A step of reading. -/
abbrev Reader := StateT (List Char) Option

namespace Reader

/-- A reader given as a function. -/
def ofOption {α : Type} (f : List Char → Option (α × List Char)) : Reader α := f

/-- The next character. -/
def peek : Reader (Option Char) := do return (← get).head?

/-- Passes a character that has to be there. -/
def expect (want : Char) : Reader Unit := fun cs => (mark? want cs).map ((), ·)

/-- Passes a character if it is there, and says so. -/
def accept (want : Char) : Reader Bool := fun cs =>
  match mark? want cs with
  | some rest => some (true, rest)
  | none => some (false, cs)

/-- Passes blanks. -/
def gap : Reader Unit := modify (List.dropWhile isGap)

/-- Passes one line break. -/
def newline : Reader Unit := fun cs => (newline? cs).map ((), ·)

/-- Passes a comment, if there is one, up to the end of its line. -/
def comment : Reader Unit := modify fun cs =>
  match cs with
  | '#' :: rest => rest.dropWhile isPlain
  | _ => cs

/-- Passes what may follow at the end of a line, and the line break. -/
def lineEnd : Reader Unit := do
  gap
  comment
  if (← get).isEmpty then return () else newline

/-- Passes blanks, comments and line breaks inside a list. -/
def breaks : Nat → Reader Unit
  | 0 => failure
  | fuel + 1 => do
    gap
    match ← peek with
    | some c =>
      if c = '#' ∨ c = '\n' ∨ c = '\r' then do
        comment
        newline
        breaks fuel
      else return ()
    | none => return ()

/-! ## Keys -/

/-- A character of a key without quotes. -/
def isKeyChar (c : Char) : Bool := c.isAlphanum || c = '_' || c = '-'

/-- Reads one part of a key. -/
def keyPart : Reader String := fun cs =>
  match lineText? cs with
  | some (text, rest) => some (String.ofList text, rest)
  | none =>
    let word := cs.takeWhile isKeyChar
    if word.isEmpty then none else some (String.ofList word, cs.dropWhile isKeyChar)

/-- Reads the parts of a key, at most `fuel` of them. -/
def keyParts : Nat → Reader (List String)
  | 0 => failure
  | fuel + 1 => do
    gap
    let part ← keyPart
    gap
    if ← accept '.' then return part :: (← keyParts fuel) else return [part]

/-- How deep values may be nested and how many parts a key may have. -/
def maxDepth : Nat := 79

/-- Reads a key: the parts on the way and the last part. -/
def key : Reader (List String × String) := do
  let parts ← keyParts maxDepth
  return (parts.dropLast, parts.getLastD "")

/-! ## Values -/

/-- Passes a word. -/
def word (w : String) : Reader Unit := w.toList.forM expect

/-- Reads a value that is neither a list nor a table. -/
def scalar (c : Char) : Reader Value :=
  if c = '"' ∨ c = '\'' then do
    return .text (String.ofList (← ofOption text?))
  else if c = 't' then do word "true"; return .bool true
  else if c = 'f' then do word "false"; return .bool false
  else (do return .moment (← ofOption moment?)) <|> (do return .float (← ofOption float?))
    <|> (do return .integer (← ofOption integer?))

/-- Reads the items of a list up to its end. -/
def items (value : Reader Value) : Nat → Reader (List Value)
  | 0 => failure
  | fuel + 1 => do
    breaks ((← get).length + 1)
    if ← accept ']' then return []
    let v ← value
    breaks ((← get).length + 1)
    if ← accept ',' then return v :: (← items value fuel)
    expect ']'
    return [v]

/-- Reads a key with its value. -/
def pair (value : Reader Value) : Reader ((List String × String) × Value) := do
  let k ← key
  expect '='
  gap
  let v ← value
  return (k, v)

/-- Reads the pairs of a table on one line up to its end, and adds them to the table. -/
def pairs (value : Reader Value) : Nat → Table → Reader Table
  | 0, _ => failure
  | fuel + 1, t => do
    let ((path, k), v) ← pair value
    gap
    let t ← (t.addPath path k v : Option Table)
    if ← accept ',' then pairs value fuel t
    else do
      expect '}'
      return t

/-- Reads a value nested at most `depth` levels deep. -/
def value : Nat → Reader Value
  | 0 => do
    match ← peek with
    | some c => if c = '[' ∨ c = '{' then failure else scalar c
    | none => failure
  | depth + 1 => do
    match ← peek with
    | some c =>
      if c = '[' then do
        expect '['
        return .array (← items (value depth) ((← get).length + 1))
      else if c = '{' then do
        expect '{'
        gap
        if ← accept '}' then return .table []
        else
          let t ← pairs (value depth) ((← get).length + 1) (.mk .header [])
          return t.finish
      else scalar c
    | none => failure

/-! ## Documents -/

/-- A document while it is read. -/
structure State where
  /-- What has been read. -/
  document : Table := .mk .header []
  /-- Where the lines without a header go: the path of the last header. -/
  path : List String := []

/-- Opens a table by its header. One that came up on the way to another table may still be opened;
any other may not. -/
def openTable (path : List String) (k : String) (s : State) : Option State := do
  let document ← s.document.update .passed path fun t =>
    match t.entries.lookup k with
    | none => some (t.put k (.table (.mk .header [])))
    | some (.table sub) =>
      if sub.origin = .passed then some (t.put k (.table (.mk .header sub.entries))) else none
    | some _ => none
  return { document, path := path ++ [k] }

/-- Opens the next table of an array of tables by its header. -/
def openNext (path : List String) (k : String) (s : State) : Option State := do
  let document ← s.document.update .passed path fun t =>
    match t.entries.lookup k with
    | none => some (t.put k (.tables [.mk .header []]))
    | some (.tables ts) => some (t.put k (.tables (.mk .header [] :: ts)))
    | some _ => none
  return { document, path := path ++ [k] }

/-- Adds a pair to the table that is open. -/
def addPair (path : List String) (k : String) (v : Value) (s : State) : Option State := do
  let document ← s.document.update .passed s.path (Table.addPath path k v)
  return { s with document }

/-- Reads a header, from behind its first bracket on. -/
def header (s : State) : Reader State := do
  let next ← accept '['
  let (path, k) ← key
  expect ']'
  if next then expect ']'
  lineEnd
  (if next then openNext path k s else openTable path k s : Option State)

/-- Reads the lines of a document. -/
def lines : Nat → State → Reader State
  | 0, _ => failure
  | fuel + 1, s => do
    gap
    match ← peek with
    | none => return s
    | some c =>
      if c = '#' ∨ c = '\n' ∨ c = '\r' then do
        lineEnd
        lines fuel s
      else if c = '[' then do
        expect '['
        lines fuel (← header s)
      else do
        let ((path, k), v) ← pair (value maxDepth)
        lineEnd
        lines fuel (← (addPair path k v s : Option State))

end Reader

/-- The content of a document; a byte order mark in front does not matter. -/
def parse? (cs : List Char) : Option (List (String × Value)) := do
  let cs := match cs with
    | c :: rest => if c.toNat = 0xFEFF then rest else cs
    | [] => []
  let (s, _) ← Reader.lines (cs.length + 1) {} cs
  match s.document.finish with
  | .table fields => some fields
  | _ => none

end DrainGuard.Toml
