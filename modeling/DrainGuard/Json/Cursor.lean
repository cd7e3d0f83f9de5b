/-!
# A place in a JSON text

* `Cursor`: what is left to read, with the line and the column in bytes.
* `Cause`, `Fault`: why reading stopped and where; `Fault.message` words it.
* `Reader`: reading with a cursor. A failed reading keeps the cursor where it failed, since a
  complaint about content takes the place that reading had reached.
-/

namespace DrainGuard.Json

/-- What is left of a text, and how many lines and bytes of the line lie behind. -/
structure Cursor where
  /-- The characters not yet read. -/
  rest : List Char
  /-- The line, from one. -/
  line : Nat := 1
  /-- The bytes of the line already read. -/
  column : Nat := 0

namespace Cursor

/-- A cursor at the start of a text. -/
def ofString (s : String) : Cursor := { rest := s.toList }

/-- The place of the cursor. -/
def place (c : Cursor) : Nat × Nat := (c.line, c.column)

/-- The place `n` bytes further on, within the text. -/
def placeAfter (c : Cursor) (n : Nat) : Nat × Nat := go c.rest n c.line c.column
where
  /-- Walks on character by character while bytes are left to pass. -/
  go : List Char → Nat → Nat → Nat → Nat × Nat
    | [], _, line, column => (line, column)
    | ch :: rest, n, line, column =>
      if n = 0 then (line, column)
      else if ch = '\n' then go rest (n - 1) (line + 1) 0
      else go rest (n - ch.utf8Size) line (column + min n ch.utf8Size)

/-- The cursor behind its next character. -/
def advance (c : Cursor) : Cursor :=
  match c.rest with
  | [] => c
  | ch :: rest =>
    if ch = '\n' then ⟨rest, c.line + 1, 0⟩ else ⟨rest, c.line, c.column + ch.utf8Size⟩

theorem advance_rest (c : Cursor) : c.advance.rest = c.rest.tail := by
  unfold advance
  split
  · next h => simp [h]
  · next h => split <;> simp [h]

end Cursor

/-- Why reading stopped. -/
inductive Cause where
  /-- The text ends inside a list. -/
  | endInList
  /-- The text ends inside an object. -/
  | endInObject
  /-- The text ends inside a string. -/
  | endInString
  /-- The text ends where a value should be. -/
  | endInValue
  /-- No colon after a key. -/
  | expectedColon
  /-- Neither a comma nor the end of the list after an item. -/
  | expectedListEnd
  /-- Neither a comma nor the end of the object after a field. -/
  | expectedObjectEnd
  /-- A misspelt `null`, `true` or `false`. -/
  | expectedWord
  /-- A character that starts no value. -/
  | expectedValue
  /-- An escape that does not exist. -/
  | invalidEscape
  /-- A malformed number. -/
  | invalidNumber
  /-- A number too large for binary64. -/
  | numberOutOfRange
  /-- An unescaped control character inside a string. -/
  | controlCharacter
  /-- A key that is no string. -/
  | keyMustBeString
  /-- Half of a surrogate pair. -/
  | loneSurrogate
  /-- A comma before the end of a list or object. -/
  | trailingComma
  /-- More characters after the value. -/
  | trailingCharacters
  /-- Half of a surrogate pair with no escape after it. -/
  | unexpectedHexEnd
  /-- Values nested too deep. -/
  | tooDeep
  /-- Well-formed content that is not wanted. -/
  | content (complaint : String)
  deriving DecidableEq

/-- The wording of a cause. -/
def Cause.text : Cause → String
  | endInList => "EOF while parsing a list"
  | endInObject => "EOF while parsing an object"
  | endInString => "EOF while parsing a string"
  | endInValue => "EOF while parsing a value"
  | expectedColon => "expected `:`"
  | expectedListEnd => "expected `,` or `]`"
  | expectedObjectEnd => "expected `,` or `\x7d`"
  | expectedWord => "expected ident"
  | expectedValue => "expected value"
  | invalidEscape => "invalid escape"
  | invalidNumber => "invalid number"
  | numberOutOfRange => "number out of range"
  | controlCharacter => "control character (\\u0000-\\u001F) found while parsing a string"
  | keyMustBeString => "key must be a string"
  | loneSurrogate => "lone leading surrogate in hex escape"
  | trailingComma => "trailing comma"
  | trailingCharacters => "trailing characters"
  | unexpectedHexEnd => "unexpected end of hex escape"
  | tooDeep => "recursion limit exceeded"
  | content complaint => complaint

/-- A cause with its place, as far as one is known. -/
structure Fault where
  /-- Why reading stopped. -/
  cause : Cause
  /-- The line and the column. -/
  place : Option (Nat × Nat) := none
  deriving DecidableEq

/-- The wording of a fault. -/
def Fault.message (f : Fault) : String :=
  match f.place with
  | none => f.cause.text
  | some (line, column) =>
    f.cause.text ++ " at line " ++ toString line ++ " column " ++ toString column

/-- A step of reading. -/
abbrev Reader := ExceptT Fault (StateM Cursor)

namespace Reader

/-- Runs a step; also gives where it stopped. -/
def runAt {α : Type} (r : Reader α) (c : Cursor) : Except Fault α × Cursor := (r.run c).run

/-- Stops at the cursor. -/
def failHere {α : Type} (cause : Cause) : Reader α := do
  throw ⟨cause, some (← get).place⟩

/-- Stops one byte behind the cursor. -/
def failAhead {α : Type} (cause : Cause) : Reader α := do
  throw ⟨cause, some ((← get).placeAfter 1)⟩

/-- Complains about content, with no place yet. -/
def complain {α : Type} (complaint : String) : Reader α := throw ⟨.content complaint, none⟩

/-- Gives a complaint of `r` the place that reading had reached. -/
def placed {α : Type} (r : Reader α) : Reader α := fun c =>
  match r.runAt c with
  | (.error ⟨cause, none⟩, c') => (.error ⟨cause, some c'.place⟩, c')
  | out => out

/-- The next character. -/
def peek : Reader (Option Char) := do return (← get).rest.head?

/-- Passes the next character. -/
def skip : Reader Unit := modify Cursor.advance

/-- The blanks between tokens. -/
def isGap (c : Char) : Bool := c = ' ' || c = '\n' || c = '\t' || c = '\r'

/-- Passes blanks, as many as `fuel` allows. -/
def skipGap : Nat → Cursor → Cursor
  | 0, c => c
  | n + 1, c => match c.rest with
    | ch :: _ => if isGap ch then skipGap n c.advance else c
    | [] => c

/-- Passes blanks and gives the next character. -/
def peekToken : Reader (Option Char) := do
  modify fun c => skipGap c.rest.length c
  peek

end Reader

end DrainGuard.Json
