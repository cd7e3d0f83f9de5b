import DrainGuard.Shell.Syntax

/-!
# Reading shell scripts

* `parse?`: the commands of a script; none if it is malformed.

Every reader is given more steps than its input has characters, and takes one at most for each.
-/

namespace DrainGuard.Shell

/-- What is left of a script, and the line it is on. -/
structure Source where
  /-- The characters. -/
  rest : List Char
  /-- The line, from one. -/
  line : Nat := 1

/-- A step of reading. -/
abbrev Reader := StateT Source Option

namespace Reader

/-- A character that ends a word without quotes. -/
def isBoundary (c : Char) : Bool := " \t\n;|&<>()".toList.contains c

/-- The character at a distance. -/
def peekAt (n : Nat) : Reader (Option Char) := do return (← get).rest[n]?

/-- Passes characters. -/
def skip (n : Nat) : Reader Unit := modify fun s =>
  ⟨s.rest.drop n, s.line + (s.rest.take n).count '\n'⟩

/-- Passes a text if it is next, and says so. -/
def accept (want : String) : Reader Bool := do
  if want.toList.isPrefixOf (← get).rest then do skip want.length; return true
  else return false

/-- Passes a text that has to be next. -/
def expect (want : String) : Reader Unit := do
  unless ← accept want do failure

/-- Passes blanks, joined lines and a comment. -/
def gap : Nat → Reader Unit
  | 0 => return ()
  | fuel + 1 => do
    match ← peekAt 0, ← peekAt 1 with
    | some ' ', _ | some '\t', _ => do skip 1; gap fuel
    | some '\\', some '\n' => do skip 2; gap fuel
    | some '#', _ => do
      skip ((← get).rest.takeWhile (· ≠ '\n')).length
    | _, _ => return ()

/-- Passes blanks and ends of lines. -/
def breaks : Nat → Reader Unit
  | 0 => return ()
  | fuel + 1 => do
    gap (fuel + 1)
    if (← peekAt 0) = some '\n' then do skip 1; breaks fuel

/-! ## Words -/

/-- A character that a name starts with. -/
def isNameStart (c : Char) : Bool := c.isAlpha || c = '_'

/-- A character of a name. -/
def isNameChar (c : Char) : Bool := c.isAlphanum || c = '_'

/-- Reads a parameter from behind its sign; a sign that starts none stands for itself. -/
def param (quoted : Bool) : Reader Part := do
  match (← get).rest with
  | '{' :: cs => do
    let name := cs.takeWhile (· ≠ '}')
    skip (name.length + 2)
    return .param (String.ofList name) quoted
  | c :: cs =>
    if "*@#?$!-".toList.contains c || c.isDigit then do
      skip 1
      return .param c.toString quoted
    else if isNameStart c then do
      let name := c :: cs.takeWhile isNameChar
      skip name.length
      return .param (String.ofList name) quoted
    else return .plain ['$'] quoted
  | [] => return .plain ['$'] quoted

/-- Reads the parts between double quotes up to the closing one. -/
def doubleQuoted : Nat → Reader Word
  | 0 => failure
  | fuel + 1 => do
    match (← get).rest with
    | [] => failure
    | '"' :: _ => do skip 1; return []
    | '$' :: _ => do
      skip 1
      let p ← param true
      return p :: (← doubleQuoted fuel)
    | '\\' :: c :: _ => do
      skip 2
      let text := if c = '\n' then []
        else if "$`\"\\".toList.contains c then [c] else ['\\', c]
      return .plain text true :: (← doubleQuoted fuel)
    | c :: _ => do
      skip 1
      return .plain [c] true :: (← doubleQuoted fuel)

/-- Reads the parts of a word. -/
def parts : Nat → Reader Word
  | 0 => failure
  | fuel + 1 => do
    match (← get).rest with
    | [] => return []
    | '\'' :: cs => do
      let text := cs.takeWhile (· ≠ '\'')
      if text.length = cs.length then failure
      skip (text.length + 2)
      return .plain text true :: (← parts fuel)
    | '"' :: cs => do
      skip 1
      let inner ← doubleQuoted (cs.length + 1)
      return .plain [] true :: inner ++ (← parts fuel)
    | '\\' :: c :: _ => do
      skip 2
      if c = '\n' then parts fuel else return .plain [c] true :: (← parts fuel)
    | '$' :: _ => do
      skip 1
      let p ← param false
      return p :: (← parts fuel)
    | c :: _ =>
      if isBoundary c then return []
      else do
        skip 1
        return .plain [c] false :: (← parts fuel)

/-- Reads a word, which may not be empty. -/
def word : Reader Word := do
  let w ← parts ((← get).rest.length + 1)
  if w.isEmpty then failure else return w

/-! ## Commands -/

/-- The characters of the next word as they stand. -/
def rawWord : Reader String := do
  return String.ofList ((← get).rest.takeWhile fun c => !isBoundary c)

/-- The words that end a list. -/
def closers : List String := ["then", "elif", "else", "fi", "esac", "do", "done", "\x7d"]

/-- Passes a reserved word that has to be next. -/
def keyword (w : String) : Reader Unit := do
  breaks ((← get).rest.length + 1)
  if (← rawWord) = w then skip w.length else failure

/-- Reads a redirection from its sign on. -/
def redirect (stream : Option Nat) : Reader Redirect := do
  if ← accept ">>" then
    gap ((← get).rest.length + 1)
    return ⟨stream.getD 1, .onto (← word)⟩
  else if ← accept ">&" then
    match ← peekAt 0 with
    | some c => do
      skip 1
      return ⟨stream.getD 1, .like (c.toNat - 48)⟩
    | none => failure
  else if ← accept ">" then
    gap ((← get).rest.length + 1)
    return ⟨stream.getD 1, .into (← word)⟩
  else do
    expect "<"
    gap ((← get).rest.length + 1)
    return ⟨stream.getD 0, .source (← word)⟩

/-- The name in front of an equals sign, if a word starts so. -/
def assignment? (cs : List Char) : Option String :=
  let name := cs.takeWhile isNameChar
  match name, cs.drop name.length with
  | c :: _, '=' :: _ => if isNameStart c then some (String.ofList name) else none
  | _, _ => none

/-- Reads a program with its arguments and redirections. -/
def simple (line : Nat) :
    Nat → List (String × Word) → List Word → List Redirect → Reader Command
  | 0, _, _, _ => failure
  | fuel + 1, assigned, words, redirects => do
    gap (fuel + 1)
    match (← get).rest with
    | [] => return .simple line assigned words redirects
    | c :: cs =>
      if c = '<' ∨ c = '>' then do
        let r ← redirect none
        simple line fuel assigned words (redirects ++ [r])
      else if c.isDigit ∧ (cs.head? = some '<' ∨ cs.head? = some '>') then do
        skip 1
        let r ← redirect (some (c.toNat - 48))
        simple line fuel assigned words (redirects ++ [r])
      else if isBoundary c then return .simple line assigned words redirects
      else match if words.isEmpty then assignment? (c :: cs) else none with
        | some name => do
          skip (name.length + 1)
          let value ← parts ((← get).rest.length + 1)
          simple line fuel (assigned ++ [(name, value)]) words redirects
        | none => do
          let w ← word
          simple line fuel assigned (words ++ [w]) redirects

/-- Reads the patterns of an arm up to their bracket. -/
def patterns : Nat → Reader (List Word)
  | 0 => failure
  | fuel + 1 => do
    gap (fuel + 1)
    let p ← word
    gap (fuel + 1)
    if ← accept "|" then return p :: (← patterns fuel)
    else do
      expect ")"
      return [p]

mutual

/-- Reads commands up to the end of a list. -/
def commands : Nat → Reader (List Command)
  | 0 => failure
  | fuel + 1 => do
    breaks (fuel + 1)
    match (← get).rest with
    | [] => return []
    | c :: cs =>
      if c = ')' ∨ (c = ';' ∧ cs.head? = some ';') ∨ (← rawWord) ∈ closers then return []
      else do
        let command ← joined fuel
        gap (fuel + 1)
        if ";;".toList.isPrefixOf (← get).rest then return command :: (← commands fuel)
        else if ← accept "&" then return .background command :: (← commands fuel)
        else do
          discard (accept ";")
          return command :: (← commands fuel)

/-- Reads pipelines joined by signs for "and" and "or". -/
def joined : Nat → Reader Command
  | 0 => failure
  | fuel + 1 => do
    let first ← pipeline fuel
    joinedTail fuel first

/-- Goes on behind a pipeline. -/
def joinedTail : Nat → Command → Reader Command
  | 0, _ => failure
  | fuel + 1, first => do
    gap (fuel + 1)
    if ← accept "&&" then do
      breaks (fuel + 1)
      joinedTail fuel (.both first (← pipeline fuel))
    else if ← accept "||" then do
      breaks (fuel + 1)
      joinedTail fuel (.either first (← pipeline fuel))
    else return first

/-- Reads a pipeline. -/
def pipeline : Nat → Reader Command
  | 0 => failure
  | fuel + 1 => do
    gap (fuel + 1)
    if (← rawWord) = "!" then do
      skip 1
      return .negate (← pipeline fuel)
    let left ← command fuel
    gap (fuel + 1)
    if (← peekAt 0) = some '|' ∧ (← peekAt 1) ≠ some '|' then do
      skip 1
      breaks (fuel + 1)
      return .pipe left (← pipeline fuel)
    else return left

/-- Reads the arms of a choice up to its end. -/
def arms : Nat → Reader (List (List Word × List Command))
  | 0 => failure
  | fuel + 1 => do
    breaks (fuel + 1)
    if (← rawWord) = "esac" then do
      skip 4
      return []
    discard (accept "(")
    let ps ← patterns ((← get).rest.length + 1)
    let body ← commands fuel
    breaks (fuel + 1)
    discard (accept ";;")
    return (ps, body) :: (← arms fuel)

/-- Reads what follows the positive part of a branch up to its end. -/
def otherwise : Nat → Reader (List Command)
  | 0 => failure
  | fuel + 1 => do
    breaks (fuel + 1)
    match ← rawWord with
    | "fi" => do
      skip 2
      return []
    | "else" => do
      skip 4
      let body ← commands fuel
      keyword "fi"
      return body
    | "elif" => do
      skip 4
      let condition ← commands fuel
      keyword "then"
      let positive ← commands fuel
      return [.branch condition positive (← otherwise fuel)]
    | _ => failure

/-- Reads a command. -/
def command : Nat → Reader Command
  | 0 => failure
  | fuel + 1 => do
    gap (fuel + 1)
    if (← peekAt 0) = some '(' then do
      skip 1
      let body ← commands fuel
      expect ")"
      return .group true body
    match ← rawWord with
    | "case" => do
      skip 4
      gap (fuel + 1)
      let subject ← word
      keyword "in"
      return .choice subject (← arms fuel)
    | "if" => do
      skip 2
      let condition ← commands fuel
      keyword "then"
      let positive ← commands fuel
      return .branch condition positive (← otherwise fuel)
    | "\x7b" => do
      skip 1
      let body ← commands fuel
      keyword "\x7d"
      return .group false body
    | _ => do
      let c ← simple (← get).line ((← get).rest.length + 1) [] [] []
      match c with
      | .simple _ [] [] [] => failure
      | _ => return c

end

end Reader

/-- The commands of a script. -/
def parse? (script : List Char) : Option (List Command) := do
  let (body, s) ← Reader.commands (4 * script.length + 16) ⟨script, 1⟩
  if s.rest.isEmpty then some body else none

end DrainGuard.Shell
