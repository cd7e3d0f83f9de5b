/-!
# Writing TOML

* `Form.ofText`: the form that a text is written in. The plain form comes first; the literal ones
  spare escapes; a text with line breaks goes over several lines.
* `writeText`: a text in its form.
* `Section.render`, `render`: sections of entries, a blank line between them.
-/

namespace DrainGuard.Toml

/-- A way to write a text. -/
inductive Form where
  /-- Between double quotes, with escapes. -/
  | basic
  /-- Between single quotes, as it is. -/
  | literal
  /-- Between three double quotes, with escapes. -/
  | block
  /-- Between three single quotes, as it is. -/
  | literalBlock
  deriving DecidableEq

/-- The length of the longest run of a character; `run` counts the one at the start. -/
def longestRun (c : Char) : Nat → List Char → Nat
  | run, [] => run
  | run, d :: ds => if d = c then longestRun c (run + 1) ds else max run (longestRun c 0 ds)

/-- A character that can only be written as an escape: a control character other than the tab and
the line feed. -/
def needsCode (c : Char) : Bool := (c.toNat < 0x20 && c ≠ '\t' && c ≠ '\n') || c.toNat = 0x7F

/-- The form of a text. -/
def Form.ofText (cs : List Char) : Form :=
  let codes := cs.any needsCode
  let backslash := cs.contains '\\'
  let breaks := cs.contains '\n'
  let doubles := longestRun '"' 0 cs
  let singles := longestRun '\'' 0 cs
  if !codes && !backslash && doubles = 0 && !breaks then .basic
  else if !codes && singles = 0 && !breaks then .literal
  else if !codes && !backslash && doubles ≤ 2 then .block
  else if !codes && singles ≤ 2 then .literalBlock
  else if breaks then .block
  else .basic

/-- The quotes of a form. -/
def Form.quotes : Form → List Char
  | .basic => ['"']
  | .literal => ['\'']
  | .block => ['"', '"', '"']
  | .literalBlock => ['\'', '\'', '\'']

/-- The form goes over several lines. -/
def Form.isBlock : Form → Bool
  | .block | .literalBlock => true
  | .basic | .literal => false

/-- The escape of a character that has one, the double quote apart. -/
def escapeOf? (c : Char) : Option (List Char) :=
  if c = '\\' then some ['\\', '\\']
  else if c = '\t' then some ['\\', 't']
  else if c = '\n' then some ['\\', 'n']
  else if c = '\r' then some ['\\', 'r']
  else if c.toNat = 8 then some ['\\', 'b']
  else if c.toNat = 12 then some ['\\', 'f']
  else if needsCode c then
    some ['\\', 'u', '0', '0', (Nat.digitChar (c.toNat / 16)).toUpper,
      (Nat.digitChar (c.toNat % 16)).toUpper]
  else none

/-- Writes a text with escapes. Double quotes are escaped where more than `quotesAllowed` would
stand in a row; `run` counts those in front. -/
def writeEscaped (block : Bool) (quotesAllowed : Nat) : Nat → List Char → List Char
  | _, [] => []
  | run, c :: cs =>
    if c = '"' then
      if run < quotesAllowed then '"' :: writeEscaped block quotesAllowed (run + 1) cs
      else '\\' :: '"' :: writeEscaped block quotesAllowed 0 cs
    else if c = '\n' ∧ block then '\n' :: writeEscaped block quotesAllowed 0 cs
    else match escapeOf? c with
      | some e => e ++ writeEscaped block quotesAllowed 0 cs
      | none => c :: writeEscaped block quotesAllowed 0 cs

/-- The characters between the quotes. -/
def Form.body : Form → List Char → List Char
  | .basic, cs => writeEscaped false 0 0 cs
  | .block, cs => writeEscaped true 2 0 cs
  | .literal, cs => cs
  | .literalBlock, cs => cs

/-- A text in its form. One with line breaks starts on a line of its own. -/
def writeText (cs : List Char) : List Char :=
  let form := Form.ofText cs
  let opening := if form.isBlock && cs.contains '\n' then ['\n'] else []
  form.quotes ++ opening ++ form.body cs ++ form.quotes

/-- What an entry holds. -/
inductive Entry where
  /-- A text. -/
  | text (s : String)
  /-- A number. -/
  | number (n : Nat)
  /-- A list of texts. -/
  | texts (ss : List String)

/-- The text of an entry. A list of several texts has one on each line. -/
def Entry.write : Entry → List Char
  | .text s => writeText s.toList
  | .number n => Nat.toDigits 10 n
  | .texts [] => ['[', ']']
  | .texts [s] => '[' :: writeText s.toList ++ [']']
  | .texts ss => '[' :: '\n' ::
      ss.flatMap (fun s => ' ' :: ' ' :: ' ' :: ' ' :: writeText s.toList ++ [',', '\n']) ++ [']']

/-- Entries under a header. -/
structure Section where
  /-- The header. -/
  name : String
  /-- The entries with their keys, in order. -/
  entries : List (String × Entry)

/-- The lines of a section. -/
def Section.write (s : Section) : List Char :=
  '[' :: s.name.toList ++ [']', '\n'] ++
    s.entries.flatMap fun (k, e) => k.toList ++ [' ', '=', ' '] ++ e.write ++ ['\n']

/-- A document of sections. -/
def write (sections : List Section) : List Char :=
  (['\n'] : List Char).intercalate (sections.map Section.write)

end DrainGuard.Toml
