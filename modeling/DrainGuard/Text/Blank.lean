/-!
# Blanks, trimming and lines

Characters with the Unicode property `White_Space`, and the cuts that depend on them. All
operations work on `List Char`; the `String` forms only wrap them.

* `isBlank`: the property itself.
* `dropWhile_isBlank_head`: what is left after dropping blanks starts with none.
-/

namespace DrainGuard.Text

/-- A character with the Unicode property `White_Space`. -/
def isBlank (c : Char) : Bool :=
  let n := c.toNat
  (9 ≤ n && n ≤ 13) || n == 32 || n == 0x85 || n == 0xA0 || n == 0x1680 ||
    (0x2000 ≤ n && n ≤ 0x200A) || n == 0x2028 || n == 0x2029 || n == 0x202F || n == 0x205F ||
    n == 0x3000

/-- The characters without the blanks in front. -/
def trimStartList (cs : List Char) : List Char := cs.dropWhile isBlank

/-- The characters without the blanks at the end. -/
def trimEndList (cs : List Char) : List Char := (cs.reverse.dropWhile isBlank).reverse

/-- The characters without the blanks at either end. -/
def trimList (cs : List Char) : List Char := trimEndList (trimStartList cs)

/-- The text without the blanks at either end. -/
def trim (s : String) : String := String.ofList (trimList s.toList)

/-- A text that holds nothing but blanks. -/
def isBlankText (s : String) : Bool := s.toList.all isBlank

/-- An ASCII capital as its small letter; every other character stays. -/
def lowerAscii (s : String) : String := String.ofList (s.toList.map Char.toLower)

/-- The runs of characters between blanks, none of them empty. -/
def words (cs : List Char) : List (List Char) :=
  (cs.splitBy fun a b => isBlank a == isBlank b).filter fun w => !w.all isBlank

/-- Cuts at every line feed. One more piece than there are line feeds. -/
def splitLines : List Char → List (List Char)
  | [] => [[]]
  | c :: cs =>
    if c = '\n' then [] :: splitLines cs
    else match splitLines cs with
      | [] => [[c]]
      | l :: ls => (c :: l) :: ls

/-- The number of lines of a text: a line feed ends a line, and what follows the last one counts
if it is not empty. -/
def lineCount (s : String) : Nat :=
  let pieces := splitLines s.toList
  if pieces.getLast? = some [] then pieces.length - 1 else pieces.length

/-- The last line that is not blank, trimmed. -/
def lastLine? (cs : List Char) : Option (List Char) :=
  ((splitLines cs).reverse.map trimList).find? fun l => !l.isEmpty

theorem splitLines_ne_nil (cs : List Char) : splitLines cs ≠ [] := by
  cases cs with
  | nil => simp [splitLines]
  | cons c cs =>
    simp only [splitLines]
    split
    · simp
    · split <;> simp

/-- What is left after dropping blanks starts with none. -/
theorem dropWhile_isBlank_head {cs : List Char} {c : Char} {r : List Char}
    (h : cs.dropWhile isBlank = c :: r) : isBlank c = false := by
  induction cs with
  | nil => simp at h
  | cons a cs ih =>
    rw [List.dropWhile_cons] at h
    split at h
    · exact ih h
    · next ha => cases h; simpa using ha

end DrainGuard.Text
