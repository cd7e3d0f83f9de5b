import DrainGuard.Json.Reader

/-!
# JSON as it is written

What is JSON and what it says, told without a reader.

- **Strings** (`Spells`, `Quotes`): characters between quotes and the text that they spell. Of a
  string that nobody asks for only its form counts (`Passes`): a code need not be a character.
- **Numbers** (`IsNumeral`): a sign, digits, decimals and a power of ten.
- **Values** (`Written`): values of any depth; lists and objects share one rule, in which an object
  has a name and a colon before each of its values (`Lead`).
- **Objects** (`Members`): the inside of an object with its names, spelt out, and the texts of their
  values.
-/

namespace DrainGuard.Json

open Reader (Frame)

/-- Blanks between tokens. -/
def Gap (g : List Char) : Prop := ∀ c ∈ g, c ∈ [' ', '\t', '\n', '\r']

/-! ## Strings -/

/-- The letters of escapes, each with the character that it stands for. -/
def escapeLetters : List (Char × Char) :=
  [('"', '"'), ('\\', '\\'), ('/', '/'), ('b', Char.ofNat 8), ('f', Char.ofNat 12),
    ('n', Char.ofNat 10), ('r', Char.ofNat 13), ('t', Char.ofNat 9)]

/-- The hexadecimal digit of a number below 16. -/
def HexDigit (c : Char) (n : Nat) : Prop :=
  "0123456789abcdef".toList[n]? = some c ∨ "0123456789ABCDEF".toList[n]? = some c

/-- Four hexadecimal digits of a number. -/
inductive HexCode : List Char → Nat → Prop where
  | digits {a b c d : Char} {i j k l : Nat} (ha : HexDigit a i) (hb : HexDigit b j)
      (hc : HexDigit c k) (hd : HexDigit d l) :
      HexCode [a, b, c, d] (((i * 16 + j) * 16 + k) * 16 + l)

/-- What stands behind a backslash for a character: a letter, the code of the character, or the
codes of the two surrogates of a character that needs them. -/
inductive Escapes : List Char → Char → Prop where
  | letter {e c : Char} (h : (e, c) ∈ escapeLetters) : Escapes [e] c
  | code {ds : List Char} {n : Nat} (h : HexCode ds n) (hn : n < 0xD800 ∨ 0xDFFF < n) :
      Escapes ('u' :: ds) (Char.ofNat n)
  | pair {ds es : List Char} {n m : Nat} (h : HexCode ds n) (h' : HexCode es m)
      (hn : 0xD800 ≤ n ∧ n ≤ 0xDBFF) (hm : 0xDC00 ≤ m ∧ m ≤ 0xDFFF) :
      Escapes ('u' :: (ds ++ '\\' :: 'u' :: es))
        (Char.ofNat (0x10000 + (n - 0xD800) * 0x400 + (m - 0xDC00)))

/-- A character that stands for itself inside a string. -/
def Literal (c : Char) : Prop := c ≠ '"' ∧ c ≠ '\\' ∧ 0x20 ≤ c.toNat

/-- The characters between the quotes of a string, and the text that they spell. -/
inductive Spells : List Char → List Char → Prop where
  | nil : Spells [] []
  | plain {c : Char} {cs s : List Char} (hc : Literal c) (h : Spells cs s) :
      Spells (c :: cs) (c :: s)
  | escape {e : List Char} {c : Char} {cs s : List Char} (he : Escapes e c) (h : Spells cs s) :
      Spells ('\\' :: (e ++ cs)) (c :: s)

/-- A spelling takes a character at least for each that it spells. -/
theorem Spells.length_le {cs s : List Char} (h : Spells cs s) : s.length ≤ cs.length := by
  induction h with
  | nil => exact Nat.le_refl 0
  | plain _ _ ih => exact Nat.succ_le_succ ih
  | escape _ _ ih =>
    rw [List.length_cons, List.length_cons, List.length_append]
    omega

/-- A string of a text. -/
def Quotes (v : List Char) (s : String) : Prop :=
  ∃ cs, v = '"' :: (cs ++ ['"']) ∧ Spells cs s.toList

/-- The characters between the quotes of a string that nobody asks for. -/
inductive Passes : List Char → Prop where
  | nil : Passes []
  | plain {c : Char} {cs : List Char} (hc : Literal c) (h : Passes cs) : Passes (c :: cs)
  | letter {e c : Char} {cs : List Char} (he : (e, c) ∈ escapeLetters) (h : Passes cs) :
      Passes ('\\' :: e :: cs)
  | code {ds : List Char} {n : Nat} {cs : List Char} (hn : HexCode ds n) (h : Passes cs) :
      Passes ('\\' :: 'u' :: (ds ++ cs))

/-! ## Numbers -/

/-- Decimal digits, one at least. -/
def Digits (ds : List Char) : Prop := ds ≠ [] ∧ ∀ c ∈ ds, c.isDigit = true

/-- The integral part of a number; only zero begins with a zero. -/
def Integral (ds : List Char) : Prop := ds = ['0'] ∨ Digits ds ∧ ds.head? ≠ some '0'

/-- The decimals of a number, if it has any. -/
def Decimals (l : List Char) : Prop := l = [] ∨ ∃ ds, Digits ds ∧ l = '.' :: ds

/-- The power of ten of a number, if it has one. -/
def Exponent (l : List Char) : Prop :=
  l = [] ∨ ∃ e sign ds, (e = 'e' ∨ e = 'E') ∧ (sign = [] ∨ sign = ['+'] ∨ sign = ['-']) ∧
    Digits ds ∧ l = e :: (sign ++ ds)

/-- A number without its sign. -/
def IsNumeral (cs : List Char) : Prop :=
  ∃ i d e, Integral i ∧ Decimals d ∧ Exponent e ∧ cs = i ++ (d ++ e)

/-! ## Values -/

/-- The bracket that opens a frame. -/
def opening : Frame → Char
  | .list => '['
  | .object => '\x7b'

/-- What is before a value in a frame: in an object, a name and a colon. -/
def Lead (f : Frame) (k : List Char) : Prop :=
  match f with
  | .list => k = []
  | .object => ∃ name g g', Passes name ∧ Gap g ∧ Gap g' ∧
      k = '"' :: (name ++ '"' :: (g ++ ':' :: g'))

/-- What can be written. -/
inductive Kind where
  /-- A value. -/
  | value
  /-- Values between the brackets of a frame, one at least. -/
  | items (f : Frame)

/-- A value, or values between brackets with commas between them. -/
inductive Written : Kind → List Char → Prop where
  | word {w : String} (h : w ∈ ["null", "true", "false"]) : Written .value w.toList
  | positive {cs : List Char} (h : IsNumeral cs) : Written .value cs
  | negative {cs : List Char} (h : IsNumeral cs) : Written .value ('-' :: cs)
  | string {cs : List Char} (h : Passes cs) : Written .value ('"' :: (cs ++ ['"']))
  | empty (f : Frame) {g : List Char} (hg : Gap g) : Written .value (opening f :: (g ++ [f.close]))
  | nested {f : Frame} {cs : List Char} (h : Written (.items f) cs) :
      Written .value (opening f :: (cs ++ [f.close]))
  | last {f : Frame} {g k v g' : List Char} (hg : Gap g) (hk : Lead f k) (hv : Written .value v)
      (hg' : Gap g') : Written (.items f) (g ++ (k ++ (v ++ g')))
  | more {f : Frame} {g k v g' cs : List Char} (hg : Gap g) (hk : Lead f k)
      (hv : Written .value v) (hg' : Gap g') (h : Written (.items f) cs) :
      Written (.items f) (g ++ (k ++ (v ++ (g' ++ ',' :: cs))))

/-! ## Objects -/

/-- What is before a field but blanks: a comma, unless the field is the first. -/
def Comma (first : Bool) (l : List Char) : Prop :=
  if first then l = [] else ∃ g, Gap g ∧ l = g ++ [',']

/-- The inside of an object, with its names and the texts of their values. -/
inductive Members : Bool → List Char → List (String × List Char) → Prop where
  | done (first : Bool) {g : List Char} (hg : Gap g) : Members first g []
  | next {first : Bool} {b g k g' g'' v cs : List Char} {name : String}
      {ms : List (String × List Char)} (hb : Comma first b) (hg : Gap g) (hk : Quotes k name)
      (hg' : Gap g') (hg'' : Gap g'') (hv : Written .value v) (h : Members false cs ms) :
      Members first (b ++ (g ++ (k ++ (g' ++ ':' :: (g'' ++ (v ++ cs)))))) ((name, v) :: ms)

end DrainGuard.Json
