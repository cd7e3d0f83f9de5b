/-!
# Texts in TOML

The four ways to write a text, each read from behind its opening quotes. The readers work on
`List Char` and give what follows the closing quotes; they have no answer for a malformed text.

* `basicBody`, `literalBody`: texts on one line.
* `blockBody`, `literalBlockBody`: texts over several lines.
* `text?`: a text in any form.
-/

namespace DrainGuard.Toml

/-- A character that a text or a comment may hold as it is: no control character but the tab. -/
def isPlain (c : Char) : Bool := c = '\t' || (0x20 ≤ c.toNat && c.toNat ≠ 0x7F)

/-- A blank inside a line. -/
def isGap (c : Char) : Bool := c = ' ' || c = '\t'

/-- Passes one line break. -/
def newline? : List Char → Option (List Char)
  | '\n' :: rest => some rest
  | '\r' :: '\n' :: rest => some rest
  | _ => none

/-- The value of a hexadecimal digit. -/
def hexValue? (c : Char) : Option Nat :=
  if c.isDigit then some (c.toNat - 48)
  else if 'a' ≤ c ∧ c ≤ 'f' then some (c.toNat - 87)
  else if 'A' ≤ c ∧ c ≤ 'F' then some (c.toNat - 55)
  else none

/-- The number that digits spell in base 16. -/
def hexNumber? (ds : List Char) : Option Nat :=
  ds.foldlM (fun n d => (hexValue? d).map (n * 16 + ·)) 0

/-- Reads a character given by its number in `n` hexadecimal digits. -/
def scalar? (n : Nat) (cs : List Char) : Option (Char × List Char) :=
  if (cs.take n).length < n then none
  else do
    let v ← hexNumber? (cs.take n)
    if v.isValidChar then some (Char.ofNat v, cs.drop n) else none

/-- Reads an escape from behind its backslash. -/
def escape? : List Char → Option (Char × List Char)
  | 'b' :: cs => some (Char.ofNat 8, cs)
  | 't' :: cs => some ('\t', cs)
  | 'n' :: cs => some ('\n', cs)
  | 'f' :: cs => some (Char.ofNat 12, cs)
  | 'r' :: cs => some ('\r', cs)
  | '"' :: cs => some ('"', cs)
  | '\\' :: cs => some ('\\', cs)
  | 'u' :: cs => scalar? 4 cs
  | 'U' :: cs => scalar? 8 cs
  | _ => none

theorem scalar?_length_le {n : Nat} {cs r : List Char} {c : Char} (h : scalar? n cs = some (c, r)) :
    r.length ≤ cs.length := by
  unfold scalar? at h
  split at h
  · simp at h
  · cases hv : hexNumber? (cs.take n) with
    | none => simp [hv] at h
    | some v =>
      simp only [hv, Option.bind_eq_bind, Option.bind_some] at h
      split at h
      · cases h; simp
      · simp at h

theorem escape?_length_lt {cs r : List Char} {c : Char} (h : escape? cs = some (c, r)) :
    r.length < cs.length := by
  unfold escape? at h
  split at h
  case h_8 => exact Nat.lt_succ_of_le (scalar?_length_le h)
  case h_9 => exact Nat.lt_succ_of_le (scalar?_length_le h)
  case h_10 => simp at h
  all_goals cases h; simp

/-- Puts a character in front of a text that has been read. -/
def consText (c : Char) (read : Option (List Char × List Char)) : Option (List Char × List Char) :=
  read.map fun (text, rest) => (c :: text, rest)

/-! ## One line -/

/-- Reads a text with escapes up to its closing quote. -/
def basicBody : List Char → Option (List Char × List Char)
  | [] => none
  | c :: cs =>
    if c = '"' then some ([], cs)
    else if c = '\\' then
      match _h : escape? cs with
      | some (d, rest) => consText d (basicBody rest)
      | none => none
    else if isPlain c then consText c (basicBody cs)
    else none
termination_by cs => cs.length
decreasing_by
  · have := escape?_length_lt _h
    simp only [List.length_cons]; omega
  · simp

/-- Reads a text without escapes up to its closing quote. -/
def literalBody : List Char → Option (List Char × List Char)
  | [] => none
  | c :: cs =>
    if c = '\'' then some ([], cs)
    else if isPlain c then consText c (literalBody cs)
    else none

/-! ## Several lines -/

/-- Passes blanks and line breaks. -/
def skipBreaks : List Char → List Char
  | '\r' :: '\n' :: rest => skipBreaks rest
  | c :: rest => if c = '\n' ∨ isGap c then skipBreaks rest else c :: rest
  | [] => []

theorem skipBreaks_length_le (cs : List Char) : (skipBreaks cs).length ≤ cs.length := by
  fun_induction skipBreaks cs <;> simp_all <;> omega

/-- Passes a line break that a backslash takes out of the text, and all blanks after it. Reads from
behind the backslash. -/
def foldedBreak? (cs : List Char) : Option (List Char) :=
  (newline? (cs.dropWhile isGap)).map skipBreaks

theorem newline?_length_lt {cs r : List Char} (h : newline? cs = some r) : r.length < cs.length := by
  unfold newline? at h
  split at h
  · cases h
    exact Nat.lt_succ_self _
  · cases h
    exact Nat.lt_add_of_pos_right Nat.two_pos
  · cases h

theorem foldedBreak?_length_lt {cs r : List Char} (h : foldedBreak? cs = some r) :
    r.length < cs.length := by
  unfold foldedBreak? at h
  cases hn : newline? (cs.dropWhile isGap) with
  | none => simp [hn] at h
  | some a =>
    simp only [hn, Option.map_some, Option.some.injEq] at h
    subst h
    have h₁ := newline?_length_lt hn
    have h₂ := skipBreaks_length_le a
    have h₃ := (List.dropWhile_sublist isGap (l := cs)).length_le
    omega

/-- Ends a text over several lines at three quotes; up to two more in front of them belong to the
text. -/
def closeBlock (quote : Char) (cs : List Char) : Option (List Char × List Char) :=
  let extra := (cs.takeWhile (· = quote)).length
  if extra ≤ 2 then some (List.replicate extra quote, cs.drop extra) else none

/-- Reads a text with escapes up to its three closing quotes. -/
def blockBody : List Char → Option (List Char × List Char)
  | [] => none
  | '"' :: '"' :: '"' :: cs => closeBlock '"' cs
  | '\r' :: '\n' :: cs => consText '\n' (blockBody cs)
  | c :: cs =>
    if c = '\\' then
      match _hf : foldedBreak? cs with
      | some rest => blockBody rest
      | none => match _h : escape? cs with
        | some (d, rest) => consText d (blockBody rest)
        | none => none
    else if c = '\n' ∨ isPlain c then consText c (blockBody cs)
    else none
termination_by cs => cs.length
decreasing_by
  · simp only [List.length_cons]; omega
  · have := foldedBreak?_length_lt _hf
    simp only [List.length_cons]; omega
  · have := escape?_length_lt _h
    simp only [List.length_cons]; omega
  · simp

/-- Reads a text without escapes up to its three closing quotes. -/
def literalBlockBody : List Char → Option (List Char × List Char)
  | [] => none
  | '\'' :: '\'' :: '\'' :: cs => closeBlock '\'' cs
  | '\r' :: '\n' :: cs => consText '\n' (literalBlockBody cs)
  | c :: cs => if c = '\n' ∨ isPlain c then consText c (literalBlockBody cs) else none

/-- A line break right behind the opening quotes is no part of the text. -/
def trimFirstBreak (cs : List Char) : List Char := (newline? cs).getD cs

/-! ## Any form -/

/-- Reads a text in one of the forms on one line, as keys have it. -/
def lineText? : List Char → Option (List Char × List Char)
  | '"' :: cs => basicBody cs
  | '\'' :: cs => literalBody cs
  | _ => none

/-- Reads a text in any form. -/
def text? : List Char → Option (List Char × List Char)
  | '"' :: '"' :: '"' :: cs => blockBody (trimFirstBreak cs)
  | '\'' :: '\'' :: '\'' :: cs => literalBlockBody (trimFirstBreak cs)
  | cs => lineText? cs

end DrainGuard.Toml
