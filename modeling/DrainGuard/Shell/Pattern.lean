/-!
# Patterns

* `Glob.fits`: whether a text as a whole fits a pattern with wildcards.
* `Regex.search`: the first place of a text that fits a basic regular expression, and how far it
  reaches at most.
-/

namespace DrainGuard.Shell

/-- A set of characters, all of a range, or all others. -/
structure CharSet where
  /-- The set holds what is not in the ranges. -/
  negated : Bool
  /-- Ranges with their ends. -/
  ranges : List (Char × Char)

/-- The character is in the set. -/
def CharSet.has (s : CharSet) (c : Char) : Bool :=
  s.ranges.any (fun (low, high) => low ≤ c && c ≤ high) != s.negated

/-- Reads the ranges of a set up to its bracket. -/
def CharSet.ranges? : List Char → Option (List (Char × Char) × List Char)
  | ']' :: cs => some ([], cs)
  | low :: '-' :: high :: cs =>
    if high = ']' then (ranges? (high :: cs)).map fun (rs, rest) =>
      ((low, low) :: ('-', '-') :: rs, rest)
    else (ranges? cs).map fun (rs, rest) => ((low, high) :: rs, rest)
  | c :: cs => (ranges? cs).map fun (rs, rest) => ((c, c) :: rs, rest)
  | [] => none

/-- Reads a set from behind its bracket. -/
def CharSet.parse? : List Char → Option (CharSet × List Char)
  | '!' :: cs => (ranges? cs).map fun (rs, rest) => (⟨true, rs⟩, rest)
  | '^' :: cs => (ranges? cs).map fun (rs, rest) => (⟨true, rs⟩, rest)
  | cs => (ranges? cs).map fun (rs, rest) => (⟨false, rs⟩, rest)

/-- One piece of a pattern. -/
inductive Glob where
  /-- One character. -/
  | exactly (c : Char)
  /-- Any one character. -/
  | one
  /-- Any text. -/
  | any
  /-- One character of a set. -/
  | oneOf (s : CharSet)

namespace Glob

/-- The pieces of a pattern; at most `fuel` of them. -/
def ofChars : Nat → List Char → List Glob
  | 0, _ => []
  | _, [] => []
  | fuel + 1, '*' :: cs => .any :: ofChars fuel cs
  | fuel + 1, '?' :: cs => .one :: ofChars fuel cs
  | fuel + 1, '[' :: cs => match CharSet.parse? cs with
    | some (s, rest) => .oneOf s :: ofChars fuel rest
    | none => .exactly '[' :: ofChars fuel cs
  | fuel + 1, c :: cs => .exactly c :: ofChars fuel cs

/-- The text as a whole fits the pattern. -/
def fits : List Glob → List Char → Bool
  | [], cs => cs.isEmpty
  | .exactly p :: ps, c :: cs => p = c && fits ps cs
  | .one :: ps, _ :: cs => fits ps cs
  | .oneOf s :: ps, c :: cs => s.has c && fits ps cs
  | .any :: ps, [] => fits ps []
  | .any :: ps, c :: cs => fits ps (c :: cs) || fits (.any :: ps) cs
  | _ :: _, [] => false
termination_by ps cs => ps.length + cs.length

end Glob

/-- One piece of a regular expression: what one character may be, and whether it may come any
number of times. -/
structure RegexPiece where
  /-- What one character may be. -/
  admits : Char → Bool
  /-- It may come any number of times. -/
  repeated : Bool

/-- A basic regular expression. -/
structure Regex where
  /-- It fits only at the start. -/
  atStart : Bool
  /-- Its pieces. -/
  pieces : List RegexPiece
  /-- It fits only up to the end. -/
  atEnd : Bool

namespace Regex

/-- The pieces of an expression, and whether it ends in a dollar sign; at most `fuel` of them. -/
def piecesOf : Nat → List Char → List RegexPiece × Bool
  | 0, _ => ([], false)
  | _, [] => ([], false)
  | _, ['$'] => ([], true)
  | fuel + 1, c :: cs =>
    let (admits, rest) : (Char → Bool) × List Char :=
      match c, cs with
      | '.', _ => (fun _ => true, cs)
      | '\\', d :: rest => ((· == d), rest)
      | '[', _ => match CharSet.parse? cs with
        | some (s, rest) => (s.has, rest)
        | none => ((· == '['), cs)
      | _, _ => ((· == c), cs)
    match rest with
    | '*' :: rest =>
      let (ps, ending) := piecesOf fuel rest
      (⟨admits, true⟩ :: ps, ending)
    | _ =>
      let (ps, ending) := piecesOf fuel rest
      (⟨admits, false⟩ :: ps, ending)

/-- Reads an expression. -/
def ofChars (cs : List Char) : Regex :=
  let (atStart, body) := match cs with
    | '^' :: rest => (true, rest)
    | _ => (false, cs)
  let (pieces, atEnd) := piecesOf body.length body
  ⟨atStart, pieces, atEnd⟩

/-- What follows the longest start of a text that fits. -/
def longest (atEnd : Bool) : List RegexPiece → List Char → Option (List Char)
  | [], cs => if atEnd && !cs.isEmpty then none else some cs
  | p :: ps, [] => if p.repeated then longest atEnd ps [] else none
  | p :: ps, c :: cs =>
    if p.repeated then
      (if p.admits c then longest atEnd (p :: ps) cs else none) <|> longest atEnd ps (c :: cs)
    else if p.admits c then longest atEnd ps cs else none
termination_by ps cs => ps.length + cs.length

/-- The first place that fits: what is in front of it, what fits, and what follows. -/
def search (r : Regex) : List Char → Option (List Char × List Char × List Char)
  | [] => (longest r.atEnd r.pieces []).map fun _ => ([], [], [])
  | c :: cs => match longest r.atEnd r.pieces (c :: cs) with
    | some rest => some ([], (c :: cs).take (cs.length + 1 - rest.length), rest)
    | none =>
      if r.atStart then none
      else (search r cs).map fun (front, found, rest) => (c :: front, found, rest)

end Regex

end DrainGuard.Shell
