import DrainGuard.Settings.Node

/-!
# Paths into layered values

The keys of a layer are paths: names behind points and positions in brackets, as in `a.b` or
`a[0]`. A key that is no path is a name of its own.

* `PathStep.parse?`: the steps of a path.
* `Node.assign`: lays a value over what is at the end of a path. What is in the way gives way to a
  table or list.
-/

namespace DrainGuard

/-- One step of a path. -/
inductive PathStep where
  /-- To a name in a table. -/
  | name (key : String)
  /-- To a position in a list, counted from the end if it is negative. -/
  | position (i : Int)
  deriving DecidableEq

namespace PathStep

/-- A character of a name. -/
def isNameChar (c : Char) : Bool := c.isAlphanum || c = ' ' || c = '_' || c = '-'

/-- A name at the start of a text. -/
def name? (cs : List Char) : Option (PathStep × List Char) :=
  let word := cs.takeWhile isNameChar
  if word.isEmpty then none else some (.name (String.ofList word), cs.dropWhile isNameChar)

/-- A blank around a position. -/
def isGap (c : Char) : Bool := c = ' ' || c = '\t'

/-- A position at the start of a text, from behind its bracket on. -/
def position? (cs : List Char) : Option (PathStep × List Char) :=
  let cs := cs.dropWhile isGap
  let (neg, digits) := match cs with
    | '-' :: rest => (true, rest)
    | _ => (false, cs)
  let word := digits.takeWhile Char.isDigit
  match Decimal.digits? word, (digits.dropWhile Char.isDigit).dropWhile isGap with
  | some n, ']' :: rest =>
    if n < 0x8000000000000000 then some (.position (if neg then -(n : Int) else n), rest) else none
  | _, _ => none

/-- The steps behind the first; at most `fuel` of them. -/
def tail? : Nat → List Char → Option (List PathStep)
  | _, [] => some []
  | 0, _ => none
  | fuel + 1, c :: cs => do
    let (step, rest) ← if c = '.' then name? cs else if c = '[' then position? cs else none
    return step :: (← tail? fuel rest)

/-- The steps of a path. -/
def parse? (cs : List Char) : Option (List PathStep) := do
  let (step, rest) ← name? cs
  return step :: (← tail? rest.length rest)

/-- The steps that a key stands for. -/
def ofKey (key : String) : List PathStep := (parse? key.toList).getD [.name key]

end PathStep

namespace Node

/-- The position of a list of some length that an index means; none before its start. -/
def slot? (i : Int) (length : Nat) : Option Nat :=
  if 0 ≤ i then some i.toNat
  else if i.natAbs ≤ length then some (length - i.natAbs) else none

/-- Lays a value over what is at the end of a path. -/
def assign (value : Node) : List PathStep → Node → Node
  | [], _ => value
  | [.name key], node => put key value node
  | .name key :: steps, node =>
    let (source, fields) := node.asTable
    let k := foldKey key
    .table source (setEntry k (assign value steps ((fields.lookup k).getD absent)) fields)
  | .position i :: steps, node =>
    let (source, items) := node.asItems
    match slot? i items.length with
    | none => node
    | some n =>
      let items := items ++ List.replicate (n + 1 - items.length) absent
      .list source (items.set n (assign value steps (items.getD n absent)))

end Node

end DrainGuard
