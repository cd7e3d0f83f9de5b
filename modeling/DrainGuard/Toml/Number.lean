import DrainGuard.Decimal.Read
import DrainGuard.Toml.Text

/-!
# Numbers in TOML

* `digitRun`: digits in groups with single underscores between them.
* `integer?`: an integer of 64 bits, decimal with a sign or without one in base 16, 8 or 2.
* `float?`: a number with a fraction or a power of ten, infinity, or "not a number".
-/

namespace DrainGuard.Toml

/-- Goes on in a run of digits. -/
def digitTail (isDigit : Char → Bool) : List Char → Option (List Char × List Char)
  | '_' :: d :: cs => if isDigit d then consText d (digitTail isDigit cs) else none
  | ['_'] => none
  | c :: cs => if isDigit c then consText c (digitTail isDigit cs) else some ([], c :: cs)
  | [] => some ([], [])

/-- Reads digits; an underscore stands between two of them. -/
def digitRun (isDigit : Char → Bool) : List Char → Option (List Char × List Char)
  | d :: cs => if isDigit d then consText d (digitTail isDigit cs) else none
  | [] => none

/-- Reads the digits of a decimal integer: no zero in front of other digits. -/
def wholeDigits : List Char → Option (List Char × List Char)
  | '0' :: cs => some (['0'], cs)
  | cs => digitRun Char.isDigit cs

/-- Numbers are at most this. -/
def maxInteger : Int := 0x7FFFFFFFFFFFFFFF

/-- Reads an unsigned integer in a base from its digits on. -/
def basedInteger (base : Nat) (cs : List Char) : Option (Int × List Char) := do
  let isDigit (c : Char) : Bool := (hexValue? c).any (· < base)
  let (ds, rest) ← digitRun isDigit cs
  let n := ds.foldl (fun n d => n * base + (hexValue? d).getD 0) 0
  if (n : Int) ≤ maxInteger then some (n, rest) else none

/-- Reads an integer. -/
def integer? : List Char → Option (Int × List Char)
  | '0' :: 'x' :: cs => basedInteger 16 cs
  | '0' :: 'o' :: cs => basedInteger 8 cs
  | '0' :: 'b' :: cs => basedInteger 2 cs
  | cs => do
    let (neg, cs) := Decimal.sign cs
    let (ds, rest) ← wholeDigits cs
    let n := Decimal.value ds
    let i : Int := if neg then -n else n
    if -maxInteger - 1 ≤ i ∧ i ≤ maxInteger then some (i, rest) else none

/-- Reads the digits behind the point; none and no digits without a point. -/
def fraction? : List Char → Option (Option (List Char) × List Char)
  | '.' :: cs => do
    let (ds, rest) ← digitRun Char.isDigit cs
    return (some ds, rest)
  | cs => some (none, cs)

/-- Reads a power of ten. -/
def power? (cs : List Char) : Option (Option Int × List Char) :=
  match cs with
  | c :: rest =>
    if c = 'e' ∨ c = 'E' then do
      let (neg, rest) := Decimal.sign rest
      let (ds, rest) ← digitRun Char.isDigit rest
      let n := Decimal.value ds
      return (some (if neg then -(n : Int) else n), rest)
    else some (none, cs)
  | [] => some (none, [])

/-- Reads a number that has a fraction, a power of ten or both. A number above the range of
binary64 is refused, but not one below it. -/
def decimal? (cs : List Char) : Option (Float × List Char) := do
  let (neg, cs) := Decimal.sign cs
  let (whole, cs) ← wholeDigits cs
  let (places, cs) ← fraction? cs
  let (power, cs) ← power? cs
  if places.isNone && power.isNone then none
  else
    let ds := places.getD []
    let x := Decimal.nearest (Decimal.value (whole ++ ds)) (power.getD 0 - ds.length)
    if x.isInf && !neg then none else some (if neg then -x else x, cs)

/-- Reads infinity or "not a number". -/
def special? (cs : List Char) : Option (Float × List Char) :=
  let (neg, cs) := Decimal.sign cs
  let sign (x : Float) : Float := if neg then -x else x
  match cs with
  | 'i' :: 'n' :: 'f' :: rest => some (sign (1.0 / 0.0), rest)
  | 'n' :: 'a' :: 'n' :: rest => some (sign (0.0 / 0.0), rest)
  | _ => none

/-- Reads a number that is no integer. -/
def float? (cs : List Char) : Option (Float × List Char) := decimal? cs <|> special? cs

end DrainGuard.Toml
