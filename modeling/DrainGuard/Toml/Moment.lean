import DrainGuard.Notice.Calendar
import DrainGuard.Decimal.Read

/-!
# Dates and times in TOML

* `moment?`: reads a date, a time of day or both, and gives its canonical text: `T` between date
  and time, no zeros at the end of a fraction of a second, at most nine places of it.
-/

namespace DrainGuard.Toml

/-- Reads a number of a fixed count of digits between two bounds. -/
def field? (width low high : Nat) (cs : List Char) : Option (Nat × List Char) := do
  let ds := cs.take width
  if ds.length < width then none
  let n ← Decimal.digits? ds
  if low ≤ n ∧ n ≤ high then some (n, cs.drop width) else none

/-- Passes a character. -/
def mark? (want : Char) : List Char → Option (List Char)
  | c :: cs => if c = want then some cs else none
  | [] => none

/-- A number with zeros in front, to a width. -/
def padded (width n : Nat) : List Char :=
  let ds := Nat.toDigits 10 n
  List.replicate (width - ds.length) '0' ++ ds

/-- Reads a date. -/
def date? (cs : List Char) : Option (List Char × List Char) := do
  let (year, cs) ← field? 4 0 9999 cs
  let cs ← mark? '-' cs
  let (month, cs) ← field? 2 1 12 cs
  let cs ← mark? '-' cs
  let (day, cs) ← field? 2 1 (Date.daysInMonth year month) cs
  return (padded 4 year ++ '-' :: padded 2 month ++ '-' :: padded 2 day, cs)

/-- The places of a fraction of a second that count. -/
def shortFraction (ds : List Char) : List Char :=
  match ((ds.take 9).reverse.dropWhile (· = '0')).reverse with
  | [] => []
  | ds => '.' :: ds

/-- Reads a fraction of a second, if there is one. -/
def secondFraction : List Char → Option (List Char × List Char)
  | '.' :: cs =>
    let ds := cs.takeWhile Char.isDigit
    if ds.isEmpty then none else some (shortFraction ds, cs.dropWhile Char.isDigit)
  | cs => some ([], cs)

/-- Reads a time of day. -/
def time? (cs : List Char) : Option (List Char × List Char) := do
  let (hour, cs) ← field? 2 0 23 cs
  let cs ← mark? ':' cs
  let (minute, cs) ← field? 2 0 59 cs
  let cs ← mark? ':' cs
  let (second, cs) ← field? 2 0 60 cs
  let (places, cs) ← secondFraction cs
  return (padded 2 hour ++ ':' :: padded 2 minute ++ ':' :: padded 2 second ++ places, cs)

/-- Reads a distance from universal time, if there is one. -/
def zone? (cs : List Char) : Option (List Char × List Char) :=
  match cs with
  | c :: rest =>
    if c = 'Z' ∨ c = 'z' then some (['Z'], rest)
    else if c = '+' ∨ c = '-' then do
      let (hour, rest) ← field? 2 0 23 rest
      let rest ← mark? ':' rest
      let (minute, rest) ← field? 2 0 59 rest
      let sign := if hour = 0 ∧ minute = 0 then '+' else c
      return (sign :: padded 2 hour ++ ':' :: padded 2 minute, rest)
    else some ([], cs)
  | [] => some ([], [])

/-- Reads the time of day behind a date. -/
def timeOfDate? : List Char → Option (List Char × List Char)
  | c :: cs =>
    if c = 'T' ∨ c = 't' ∨ c = ' ' then do
      let (time, cs) ← time? cs
      let (zone, cs) ← zone? cs
      return ('T' :: time ++ zone, cs)
    else none
  | [] => none

/-- Reads a date, a time of day or both. -/
def moment? (cs : List Char) : Option (String × List Char) :=
  match date? cs with
  | some (date, rest) =>
    let (time, rest) := (timeOfDate? rest).getD ([], rest)
    some (String.ofList (date ++ time), rest)
  | none => (time? cs).map fun (time, rest) => (String.ofList time, rest)

end DrainGuard.Toml
