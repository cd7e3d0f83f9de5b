import DrainGuard.Notice.Moment
import DrainGuard.Text.Blank

/-!
# Dates and times in text

The format of RFC 3339 with the leniencies of notices: blanks around the parts, a blank or a
small `t` between date and time, `UTC` for the offset, and colons and blanks between its hours
and minutes.

* `Rfc3339.parse`: a text as an instant.
* `Rfc3339.render`: an instant as text, with as few fraction digits as its precision in groups
  of three needs.
-/

namespace DrainGuard.Rfc3339

/-- Why a text is no instant. -/
inductive Fault where
  /-- A part has no such value, or the date does not exist. -/
  | outOfRange
  /-- The offset leads out of the calendar. -/
  | impossible
  /-- A character that does not belong there. -/
  | invalid
  /-- The text ends too early. -/
  | tooShort
  /-- The text goes on after the offset. -/
  | tooLong
  deriving DecidableEq

/-- The wording of a fault. -/
def Fault.text : Fault → String
  | outOfRange => "input is out of range"
  | impossible => "no possible date and time matching input"
  | invalid => "input contains invalid characters"
  | tooShort => "premature end of input"
  | tooLong => "trailing input"

/-- The value of decimal digits. -/
def digitsValue (cs : List Char) : Nat := cs.foldl (fun n c => n * 10 + (c.toNat - 48)) 0

/-- Reads at least one and at most `width` digits. -/
def digits (width : Option Nat) (cs : List Char) : Except Fault (Nat × List Char) :=
  match cs with
  | [] => .error .tooShort
  | c :: _ =>
    if !c.isDigit then .error .invalid
    else
      let run := cs.takeWhile Char.isDigit
      let taken := match width with
        | some w => run.take w
        | none => run
      .ok (digitsValue taken, cs.drop taken.length)

/-- Passes one given character. -/
def literal (want : Char) (cs : List Char) : Except Fault (List Char) :=
  match cs with
  | [] => .error .tooShort
  | c :: rest => if c = want then .ok rest else .error .invalid

/-- Reads a part of at most two digits after blanks and checks its range. -/
def part (low high : Nat) (cs : List Char) : Except Fault (Nat × List Char) := do
  let (n, rest) ← digits (some 2) (Text.trimStartList cs)
  if low ≤ n ∧ n ≤ high then return (n, rest) else throw .outOfRange

/-- Reads a year: four digits at most, or any number behind a sign. -/
def year (cs : List Char) : Except Fault (Int × List Char) := do
  let (n, rest) ← match Text.trimStartList cs with
    | '-' :: cs => do
      let (n, rest) ← digits none cs
      pure (-(n : Int), rest)
    | '+' :: cs => do
      let (n, rest) ← digits none cs
      pure ((n : Int), rest)
    | cs => do
      let (n, rest) ← digits (some 4) cs
      pure ((n : Int), rest)
  if -0x80000000 ≤ n ∧ n < 0x80000000 then return (n, rest) else throw .outOfRange

/-- Passes a separator between parts, blanks in front of it. -/
def separator (want : Char) (cs : List Char) : Except Fault (List Char) :=
  literal want (Text.trimStartList cs)

/-- Reads the fraction of a second, if there is one; digits beyond nanoseconds are dropped. -/
def fraction (cs : List Char) : Except Fault (Nat × List Char) :=
  match cs with
  | '.' :: cs => do
    let (n, rest) ← digits (some 9) cs
    let places := cs.length - rest.length
    return (n * Nat.pow 10 (9 - places), rest.dropWhile Char.isDigit)
  | _ => .ok (0, cs)

/-- Reads exactly two digits, the first at most `high`. -/
def twoDigits (high : Nat) (cs : List Char) : Except Fault (Nat × List Char) :=
  match cs with
  | [] => .error .tooShort
  | [c] => if c.utf8Size < 2 then .error .tooShort else .error .invalid
  | a :: b :: rest =>
    if a.isDigit ∧ b.isDigit then
      if a.toNat - 48 ≤ high then .ok ((a.toNat - 48) * 10 + (b.toNat - 48), rest)
      else .error .outOfRange
    else .error .invalid

/-- Reads an offset from universal time in seconds. -/
def offset (cs : List Char) : Except Fault (Int × List Char) :=
  if (cs.take 3).map Char.toLower = ['u', 't', 'c'] then .ok (0, cs.drop 3)
  else match cs with
    | [] => .error .tooShort
    | c :: cs =>
      if c = 'Z' ∨ c = 'z' then .ok (0, cs)
      else if c = '+' ∨ c = '-' ∨ c = Char.ofNat 0x2212 then do
        let (hours, cs) ← twoDigits 9 cs
        let (minutes, cs) ← twoDigits 5 (cs.dropWhile fun c => c = ':' || Text.isBlank c)
        let seconds : Int := (hours * 3600 + minutes * 60 : Nat)
        return (if c = '+' then seconds else -seconds, cs)
      else .error .invalid

/-- Passes what stands between date and time. -/
def dateEnd (cs : List Char) : Except Fault (List Char) :=
  match cs with
  | [] => .error .tooShort
  | c :: rest => if c = 't' ∨ c = 'T' ∨ c = ' ' then .ok rest else .error .invalid

/-- The parts of a text, each in its own range. -/
structure Parts where
  /-- The date. -/
  date : Date
  /-- The hour. -/
  hour : Nat
  /-- The minute. -/
  minute : Nat
  /-- The second, 60 within a leap second. -/
  second : Nat
  /-- Nanoseconds within the second. -/
  nanos : Nat
  /-- The offset from universal time in seconds. -/
  offset : Int

/-- Reads the parts of a text. -/
def parts (cs : List Char) : Except Fault Parts := do
  let (year, cs) ← year cs
  let cs ← separator '-' cs
  let (month, cs) ← part 1 12 cs
  let cs ← separator '-' cs
  let (day, cs) ← part 1 31 cs
  let cs ← dateEnd cs
  let (hour, cs) ← part 0 23 cs
  let cs ← separator ':' cs
  let (minute, cs) ← part 0 59 cs
  let cs ← separator ':' cs
  let (second, cs) ← part 0 60 cs
  let (nanos, cs) ← fraction cs
  let (offset, cs) ← offset (Text.trimStartList cs)
  if (Text.trimStartList cs).isEmpty then return ⟨⟨year, month, day⟩, hour, minute, second, nanos, offset⟩
  else throw .tooLong

/-- The first and the last year of the calendar. -/
def years : Int × Int := (-262143, 262142)

/-- The year belongs to the calendar. -/
def inCalendar (y : Int) : Bool := years.1 ≤ y && y ≤ years.2

/-- The instant that parts name. -/
def Parts.toMoment (p : Parts) : Except Fault Moment :=
  if ¬(p.date.Valid ∧ inCalendar p.date.year) then .error .outOfRange
  else if p.offset ≤ -86400 ∨ 86400 ≤ p.offset then .error .outOfRange
  else
    let second := min p.second 59
    let nanos := p.nanos + (if p.second = 60 then nanosPerSecond else 0)
    let local_ : Int := p.date.toDays * 86400 + (p.hour * 3600 + p.minute * 60 + second : Nat)
    let m : Moment := ⟨local_ - p.offset, nanos⟩
    if inCalendar (Date.ofDays m.day).year then .ok m else .error .impossible

/-- A text as an instant. -/
def parse (s : String) : Except Fault Moment := do (← parts s.toList).toMoment

/-! ## Rendering -/

/-- A number with at least `width` digits. -/
def padded (width n : Nat) : List Char :=
  let ds := Nat.toDigits 10 n
  List.replicate (width - ds.length) '0' ++ ds

/-- A year: four digits, or a sign and at least four digits. -/
def renderYear (y : Int) : List Char :=
  if 0 ≤ y ∧ y ≤ 9999 then padded 4 y.toNat
  else (if y < 0 then '-' else '+') :: padded 4 y.natAbs

/-- The fraction of a second in groups of three digits. -/
def renderFraction (n : Nat) : List Char :=
  if n = 0 then []
  else if n % 1000000 = 0 then '.' :: padded 3 (n / 1000000)
  else if n % 1000 = 0 then '.' :: padded 6 (n / 1000)
  else '.' :: padded 9 n

/-- An instant as text, with the offset `+00:00`. -/
def render (m : Moment) : String :=
  let d := Date.ofDays m.day
  let s := m.secondOfDay.toNat
  let leap := nanosPerSecond ≤ m.nanos
  let second := s % 60 + (if leap then 1 else 0)
  let nanos := if leap then m.nanos - nanosPerSecond else m.nanos
  String.ofList (renderYear d.year ++ '-' :: padded 2 d.month ++ '-' :: padded 2 d.day ++
    'T' :: padded 2 (s / 3600) ++ ':' :: padded 2 (s / 60 % 60) ++ ':' :: padded 2 second ++
    renderFraction nanos ++ "+00:00".toList)

end DrainGuard.Rfc3339
