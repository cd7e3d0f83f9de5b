/-!
# Reading numbers

* `natText?`, `intText?`: decimal integers with an optional sign.
* `realText?`: decimal numbers with point and power of ten, and the words for infinity and for
  "not a number".
-/

namespace DrainGuard.Decimal

/-- The value of decimal digits. -/
def value (cs : List Char) : Nat := cs.foldl (fun n c => n * 10 + (c.toNat - 48)) 0

/-- A nonempty run of decimal digits as a number. -/
def digits? (cs : List Char) : Option Nat :=
  if cs.isEmpty || !cs.all Char.isDigit then none else some (value cs)

/-- A sign, if there is one, and the rest; true for minus. -/
def sign (cs : List Char) : Bool × List Char :=
  match cs with
  | '+' :: rest => (false, rest)
  | '-' :: rest => (true, rest)
  | _ => (false, cs)

/-- A natural number, a plus sign allowed, at most `max`. -/
def natText? (max : Nat) (cs : List Char) : Option Nat :=
  let digits := match cs with
    | '+' :: rest => rest
    | _ => cs
  match digits? digits with
  | some n => if n ≤ max then some n else none
  | none => none

/-- An integer of 64 bits. -/
def intText? (cs : List Char) : Option Int :=
  let (neg, rest) := sign cs
  match digits? rest with
  | some n =>
    let i : Int := if neg then -n else n
    if -0x8000000000000000 ≤ i ∧ i < 0x8000000000000000 then some i else none
  | none => none

/-- The binary64 number nearest to `m * 10 ^ e`. -/
def nearest (m : Nat) (e : Int) : Float :=
  if m = 0 then 0.0
  else
    let lead := e + ((Nat.toDigits 10 m).length : Int)
    if 310 < lead then 1.0 / 0.0
    else if lead < -330 then 0.0
    else Float.ofScientific m (e < 0) e.natAbs

/-- The power of ten behind a number: none at the end of the text. -/
def power? (cs : List Char) : Option Int :=
  match cs with
  | [] => some 0
  | c :: rest =>
    if c = 'e' ∨ c = 'E' then
      let (neg, ds) := sign rest
      (digits? ds).map fun n => if neg then -(n : Int) else n
    else none

/-- A decimal number without sign. -/
def unsigned? (cs : List Char) : Option Float :=
  let whole := cs.takeWhile Char.isDigit
  let rest := cs.dropWhile Char.isDigit
  let (places, rest) := match rest with
    | '.' :: r => (r.takeWhile Char.isDigit, r.dropWhile Char.isDigit)
    | r => ([], r)
  if whole.isEmpty && places.isEmpty then none
  else (power? rest).map fun e => nearest (value (whole ++ places)) (e - places.length)

/-- A decimal number, infinity or "not a number". -/
def realText? (cs : List Char) : Option Float :=
  let (neg, rest) := sign cs
  let word := String.ofList (rest.map Char.toLower)
  let magnitude := if word = "inf" ∨ word = "infinity" then some (1.0 / 0.0)
    else if word = "nan" then some (0.0 / 0.0)
    else unsigned? rest
  magnitude.map fun x => if neg then -x else x

end DrainGuard.Decimal
