/-!
# Shortest decimals

The fewest decimal digits that read back as a given binary64 number, and the layouts in which
the program prints them.

* `shortest`: digits and exponent, computed exactly on natural numbers.
* `Layout.render`: one number in a layout; `Layout.report` is the layout of diagnostics and
  `Layout.setting` that of a number used as text.
-/

namespace DrainGuard.Decimal

/-- A finite positive binary64 number as `mantissa * 2 ^ exponent`. -/
structure Binary where
  /-- The integral mantissa. -/
  mantissa : Nat
  /-- The power of two. -/
  exponent : Int

/-- The magnitude of a finite number, taken from its bits. -/
def Binary.ofFloat (x : Float) : Binary :=
  let bits : Nat := x.toBits.toNat % 0x8000000000000000
  let e : Nat := bits / 0x10000000000000
  let f : Nat := bits % 0x10000000000000
  if e = 0 then ⟨f, -1074⟩ else ⟨f + 0x10000000000000, (e : Int) - 1075⟩

/-- The open or closed interval of reals that round to a number, scaled by `4 * 2 ^ exponent`:
the lower end, the upper end, and whether the ends belong to it. -/
def Binary.interval (b : Binary) : Nat × Nat × Bool :=
  let lower := if b.mantissa = 0x10000000000000 ∧ -1074 < b.exponent then 4 * b.mantissa - 1
    else 4 * b.mantissa - 2
  (lower, 4 * b.mantissa + 2, b.mantissa % 2 = 0)

/-- Decimal digits with the position of the point: `digits * 10 ^ exponent`. -/
structure Digits where
  /-- The digits as one number. -/
  digits : Nat
  /-- The power of ten. -/
  exponent : Int

/-- `2 ^ e / 10 ^ g` as a quotient of naturals. -/
def ratio (e g : Int) : Nat × Nat :=
  (Nat.pow 2 e.toNat * Nat.pow 10 (-g).toNat, Nat.pow 2 (-e).toNat * Nat.pow 10 g.toNat)

/-- The nearest multiple of `10 ^ g` that rounds to the number, if there is one. -/
def Binary.onGrid (b : Binary) (g : Int) : Option Nat :=
  let (num, den) := ratio (b.exponent - 2) g
  let (lo, hi, closed) := b.interval
  let value := 4 * b.mantissa * num
  let below := value / den
  let fits (k : Nat) : Bool :=
    let at4 := k * den
    if closed then lo * num ≤ at4 && at4 ≤ hi * num else lo * num < at4 && at4 < hi * num
  let remBelow := value - below * den
  let nearest := if 2 * remBelow < den then below
    else if den < 2 * remBelow then below + 1
    else if below % 2 = 0 then below else below + 1
  let other := if nearest = below then below + 1 else below
  if 0 < nearest && fits nearest then some nearest
  else if 0 < other && fits other then some other
  else none

/-- Searches the grids from coarse to fine. -/
def Binary.search (b : Binary) : Nat → Int → Option Digits
  | 0, _ => none
  | n + 1, g => match b.onGrid g with
    | some d => some ⟨d, g⟩
    | none => b.search n (g - 1)

/-- Drops zeros at the end of the digits. -/
def Digits.normalize (d : Digits) : Nat → Digits
  | 0 => d
  | n + 1 => if d.digits ≠ 0 ∧ d.digits % 10 = 0 then
      Digits.normalize ⟨d.digits / 10, d.exponent + 1⟩ n
    else d

/-- An upper estimate of the decimal exponent of a number. -/
def Binary.topGrid (b : Binary) : Int :=
  ((b.exponent + b.mantissa.log2) * 30103) / 100000 + 1

/-- The fewest digits that read back as the number, the nearest to it among those. -/
def shortest (x : Float) : Digits :=
  let b := Binary.ofFloat x
  if b.mantissa = 0 then ⟨0, 0⟩
  else ((b.search 25 b.topGrid).getD ⟨0, 0⟩).normalize 25

/-- How a number is laid out: the exponents of the leading digit written with a plain point, and
whether a whole number keeps `.0`. -/
structure Layout where
  /-- The least exponent written without a power of ten. -/
  least : Option Int
  /-- The greatest exponent written without a power of ten. -/
  greatest : Option Int
  /-- A whole number ends in `.0`. -/
  keepsPoint : Bool

/-- Diagnostics write a power of ten outside `1e-5` to `1e15`, with a sign and two digits. -/
def Layout.report : Layout := ⟨some (-5), some 15, true⟩

/-- A number used as text never has a power of ten. -/
def Layout.setting : Layout := ⟨none, none, false⟩

/-- A misplaced number is named without a power of ten, but with a point. -/
def Layout.misplaced : Layout := ⟨none, none, true⟩

/-- Writes digits with a plain point. -/
def plain (keepsPoint : Bool) (d : Digits) : String :=
  let ds := toString d.digits
  if 0 ≤ d.exponent then
    ds ++ String.ofList (List.replicate d.exponent.toNat '0') ++ (if keepsPoint then ".0" else "")
  else
    let places := (-d.exponent).toNat
    let cs := ds.toList
    let padded := List.replicate (places + 1 - cs.length) '0' ++ cs
    let cut := padded.length - places
    String.ofList (padded.take cut ++ '.' :: padded.drop cut)

/-- Writes digits with one digit before the point and a power of ten. -/
def scientific (lead : Int) (d : Digits) : String :=
  let ds := (toString d.digits).toList
  let mantissa := match ds with
    | [] => []
    | [c] => [c]
    | c :: cs => c :: '.' :: cs
  let e := toString lead.natAbs
  let e := if e.length < 2 then "0" ++ e else e
  String.ofList mantissa ++ "e" ++ (if lead < 0 then "-" else "+") ++ e

/-- One number in a layout. -/
def Layout.render (l : Layout) (x : Float) : String :=
  if x.isNaN then "NaN"
  else
    let sign := if x.toBits.toNat / 0x8000000000000000 = 1 then "-" else ""
    if x.isInf then sign ++ "inf"
    else
      let d := shortest x
      let lead := d.exponent + ((toString d.digits).length : Int) - 1
      let isPlain := d.digits = 0 || ((l.least.all fun e => e ≤ lead) &&
        l.greatest.all fun e => lead ≤ e)
      sign ++ (if isPlain then plain l.keepsPoint d else scientific lead d)

end DrainGuard.Decimal
