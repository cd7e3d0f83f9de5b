/-!
# Bytes and text

UTF-8 in both directions over lists.

* `decode`: reads any bytes; a broken sequence becomes one replacement character for its longest
  well-formed start.
* `decode?`: reads well-formed bytes only.
* `encode`: the bytes of a text.
-/

namespace DrainGuard.Text

/-- The replacement character U+FFFD. -/
def replacement : Char := Char.ofNat 0xFFFD

/-- A byte that continues a sequence. -/
def isContinuation (b : UInt8) : Bool := 0x80 ≤ b && b ≤ 0xBF

/-- The number of bytes that a lead byte announces after itself; none for a byte that leads
nothing. -/
def followers (b : UInt8) : Option Nat :=
  if b < 0x80 then some 0
  else if 0xC2 ≤ b && b ≤ 0xDF then some 1
  else if 0xE0 ≤ b && b ≤ 0xEF then some 2
  else if 0xF0 ≤ b && b ≤ 0xF4 then some 3
  else none

/-- The second bytes that a lead byte admits: no overlong form, no surrogate, nothing above
U+10FFFF. -/
def admitsSecond (b c : UInt8) : Bool :=
  if b = 0xE0 then 0xA0 ≤ c && c ≤ 0xBF
  else if b = 0xED then 0x80 ≤ c && c ≤ 0x9F
  else if b = 0xF0 then 0x90 ≤ c && c ≤ 0xBF
  else if b = 0xF4 then 0x80 ≤ c && c ≤ 0x8F
  else isContinuation c

/-- How many of the next `n` bytes continue the sequence that `b` leads. -/
def continuing (b : UInt8) (n : Nat) : List UInt8 → Nat
  | c :: cs => if 0 < n && admitsSecond b c then 1 + ((cs.take (n - 1)).takeWhile isContinuation).length
    else 0
  | [] => 0

/-- The code point of a whole sequence: the payload bits of the lead byte, then six of each
byte after it. -/
def assemble (b : UInt8) (n : Nat) (cs : List UInt8) : Nat :=
  let lead := if n = 0 then b.toNat else b.toNat % Nat.pow 2 (6 - n)
  cs.foldl (fun acc c => acc * 64 + c.toNat % 64) lead

/-- The first character of `b :: rest`, whether it was well formed, and what follows it. -/
def firstChar (b : UInt8) (rest : List UInt8) : Char × Bool × List UInt8 :=
  match followers b with
  | none => (replacement, false, rest)
  | some n =>
    let k := continuing b n rest
    if k = n then (Char.ofNat (assemble b n (rest.take n)), true, rest.drop n)
    else (replacement, false, rest.drop k)

theorem firstChar_length_le (b : UInt8) (rest : List UInt8) :
    (firstChar b rest).2.2.length ≤ rest.length := by
  unfold firstChar
  split
  · simp
  · dsimp only; split <;> simp

/-- The text that bytes spell, with a replacement character for each broken sequence. -/
def decode : List UInt8 → List Char
  | [] => []
  | b :: rest =>
    let step := firstChar b rest
    step.1 :: decode step.2.2
termination_by bs => bs.length
decreasing_by
  have := firstChar_length_le b rest
  simp only [List.length_cons]
  omega

/-- The text that well-formed bytes spell. -/
def decode? : List UInt8 → Option (List Char)
  | [] => some []
  | b :: rest =>
    let step := firstChar b rest
    if step.2.1 then (decode? step.2.2).map (step.1 :: ·) else none
termination_by bs => bs.length
decreasing_by
  have := firstChar_length_le b rest
  simp only [List.length_cons]
  omega

/-- The bytes of a text. -/
def encode (cs : List Char) : List UInt8 := cs.flatMap String.utf8EncodeChar

/-- The text of bytes, broken sequences replaced. -/
def ofBytes (bs : List UInt8) : String := String.ofList (decode bs)

/-- The bytes of a text. -/
def toBytes (s : String) : List UInt8 := encode s.toList

end DrainGuard.Text
