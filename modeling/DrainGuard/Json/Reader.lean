import DrainGuard.Json.Cursor
import DrainGuard.Json.Value

/-!
# Reading JSON

Readers for the pieces of a JSON text. The place of a fault is part of what they compute.

* `Reader.string`, `Reader.number`, `Reader.value`: strict readers.
* `Reader.ignore`: passes a value that nobody asks for. It does not look into numbers and
  escapes, and nesting is not limited.
* `Reader.whole`: a reader for a text that holds one value and nothing else.
* `parse`: the value of a text.
-/

namespace DrainGuard.Json

namespace Reader

/-! ## Words and strings -/

/-- Passes the rest of `null`, `true` or `false`. -/
def word : List Char → Reader Unit
  | [] => return ()
  | w :: ws => do
    match ← peek with
    | none => failHere .endInValue
    | some c => if c = w then do skip; word ws else failAhead .expectedWord

/-- The value of a hexadecimal digit. -/
def hexValue? (c : Char) : Option Nat :=
  if c.isDigit then some (c.toNat - 48)
  else if 'a' ≤ c ∧ c ≤ 'f' then some (c.toNat - 87)
  else if 'A' ≤ c ∧ c ≤ 'F' then some (c.toNat - 55)
  else none

/-- The number that four hexadecimal digits spell. -/
def hexFour? : List Char → Option Nat
  | [a, b, c, d] => do
    return ((← hexValue? a) * 16 + (← hexValue? b)) * 256 + (← hexValue? c) * 16 + (← hexValue? d)
  | _ => none

/-- Reads the four digits of a `\u` escape. -/
def hexEscape : Reader Nat := do
  let c ← get
  let four := c.rest.take 4
  if four.foldl (fun n d => n + d.utf8Size) 0 < 4 then
    set { c with rest := [], line := (c.placeAfter 4).1, column := (c.placeAfter 4).2 : Cursor }
    failHere .endInString
  else match hexFour? four with
    | some n => do
      set { c with rest := c.rest.drop 4, column := c.column + 4 : Cursor }
      return n
    | none => throw ⟨.invalidEscape, some (c.placeAfter 4)⟩

/-- The character that a one-letter escape stands for. -/
def simpleEscape? (c : Char) : Option Char :=
  if c = '"' ∨ c = '\\' ∨ c = '/' then some c
  else if c = 'b' then some (Char.ofNat 8)
  else if c = 'f' then some (Char.ofNat 12)
  else if c = 'n' then some '\n'
  else if c = 'r' then some '\r'
  else if c = 't' then some '\t'
  else none

/-- Passes `want`, the next part of a second escape, or stops. -/
def pairPart (want : Char) : Reader Unit := do
  match ← peek with
  | none => failHere .endInString
  | some c => if c = want then skip else failAhead .unexpectedHexEnd

/-- Reads the rest of a `\u` escape, both halves of a surrogate pair. -/
def unicodeEscape : Reader Char := do
  let n ← hexEscape
  if 0xDC00 ≤ n ∧ n ≤ 0xDFFF then failHere .loneSurrogate
  else if n < 0xD800 ∨ 0xDBFF < n then return Char.ofNat n
  else do
    pairPart '\\'
    pairPart 'u'
    let m ← hexEscape
    if m < 0xDC00 ∨ 0xDFFF < m then failHere .loneSurrogate
    else return Char.ofNat (0x10000 + (n - 0xD800) * 0x400 + (m - 0xDC00))

/-- Reads an escape behind its backslash. -/
def escape : Reader Char := do
  match ← peek with
  | none => failHere .endInString
  | some c =>
    if c = 'u' then do skip; unicodeEscape
    else match simpleEscape? c with
      | some d => do skip; return d
      | none => failAhead .invalidEscape

/-- Reads a string behind its opening quote; `acc` holds its characters so far, last first. -/
def stringLoop : Nat → List Char → Reader String
  | 0, _ => failHere .endInString
  | fuel + 1, acc => do
    match ← peek with
    | none => failHere .endInString
    | some c =>
      if c = '"' then do skip; return String.ofList acc.reverse
      else if c = '\\' then do
        skip
        let d ← escape
        stringLoop fuel (d :: acc)
      else if c.toNat < 0x20 then failAhead .controlCharacter
      else do skip; stringLoop fuel (c :: acc)

/-- Reads a string behind its opening quote. -/
def string : Reader String := do
  stringLoop ((← get).rest.length + 1) []

/-- Passes a string behind its opening quote. -/
def ignoreStringLoop : Nat → Reader Unit
  | 0 => failHere .endInString
  | fuel + 1 => do
    match ← peek with
    | none => failHere .endInString
    | some c =>
      if c = '"' then skip
      else if c = '\\' then do
        skip
        match ← peek with
        | none => failHere .endInString
        | some d =>
          if d = 'u' then do
            skip
            discard hexEscape
            ignoreStringLoop fuel
          else if (simpleEscape? d).isSome then do skip; ignoreStringLoop fuel
          else failAhead .invalidEscape
      else if c.toNat < 0x20 then failHere .controlCharacter
      else do skip; ignoreStringLoop fuel

/-- Passes a string behind its opening quote. -/
def ignoreString : Reader Unit := do
  ignoreStringLoop ((← get).rest.length + 1)

/-! ## Numbers -/

/-- The largest significand that is kept exactly. -/
def maxSignificand : Nat := 0xFFFFFFFFFFFFFFFF

/-- Passes decimal digits. -/
def skipDigits : Reader Unit := do
  let c ← get
  let n := (c.rest.takeWhile Char.isDigit).length
  set { c with rest := c.rest.drop n, column := c.column + n : Cursor }

/-- `f * 10 ^ e` or `f / 10 ^ -e` in binary64, in steps of at most `10 ^ 308`. -/
def scale : Nat → Float → Int → Reader Float
  | 0, f, _ => return f
  | fuel + 1, f, e => do
    let p := Float.ofScientific 1 false (min e.natAbs 308)
    if e.natAbs ≤ 308 then
      if 0 ≤ e then
        let g := f * p
        if g.isInf then failHere .numberOutOfRange else return g
      else return f / p
    else if f == 0 then return f
    else if 0 ≤ e then failHere .numberOutOfRange
    else scale fuel (f / p) (e + 308)

/-- A float from its sign, significand and power of ten. -/
def float (positive : Bool) (significand : Nat) (e : Int) : Reader Number := do
  let f ← scale 8 (UInt64.ofNat significand).toFloat e
  return .float (if positive then f else -f)

/-- Digits kept while they fit, and the rest, which is only counted. -/
structure Kept where
  /-- The significand. -/
  significand : Nat
  /-- How many digits it took. -/
  taken : Nat

/-- Takes digits into the significand as long as it fits 64 bits. -/
def keepDigits (significand : Nat) : List Char → Nat → Kept
  | [], taken => ⟨significand, taken⟩
  | c :: cs, taken =>
    if c.isDigit then
      let s := significand * 10 + (c.toNat - 48)
      if maxSignificand < s then ⟨significand, taken⟩ else keepDigits s cs (taken + 1)
    else ⟨significand, taken⟩

/-- Passes the digits that `keepDigits` takes. -/
def keep (significand : Nat) : Reader Kept := do
  let c ← get
  let k := keepDigits significand c.rest 0
  set { c with rest := c.rest.drop k.taken, column := c.column + k.taken : Cursor }
  return k

/-- The next character is a decimal digit. -/
def atDigit : Reader Bool := do return (← peek).any Char.isDigit

/-- The greatest power of ten that is kept exactly. -/
def maxExponent : Nat := 0x7FFFFFFF

/-- Adds digits to a power of ten; none if it grows beyond the limit, with what is left. -/
def exponentDigits (e : Nat) : List Char → Nat → Option Nat × Nat
  | [], taken => (some e, taken)
  | c :: cs, taken =>
    if c.isDigit then
      let e' := e * 10 + (c.toNat - 48)
      if maxExponent < e' then (none, taken + 1) else exponentDigits e' cs (taken + 1)
    else (some e, taken)

/-- Reads a power of ten from its `e` on. -/
def exponent (positive : Bool) (significand : Nat) (start : Int) : Reader Number := do
  skip
  let sign ← peek
  if sign = some '+' ∨ sign = some '-' then skip
  match ← peek with
  | none => failHere .endInValue
  | some c =>
    if !c.isDigit then failAhead .invalidNumber
    else do
      skip
      let cur ← get
      let (e?, taken) := exponentDigits (c.toNat - 48) cur.rest 0
      set { cur with rest := cur.rest.drop taken, column := cur.column + taken : Cursor }
      match e? with
      | some e =>
        let e := if sign = some '-' then start - e else start + e
        float positive significand (max (-0x80000000) (min e 0x7FFFFFFF))
      | none =>
        if significand ≠ 0 ∧ sign ≠ some '-' then failHere .numberOutOfRange
        else do
          skipDigits
          return .float (if positive then 0.0 else -0.0)

/-- Goes on with a power of ten, or ends the number. -/
def orExponent (positive : Bool) (significand : Nat) (e : Int) : Reader Number := do
  match ← peek with
  | some 'e' | some 'E' => exponent positive significand e
  | _ => float positive significand e

/-- Reads decimals from their point on. -/
def decimals (positive : Bool) (significand : Nat) (before : Int) : Reader Number := do
  skip
  let k ← keep significand
  if ← atDigit then do
    skipDigits
    orExponent positive k.significand (before - k.taken)
  else if k.taken = 0 then
    match ← peek with
    | some _ => failAhead .invalidNumber
    | none => failHere .endInValue
  else orExponent positive k.significand (before - k.taken)

/-- An integer, or a float where it does not fit or is a negative zero. -/
def whole64 (positive : Bool) (n : Nat) : Number :=
  if positive then .int n
  else if n = 0 ∨ 0x8000000000000000 < n then .float (-(UInt64.ofNat n).toFloat)
  else .int (-(n : Int))

/-- Goes on behind the integral digits. -/
def afterDigits (positive : Bool) (n : Nat) : Reader Number := do
  match ← peek with
  | some '.' => decimals positive n 0
  | some 'e' | some 'E' => exponent positive n 0
  | _ => return whole64 positive n

/-- Goes on behind more integral digits than fit. -/
def afterLongDigits (positive : Bool) (n extra : Nat) : Reader Number := do
  match ← peek with
  | some '.' => decimals positive n extra
  | some 'e' | some 'E' => exponent positive n extra
  | _ => float positive n extra

/-- Reads a number behind its sign. -/
def number (positive : Bool) : Reader Number := do
  match ← peek with
  | none => failHere .endInValue
  | some c =>
    if c = '0' then do
      skip
      if ← atDigit then failAhead .invalidNumber else afterDigits positive 0
    else if c.isDigit then do
      let k ← keep 0
      if ← atDigit then do
        let before := (← get).rest.length
        skipDigits
        afterLongDigits positive k.significand (before - (← get).rest.length)
      else afterDigits positive k.significand
    else failAhead .invalidNumber

/-- Passes a number behind its sign. -/
def ignoreNumber : Reader Unit := do
  match ← peek with
  | none => failHere .invalidNumber
  | some c =>
    if c = '0' then do
      skip
      if ← atDigit then failAhead .invalidNumber
    else if c.isDigit then skipDigits
    else failAhead .invalidNumber
  if (← peek) = some '.' then do
    skip
    if ← atDigit then skipDigits else failAhead .invalidNumber
  if (← peek) = some 'e' ∨ (← peek) = some 'E' then do
    skip
    if (← peek) = some '+' ∨ (← peek) = some '-' then skip
    match ← peek with
    | none => failHere .invalidNumber
    | some c => if c.isDigit then skipDigits else failAhead .invalidNumber

/-! ## Ignored values -/

/-- What a closing bracket would end. -/
inductive Frame where
  /-- A list. -/
  | list
  /-- An object. -/
  | object
  deriving DecidableEq

/-- The fault of a text that ends inside a frame. -/
def Frame.ended : Frame → Cause
  | .list => .endInList
  | .object => .endInObject

/-- The fault of a frame that goes on neither with a comma nor with its end. -/
def Frame.expected : Frame → Cause
  | .list => .expectedListEnd
  | .object => .expectedObjectEnd

/-- The bracket that closes a frame. -/
def Frame.close : Frame → Char
  | .list => ']'
  | .object => '}'

/-- Passes a key and its colon, from the opening quote on. -/
def ignoreKey : Reader Unit := do
  match ← peekToken with
  | none => failAhead .endInObject
  | some c => if c = '"' then skip else failAhead .keyMustBeString
  ignoreString
  match ← peekToken with
  | none => failAhead .endInObject
  | some c => if c = ':' then skip else failAhead .expectedColon

/-- Passes closing brackets and the comma before the next item; gives the frames still open, or
none when the value is complete. `accept` says whether an item has ended. -/
def closeFrames : List Frame → Bool → Reader (Option (List Frame))
  | [], _ => return none
  | frame :: outer, accept => do
    match ← peekToken with
    | none => failAhead frame.ended
    | some c =>
      if accept ∧ c = ',' then do skip; return some (frame :: outer)
      else if c = frame.close then do
        skip
        closeFrames outer true
      else if accept then failAhead frame.expected
      else return some (frame :: outer)

/-- Passes one value and goes on inside the open frames until the outermost value ends. -/
def ignoreLoop : Nat → List Frame → Reader Unit
  | 0, _ => failHere .tooDeep
  | fuel + 1, frames => do
    let scalar (r : Reader Unit) : Reader Unit := do
      r
      next fuel (← closeFrames frames true)
    match ← peekToken with
    | none => failAhead .endInValue
    | some c =>
      if c = 'n' then scalar do skip; word "ull".toList
      else if c = 't' then scalar do skip; word "rue".toList
      else if c = 'f' then scalar do skip; word "alse".toList
      else if c = '-' then scalar do skip; ignoreNumber
      else if c.isDigit then scalar ignoreNumber
      else if c = '"' then scalar do skip; ignoreString
      else if c = '[' then do
        skip
        next fuel (← closeFrames (.list :: frames) false)
      else if c = '{' then do
        skip
        next fuel (← closeFrames (.object :: frames) false)
      else failAhead .expectedValue
where
  /-- Passes the key before the next value, if there is a next value. -/
  next (fuel : Nat) : Option (List Frame) → Reader Unit
    | none => return ()
    | some frames => do
      if frames.head? = some .object then ignoreKey
      ignoreLoop fuel frames

/-- Passes a value that nobody asks for. -/
def ignore : Reader Unit := do
  ignoreLoop ((← get).rest.length + 1) []

/-! ## Lists and objects -/

/-- Is there another item? Passes the comma before it. -/
def moreItems (first : Bool) : Reader Bool := do
  match ← peekToken with
  | none => failAhead .endInList
  | some c =>
    if c = ']' then return false
    else if first then return true
    else if c = ',' then do
      skip
      match ← peekToken with
      | none => failAhead .endInValue
      | some d => if d = ']' then failAhead .trailingComma else return true
    else failAhead .expectedListEnd

/-- Is there another field? Passes the comma before it. -/
def moreFields (first : Bool) : Reader Bool := do
  match ← peekToken with
  | none => failAhead .endInObject
  | some c =>
    if c = '}' then return false
    else if first then if c = '"' then return true else failAhead .keyMustBeString
    else if c = ',' then do
      skip
      match ← peekToken with
      | none => failAhead .endInValue
      | some d =>
        if d = '"' then return true
        else if d = '}' then failAhead .trailingComma
        else failAhead .keyMustBeString
    else failAhead .expectedObjectEnd

/-- Passes the end of a list. -/
def listEnd : Reader Unit := do
  match ← peekToken with
  | none => failAhead .endInList
  | some c =>
    if c = ']' then skip
    else if c = ',' then do
      skip
      if (← peekToken) = some ']' then failAhead .trailingComma else failAhead .trailingCharacters
    else failAhead .trailingCharacters

/-- Passes the end of an object. -/
def objectEnd : Reader Unit := do
  match ← peekToken with
  | none => failAhead .endInObject
  | some c =>
    if c = '}' then skip
    else if c = ',' then failAhead .trailingComma
    else failAhead .trailingCharacters

/-- Passes the colon after a key. -/
def colon : Reader Unit := do
  match ← peekToken with
  | none => failAhead .endInObject
  | some c => if c = ':' then skip else failAhead .expectedColon

/-- Reads the inside of a bracket and then its end. The end is looked for after a fault as well,
since a complaint about the content takes the place behind it. -/
def closing {α : Type} (inside : Reader α) (ending : Reader Unit) : Reader α := fun c =>
  match inside.runAt c with
  | (.ok a, c') => match ending.runAt c' with
    | (.ok _, c'') => (.ok a, c'')
    | (.error e, c'') => (.error e, c'')
  | (.error e, c') => (.error e, (ending.runAt c').2)

/-- How deep values may be nested. -/
def maxDepth : Nat := 127

/-- Reads items until the list ends. -/
def items (item : Reader Value) : Nat → Bool → List Value → Reader (List Value)
  | 0, _, acc => return acc.reverse
  | fuel + 1, first, acc => do
    if ← moreItems first then do
      let v ← item
      items item fuel false (v :: acc)
    else return acc.reverse

/-- Reads fields until the object ends. -/
def fields (item : Reader Value) :
    Nat → Bool → List (String × Value) → Reader (List (String × Value))
  | 0, _, acc => return acc
  | fuel + 1, first, acc => do
    if ← moreFields first then do
      skip
      let k ← string
      colon
      let v ← item
      fields item fuel false (insertField k v acc)
    else return acc

/-- Reads a value that starts with neither bracket. -/
def scalar (c : Char) : Reader Value := do
  if c = 'n' then do skip; word "ull".toList; return .null
  else if c = 't' then do skip; word "rue".toList; return .bool true
  else if c = 'f' then do skip; word "alse".toList; return .bool false
  else if c = '-' then do skip; return .num (← number false)
  else if c.isDigit then return .num (← number true)
  else if c = '"' then do skip; return .str (← string)
  else failAhead .expectedValue

/-- Reads a value nested at most `depth` deep. -/
def value : Nat → Reader Value
  | 0 => do
    match ← peekToken with
    | none => failAhead .endInValue
    | some c => if c = '[' ∨ c = '{' then failAhead .tooDeep else scalar c
  | depth + 1 => do
    match ← peekToken with
    | none => failAhead .endInValue
    | some c =>
      if c = '[' then do
        skip
        let fuel := (← get).rest.length + 1
        closing (do return .arr (← items (value depth) fuel true [])) listEnd
      else if c = '{' then do
        skip
        let fuel := (← get).rest.length + 1
        closing (do return .obj (← fields (value depth) fuel true [])) objectEnd
      else scalar c

/-- Runs a reader on a text that must hold nothing else. -/
def whole {α : Type} (r : Reader α) (s : String) : Except Fault α :=
  (runAt (do
    let a ← r
    match ← peekToken with
    | none => return a
    | some _ => failAhead .trailingCharacters) (Cursor.ofString s)).1

/-! ## Expected kinds -/

/-- Complains about the kind of the next value, naming what it is. -/
def mismatch {α : Type} (expected : String) : Reader α := placed do
  match ← peek with
  | none => failAhead .expectedValue
  | some c =>
    if c = '[' then complain ("invalid type: sequence, expected " ++ expected)
    else if c = '{' then complain ("invalid type: map, expected " ++ expected)
    else do
      let v ← scalar c
      complain ("invalid type: " ++ v.describe ++ ", expected " ++ expected)

/-- Reads a string and then a meaning for it, or complains. -/
def text {α : Type} (expected : String) (meaning : String → Except String α) : Reader α := do
  match ← peekToken with
  | none => failAhead .endInValue
  | some c =>
    if c = '"' then placed do
      skip
      let s ← string
      match meaning s with
      | .ok a => return a
      | .error complaint => complain complaint
    else mismatch expected

/-! ## Records -/

/-- Reads the known fields of an object in any order and passes all others. -/
def knownFields {α : Type} (names : List String) (field : String → Reader α) :
    Nat → Bool → List (String × α) → Reader (List (String × α))
  | 0, _, acc => return acc
  | fuel + 1, first, acc => do
    if ← moreFields first then do
      skip
      let k ← string
      if k ∈ names then
        if (acc.lookup k).isSome then complain ("duplicate field `" ++ k ++ "`")
        else do
          colon
          let v ← field k
          knownFields names field fuel false (acc ++ [(k, v)])
      else do
        colon
        ignore
        knownFields names field fuel false acc
    else return acc

/-- Complains about the first name without a field. -/
def requireAll {α : Type} (found : List (String × α)) : List String → Reader Unit
  | [] => return ()
  | n :: ns => if (found.lookup n).isSome then requireAll found ns
    else complain ("missing field `" ++ n ++ "`")

/-- Reads the fields by position; `taken` counts those already read. -/
def positional {α : Type} (record : String) (total : Nat) (field : String → Reader α) :
    List String → Nat → List (String × α) → Reader (List (String × α))
  | [], _, acc => return acc
  | n :: ns, taken, acc => do
    if ← moreItems (taken = 0) then do
      let v ← field n
      positional record total field ns (taken + 1) (acc ++ [(n, v)])
    else complain ("invalid length " ++ toString taken ++ ", expected struct " ++ record ++
      " with " ++ toString total ++ " element" ++ (if total = 1 then "" else "s"))

/-- Reads a record, from an object by name or from a list by position. All names are required. -/
def record {α : Type} (name : String) (names : List String) (field : String → Reader α) :
    Reader (List (String × α)) := do
  match ← peekToken with
  | none => failAhead .endInValue
  | some c => placed do
    if c = '[' then do
      skip
      closing (positional name names.length field names 0 []) listEnd
    else if c = '{' then do
      skip
      let fuel := (← get).rest.length + 1
      closing (do
        let found ← knownFields names field fuel true []
        requireAll found names
        return found) objectEnd
    else mismatch ("struct " ++ name)

end Reader

/-- The value of a text that holds one value. -/
def parse (s : String) : Except Fault Value := Reader.whole (Reader.value Reader.maxDepth) s

end DrainGuard.Json
