import DrainGuard.Json.Value

/-!
# Writing JSON

* `Value.compact`: a value on one line without blanks.
* `quote`: a text as a JSON string. Only the quote, the backslash and the characters below the
  blank are escaped.
* `pretty`: an object over several lines, two blanks deep.
-/

namespace DrainGuard.Json

/-- A digit of a `\u` escape. -/
def hexDigit (n : Nat) : Char := (Nat.digitChar (n % 16))

/-- The characters that stand for one character inside a JSON string. -/
def escapeChar (c : Char) : List Char :=
  if c = '"' then ['\\', '"']
  else if c = '\\' then ['\\', '\\']
  else if c.toNat = 8 then ['\\', 'b']
  else if c.toNat = 9 then ['\\', 't']
  else if c.toNat = 10 then ['\\', 'n']
  else if c.toNat = 12 then ['\\', 'f']
  else if c.toNat = 13 then ['\\', 'r']
  else if c.toNat < 0x20 then
    ['\\', 'u', '0', '0', hexDigit (c.toNat / 16), hexDigit (c.toNat % 16)]
  else [c]

/-- A text as a JSON string, as characters. -/
def quoteList (cs : List Char) : List Char := '"' :: (cs.flatMap escapeChar ++ ['"'])

/-- A text as a JSON string. -/
def quote (s : String) : String := String.ofList (quoteList s.toList)

namespace Number

/-- The text of a number. -/
def text : Number → String
  | .int i => toString i
  | .float x => Decimal.Layout.report.render x

end Number

namespace Value

mutual

/-- A value on one line without blanks. -/
def compact : Value → String
  | .null => "null"
  | .bool b => toString b
  | .num n => n.text
  | .str s => quote s
  | .arr items => "[" ++ compactItems items ++ "]"
  | .obj fields => "\x7b" ++ compactFields fields ++ "\x7d"

/-- The items of a list, comma between them. -/
def compactItems : List Value → String
  | [] => ""
  | [v] => v.compact
  | v :: vs => v.compact ++ "," ++ compactItems vs

/-- The fields of an object, comma between them. -/
def compactFields : List (String × Value) → String
  | [] => ""
  | [(k, v)] => quote k ++ ":" ++ v.compact
  | (k, v) :: fs => quote k ++ ":" ++ v.compact ++ "," ++ compactFields fs

end

end Value

/-- An object of plain fields over several lines, in the order given. -/
def pretty (fields : List (String × Value)) : String :=
  "\x7b\n" ++ String.intercalate ",\n" (fields.map fun f => "  " ++ quote f.1 ++ ": " ++ f.2.compact)
    ++ "\n\x7d"

end DrainGuard.Json
