import DrainGuard.Decimal.Shortest
import DrainGuard.Decimal.Read
import DrainGuard.Entries
import DrainGuard.Text.Quoted
import DrainGuard.Settings.Decode

/-!
# Layered values

Configuration comes in layers, each laid over those before it. A value knows the layer that it
came from. Numbers, truth values and texts are taken for each other where that makes sense.

* `Node.put`: lays a value over the one under a key. A table is merged into what is there, key by
  key; everything else replaces it.
* `layeredFormat`: layered values as a format.
-/

namespace DrainGuard

/-- A single value. -/
inductive Scalar where
  /-- No value. -/
  | absent
  /-- A truth value. -/
  | truth (b : Bool)
  /-- An integer. -/
  | integer (i : Int)
  /-- A binary64 number. -/
  | real (x : Float)
  /-- A text. -/
  | text (s : String)
  deriving Inhabited

/-- A value with the name of the layer that it came from. A table or list that only came about
for the sake of what it holds has no such name. -/
inductive Node where
  /-- A single value. -/
  | scalar (source : Option String) (value : Scalar)
  /-- A list. -/
  | list (source : Option String) (items : List Node)
  /-- A table. -/
  | table (source : Option String) (fields : List (String × Node))
  deriving Inhabited

/-- A key without regard to case. The sign of the Kelvin is a K. -/
def foldKey (key : String) : String :=
  String.ofList (key.toList.map fun c => if c.toNat = 0x212A then 'k' else c.toLower)

namespace Node

/-- No value. -/
def absent : Node := .scalar none .absent

/-- A table without entries that came from no layer. -/
def emptyTable : Node := .table none []

/-- The table itself, or a new one in place of anything else. -/
def asTable : Node → Option String × List (String × Node)
  | .table source fields => (source, fields)
  | _ => (none, [])

/-- The items of a list; none in place of anything else. -/
def asItems : Node → Option String × List Node
  | .list source items => (source, items)
  | _ => (none, [])

mutual

/-- Lays a value over the one that `root` has under a key. -/
def put (key : String) (value : Node) (root : Node) : Node :=
  let (source, fields) := root.asTable
  let k := foldKey key
  match value with
  | .table _ incoming =>
    let target := (fields.lookup k).getD emptyTable
    .table source (setEntry k (putAll incoming target) fields)
  | .scalar s v => .table source (setEntry k (.scalar s v) fields)
  | .list s items => .table source (setEntry k (.list s items) fields)

/-- Lays values over those that `root` has, each under its key. -/
def putAll (values : List (String × Node)) (root : Node) : Node :=
  match values with
  | [] => root
  | (key, value) :: rest => putAll rest (put key value root)

end

/-! ## Kinds -/

/-- How a complaint about a setting names a value. -/
def describe : Node → String
  | .scalar _ .absent => "unit value"
  | .scalar _ (.truth b) => "boolean `" ++ toString b ++ "`"
  | .scalar _ (.integer i) => "64-bit integer `" ++ toString i ++ "`"
  | .scalar _ (.real x) => "floating point `" ++ Decimal.Layout.setting.render x ++ "`"
  | .scalar _ (.text s) => "string " ++ Text.quoted s
  | .list .. => "sequence"
  | .table .. => "map"

/-- How a complaint about a section names a value. -/
def describePlain : Node → String
  | .scalar _ (.integer i) => "integer `" ++ toString i ++ "`"
  | .scalar _ (.real x) => "floating point `" ++ Decimal.Layout.misplaced.render x ++ "`"
  | v => v.describe

/-- The layer that a value came from. -/
def source : Node → Option String
  | .scalar s _ => s
  | .list s _ => s
  | .table s _ => s

/-- A complaint about a value in place of a setting. -/
def wrongType (v : Node) (expected : String) : ConfigFault :=
  .wrongType v.describe expected v.source none

/-- A complaint about a value in place of a section or list. -/
def misplaced (v : Node) (expected : String) : ConfigFault :=
  .complaint ("invalid type: " ++ v.describePlain ++ ", expected " ++ expected)

/-- The largest whole number of 64 bits without sign. -/
def maxNatural : Nat := 0xFFFFFFFFFFFFFFFF

/-- The nearest whole number; a half goes up, and what is out of range goes to its end. -/
def naturalOfFloat (x : Float) : Nat :=
  if x.isNaN || x ≤ 0 then 0
  else if 18446744073709551615.0 ≤ x then maxNatural
  else x.round.toUInt64.toNat

/-- A text taken as a whole number. -/
def naturalOfText (s : String) : Option Nat :=
  let word := Text.lowerAscii s
  if word = "true" ∨ word = "on" ∨ word = "yes" then some 1
  else if word = "false" ∨ word = "off" ∨ word = "no" then some 0
  else Decimal.natText? maxNatural s.toList

/-- Reads a whole number. -/
def natural (v : Node) : Except ConfigFault Nat :=
  match v with
  | .scalar _ (.truth b) => .ok b.toNat
  | .scalar _ (.integer i) =>
    if 0 ≤ i then .ok i.toNat else .error (v.wrongType "an unsigned 64 bit or less integer")
  | .scalar _ (.real x) => .ok (naturalOfFloat x)
  | .scalar _ (.text s) =>
    match naturalOfText s with
    | some n => .ok n
    | none => .error (v.wrongType "an integer")
  | v => .error (v.wrongType "an integer")

/-- Reads a text. -/
def text (v : Node) : Except ConfigFault String :=
  match v with
  | .scalar _ (.truth b) => .ok (toString b)
  | .scalar _ (.integer i) => .ok (toString i)
  | .scalar _ (.real x) => .ok (Decimal.Layout.setting.render x)
  | .scalar _ (.text s) => .ok s
  | v => .error (v.wrongType "a string")

end Node

/-- A complaint about a value at a place inside another. -/
def ConfigFault.inside (place : String) : ConfigFault → ConfigFault
  | .wrongType found expected source key =>
    .wrongType found expected source <| some <| match key with
      | none => place
      | some k => if k.toList.head? = some '[' then place ++ k else place ++ "." ++ k
  | fault => fault

/-- Layered values as a format. A list that stands for a record may be longer than the record. -/
def layeredFormat : Format Node ConfigFault where
  natural := Node.natural
  text := Node.text
  isAbsent v := v matches .scalar _ .absent
  items v := match v with
    | .list _ vs => .ok vs
    | v => .error (v.misplaced "a sequence")
  fields shape v := match v with
    | .table _ fs => .ok (fs.map fun (k, x) => ⟨k, k, x⟩)
    | .list _ vs => .ok (Found.atPosition shape vs)
    | v => .error (v.misplaced ("struct " ++ shape.name))
  complete _ _ := .ok ()
  inside := ConfigFault.inside

end DrainGuard
