import DrainGuard.Text.Quoted
import DrainGuard.Decimal.Shortest

/-!
# JSON values

* `Value`: the data model; an object keeps its keys sorted and distinct.
* `Value.describe`: how a diagnostic names a value of the wrong type.
-/

namespace DrainGuard.Json

/-- A number: an integer of 64 bits, signed or unsigned, or binary64. -/
inductive Number where
  /-- An integer. -/
  | int (i : Int)
  /-- A binary64 number. -/
  | float (x : Float)
  deriving Inhabited

/-- A JSON value. -/
inductive Value where
  /-- The null value. -/
  | null
  /-- A truth value. -/
  | bool (b : Bool)
  /-- A number. -/
  | num (n : Number)
  /-- A text. -/
  | str (s : String)
  /-- A list. -/
  | arr (items : List Value)
  /-- An object, its keys in order and distinct. -/
  | obj (fields : List (String × Value))
  deriving Inhabited

/-- Puts a field in its place by key; a field of the same key is replaced. -/
def insertField {α : Type} (k : String) (v : α) : List (String × α) → List (String × α)
  | [] => [(k, v)]
  | (k', v') :: rest =>
    if k = k' then (k, v) :: rest
    else if k < k' then (k, v) :: (k', v') :: rest
    else (k', v') :: insertField k v rest

namespace Value

/-- An integer as a value. -/
def int (i : Int) : Value := .num (.int i)

/-- A natural number as a value. -/
def nat (n : Nat) : Value := .num (.int n)

/-- An object from fields in any order; of two fields with one key the later counts. -/
def ofFields (fs : List (String × Value)) : Value :=
  .obj (fs.foldl (fun acc f => insertField f.1 f.2 acc) [])

/-- The value under a key, null where there is none. -/
def get (v : Value) (key : String) : Value :=
  match v with
  | .obj fs => (fs.lookup key).getD .null
  | _ => .null

/-- How a diagnostic names the kind and content of a value. -/
def describe : Value → String
  | .null => "null"
  | .bool b => "boolean `" ++ toString b ++ "`"
  | .num (.int i) => "integer `" ++ toString i ++ "`"
  | .num (.float x) => "floating point `" ++ Decimal.Layout.report.render x ++ "`"
  | .str s => "string " ++ Text.quoted s
  | .arr _ => "sequence"
  | .obj _ => "map"

end Value

end DrainGuard.Json
