import DrainGuard.Settings.Decode
import DrainGuard.Json.Value

/-!
# Settings from JSON

JSON is read strictly: a number is no text, a text is no number, and a list that stands for a
record has no more items than the record has fields.

* `strictFormat`: JSON values as a format.
* `Settings.ofJson`: settings from a JSON value.
-/

namespace DrainGuard

open Json (Value)

/-- A complaint about the kind of a value. -/
def unexpected (v : Value) (expected : String) : String :=
  "invalid type: " ++ v.describe ++ ", expected " ++ expected

/-- Reads a whole number of 64 bits without sign. -/
def strictNatural (v : Value) : Except String Nat :=
  match v with
  | .num (.int i) =>
    if 0 ≤ i then .ok i.toNat
    else .error ("invalid value: integer `" ++ toString i ++ "`, expected u64")
  | v => .error (unexpected v "u64")

/-- Reads a text. -/
def strictText (v : Value) : Except String String :=
  match v with
  | .str s => .ok s
  | v => .error (unexpected v "a string")

/-- Takes the fields of a record from an object or a list. -/
def strictFields (shape : Shape) (v : Value) : Except String (List (Found Value)) :=
  match v with
  | .obj fs => .ok (fs.map fun (k, x) => ⟨k, k, x⟩)
  | .arr vs => .ok (Found.atPosition shape vs)
  | v => .error (unexpected v ("struct " ++ shape.name))

/-- Complains about a required field that is missing, and about items beyond the last field. -/
def strictComplete (shape : Shape) (v : Value) : Except String Unit :=
  match v with
  | .obj fs =>
    match (shape.fields.take shape.required).find? fun k => (fs.lookup k).isNone with
    | some k => .error ("missing field `" ++ k ++ "`")
    | none => .ok ()
  | .arr vs =>
    if vs.length < shape.required then
      .error ("invalid length " ++ toString vs.length ++ ", expected struct " ++ shape.name ++
        " with " ++ toString shape.fields.length ++ " elements")
    else if shape.fields.length < vs.length then
      .error ("invalid length " ++ toString vs.length ++ ", expected fewer elements in array")
    else .ok ()
  | _ => .ok ()

/-- JSON values as a format. -/
def strictFormat : Format Value String where
  natural := strictNatural
  text := strictText
  isAbsent v := v matches .null
  items v := match v with
    | .arr vs => .ok vs
    | v => .error (unexpected v "a sequence")
  fields := strictFields
  complete := strictComplete
  inside _ e := e

/-- Settings from a JSON value. -/
def Settings.ofJson (v : Value) : Except String Settings := decode strictFormat v

end DrainGuard
