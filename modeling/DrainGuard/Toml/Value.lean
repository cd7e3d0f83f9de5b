import DrainGuard.Entries

/-!
# TOML documents

* `Value`: what a key of a document holds.
* `Table`: a document while it is read. It knows which tables have been opened by a header and
  which only came up on the way to another one, since each may be opened once.
* `Table.update`: changes the table at the end of a path.
-/

namespace DrainGuard.Toml

/-- What a key holds. -/
inductive Value where
  /-- A text. -/
  | text (s : String)
  /-- An integer of 64 bits. -/
  | integer (i : Int)
  /-- A binary64 number. -/
  | float (x : Float)
  /-- A truth value. -/
  | bool (b : Bool)
  /-- A date, a time of day or both, in its canonical text. -/
  | moment (text : String)
  /-- A list. -/
  | array (items : List Value)
  /-- A table. -/
  | table (fields : List (String × Value))
  deriving Inhabited

/-- How a table came about. -/
inductive Origin where
  /-- By a header of its own, or as the document. -/
  | header
  /-- On the way to a table with a header. -/
  | passed
  /-- By a dotted key. -/
  | dotted
  deriving DecidableEq

mutual

/-- An entry of a table under construction. -/
inductive Item where
  /-- A finished value. -/
  | value (v : Value)
  /-- A table. -/
  | table (t : Table)
  /-- An array of tables, one for each header, the latest first. -/
  | tables (ts : List Table)

/-- A table under construction. -/
inductive Table where
  /-- How it came about, and its entries in order. -/
  | mk (origin : Origin) (entries : List (String × Item))

end

namespace Table

/-- How a table came about. -/
def origin : Table → Origin
  | mk o _ => o

/-- The entries of a table. -/
def entries : Table → List (String × Item)
  | mk _ es => es

/-- Replaces or adds an entry. -/
def put (t : Table) (key : String) (item : Item) : Table :=
  mk t.origin (setEntry key item t.entries)

/-- Changes the table at the end of a path. Missing tables come about on the way as `made`. A
dotted key may not enter a table that has a header of its own; nothing may enter a value. In an
array of tables the way leads through the latest. -/
def update (made : Origin) : List String → (Table → Option Table) → Table → Option Table
  | [], f, t => f t
  | key :: path, f, t =>
    match t.entries.lookup key with
    | none => (update made path f (mk made [])).map fun sub => t.put key (.table sub)
    | some (.value _) => none
    | some (.table sub) =>
      if made = .dotted ∧ sub.origin = .header then none
      else (update made path f sub).map fun sub => t.put key (.table sub)
    | some (.tables []) => none
    | some (.tables (last :: earlier)) =>
      (update made path f last).map fun last => t.put key (.tables (last :: earlier))

/-- Adds a key that the table does not have. A table made by dotted keys takes no other keys, and
the other way round. -/
def add (viaDots : Bool) (key : String) (v : Value) (t : Table) : Option Table :=
  if (t.origin = .dotted) ≠ viaDots then none
  else if (t.entries.lookup key).isSome then none
  else some (t.put key (.value v))

/-- Adds a value under a dotted key. -/
def addPath (path : List String) (key : String) (v : Value) (t : Table) : Option Table :=
  update .dotted path (add (!path.isEmpty) key v) t

end Table

mutual

/-- The value that an entry holds. -/
def Item.finish : Item → Value
  | .value v => v
  | .table t => t.finish
  | .tables ts => .array (finishTables ts).reverse

/-- The value of a table. -/
def Table.finish : Table → Value
  | .mk _ entries => .table (finishEntries entries)

/-- The values of entries. -/
def finishEntries : List (String × Item) → List (String × Value)
  | [] => []
  | (k, i) :: rest => (k, i.finish) :: finishEntries rest

/-- The values of tables. -/
def finishTables : List Table → List Value
  | [] => []
  | t :: ts => t.finish :: finishTables ts

end

end DrainGuard.Toml
