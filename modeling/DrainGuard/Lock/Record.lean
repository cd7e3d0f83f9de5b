import DrainGuard.Mode
import DrainGuard.Json.Reader
import DrainGuard.Json.Writer
import DrainGuard.Text.Utf8

/-!
# The record in a lock file

Whoever holds the lock writes down who it is. The record only informs; the lock does not depend
on it.

* `LockRecord.encode`: the bytes of a record, JSON over five lines.
* `LockRecord.pidIn`: the process that a lock file names, 0 if it holds no record.
-/

namespace DrainGuard

/-- What a holder writes down. -/
structure LockRecord where
  /-- Its process. -/
  pid : Nat
  /-- What it does. -/
  mode : RunMode
  /-- When it took the lock. -/
  startedAt : String
  deriving DecidableEq

namespace LockRecord

/-- The bytes of a record. -/
def encode (r : LockRecord) : List UInt8 :=
  Text.toBytes (Json.pretty [("pid", .nat r.pid), ("mode", .str r.mode.name),
    ("started_at", .str r.startedAt)])

open Json (Reader Value)

/-- Accepts a value that a test finds right. -/
def accepting (test : Value → Option (Option Nat)) : Reader (Option Nat) := do
  match test (← Reader.value Reader.maxDepth) with
  | some answer => return answer
  | none => Reader.complain "unexpected value"

/-- A process number of 32 bits. -/
def pidOf? (v : Value) : Option (Option Nat) :=
  match v with
  | .num (.int i) => if 0 ≤ i ∧ i < 0x100000000 then some (some i.toNat) else none
  | _ => none

/-- The name of a mode, as a text or as an object of one field. -/
def modeOf? (v : Value) : Option (Option Nat) :=
  match v with
  | .str s => if (RunMode.ofName? false s).isSome then some none else none
  | .obj [(s, .null)] => if (RunMode.ofName? false s).isSome then some none else none
  | _ => none

/-- Reads one field. Only the process is of interest. -/
def field (name : String) : Reader (Option Nat) :=
  match name with
  | "pid" => accepting pidOf?
  | "mode" => accepting modeOf?
  | _ => accepting fun v => if v matches .str _ then some none else none

/-- Reads a record. -/
def reader : Reader (List (String × Option Nat)) :=
  Reader.record "LockInfo" ["pid", "mode", "started_at"] field

/-- The process that a lock file names; 0 if it holds no record. -/
def pidIn (bytes : List UInt8) : Nat :=
  match Text.decode? bytes with
  | none => 0
  | some cs => match Reader.whole reader (String.ofList cs) with
    | .ok fields => ((fields.lookup "pid").join).getD 0
    | .error _ => 0

end LockRecord

end DrainGuard
