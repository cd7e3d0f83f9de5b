import DrainGuard.Lock.Record
import DrainGuard.Proofs.Json.Records
import DrainGuard.Proofs.Text.Utf8

/-!
# What a lock file names

A record is written in one piece or in part, and whoever reads the lock file may come at any time.

- **Fields** (`accepting_reads`, `accepting_cut`, `answers`): each field of a record is read as it
  was written.
- **Names** (`pidIn_encode`): a record names its process.
- **Parts** (`pidIn_take`, `pidIn_nil`): a record that stops before its end names no process.
-/

namespace DrainGuard.LockRecord

open Json Json.Reader

/-- A field that passes its test is read as the test says. -/
theorem accepting_reads {test : Value → Option (Option Nat)} {v : Value} {a : Option Nat}
    {l : List Char} (hv : v.Simple) (ht : test v = some a) (hl : Ends l) :
    Reads (accepting test) ((' ' :: v.compact.toList) ++ l) a l := by
  refine (value_simple hv (g := [' ']) (List.all_eq_true.mp rfl) hl maxDepth).bind ?_
  rw [ht]
  exact .pure a l

theorem accepting_cut (test : Value → Option (Option Nat)) {v : Value} (hv : v.Simple)
    {p q : List Char} (h : p ++ q = ' ' :: v.compact.toList) (hq : q ≠ []) :
    Spends (accepting test) p := by
  refine (value_cut hv (g := [' ']) (List.all_eq_true.mp rfl) h hq maxDepth).bind fun v => ?_
  split
  · exact (Reads.pure _ []).spends
  · exact (complain_fails _).spends

/-- The fields of a record as they are written. -/
def fields (r : LockRecord) : List (String × Value) :=
  [("pid", .nat r.pid), ("mode", .str r.mode.name), ("started_at", .str r.startedAt)]

/-- What is kept of a field. -/
def answer (f : String × Value) : Option Nat :=
  match f.2 with
  | .num (.int i) => some i.toNat
  | _ => none

variable {r : LockRecord}

theorem field_accepts (h : r.pid < 0x100000000) : ∀ f ∈ r.fields, f.2.Simple ∧
    ∃ test, field f.1 = accepting test ∧ test f.2 = some (answer f) := by
  intro f hf
  simp only [fields, List.mem_cons, List.not_mem_nil, or_false] at hf
  rcases hf with rfl | rfl | rfl
  · refine ⟨.nat (by unfold maxSignificand; omega), pidOf?, rfl, ?_⟩
    have hpid : (0 : Int) ≤ r.pid ∧ (r.pid : Int) < 0x100000000 := by omega
    simp [pidOf?, answer, Value.nat, hpid]
  · refine ⟨.str _, modeOf?, rfl, ?_⟩
    cases r.mode <;> decide
  · exact ⟨.str _, _, rfl, rfl⟩

theorem answers (h : r.pid < 0x100000000) :
    Answers ["pid", "mode", "started_at"] field answer r.fields where
  known f hf := by
    simp only [fields, List.mem_cons, List.not_mem_nil, or_false] at hf
    rcases hf with rfl | rfl | rfl <;> simp
  distinct := by simp [fields]
  reads f hf l hl := by
    obtain ⟨hv, test, hfield, ht⟩ := field_accepts h f hf
    rw [hfield]
    exact accepting_reads hv ht hl.ends
  cut f hf p q hp hq := by
    obtain ⟨hv, test, hfield, -⟩ := field_accepts h f hf
    rw [hfield]
    exact accepting_cut test hv hp hq

/-- A record names its process. -/
theorem pidIn_encode (h : r.pid < 0x100000000) : pidIn r.encode = r.pid := by
  have hread : Reads reader (pretty r.fields).toList _ [] :=
    record_pretty "LockInfo" (answers h) (by simp [fields]) (by simp [fields])
  rw [pidIn, encode, ← fields, Text.toBytes, Text.decode?_encode]
  simp only [String.ofList_toList, whole_eq hread]
  simp [fields, answer, Value.nat]

theorem pidIn_nil : pidIn [] = 0 := by
  rw [pidIn, Text.decode?_nil]
  rfl

/-- A record that stops before its end names no process. -/
theorem pidIn_take (h : r.pid < 0x100000000) {n : Nat} (hn : n < r.encode.length) :
    pidIn (r.encode.take n) = 0 := by
  unfold pidIn
  split
  · rfl
  · next cs hcs =>
    obtain ⟨⟨q, hq⟩, he⟩ : cs <+: (pretty r.fields).toList ∧ Text.encode cs = r.encode.take n :=
      Text.decode?_take hcs
    have hne : q ≠ [] := by
      rintro rfl
      rw [List.append_nil] at hq
      have hall : r.encode = r.encode.take n := by
        rw [← he, hq]
        rfl
      rw [hall, List.length_take] at hn
      omega
    have hfails : Fails reader (String.ofList cs).toList := by
      rw [String.toList_ofList]
      exact record_cut "LockInfo" (answers h) (by simp [fields]) hq hne
    obtain ⟨e, he⟩ := whole_fails hfails
    rw [he]

end DrainGuard.LockRecord
