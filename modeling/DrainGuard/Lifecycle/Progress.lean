import DrainGuard.Lifecycle.Report

/-!
# Progress of a shutdown sequence

* `Progress.advance`: the only way to change the phase; it refuses what the rules forbid.
* `Progress.enter`: what a move that is allowed does.
* `Progress.advance_ok`, `Progress.advance_error`: what it does in either case.
-/

namespace DrainGuard

/-- How far a sequence has come. -/
structure Progress where
  /-- The current phase. -/
  phase : Phase := .running
  /-- Every phase so far, from the start. -/
  history : List Phase := [.running]
  /-- The server process, once located. -/
  process : Option Nat := none
  /-- The server is known to be gone. -/
  exitConfirmed : Bool := false
  /-- What the backup came to. -/
  backup : Option BackupOutcome := none
  /-- The fault that ended the clean run. -/
  fault : Option String := none
  deriving DecidableEq

namespace Progress

/-- Is in a phase from now on. -/
def enter (p : Progress) (next : Phase) : Progress :=
  { p with phase := next, history := p.history ++ [next] }

/-- Moves to a phase, or refuses. -/
def advance (p : Progress) (next : Phase) : Except Failure Progress :=
  if p.phase.canMoveTo next then .ok (p.enter next) else .error (.invalidMove p.phase next)

theorem advance_ok {p : Progress} {next : Phase} (h : p.phase.canMoveTo next) :
    p.advance next = .ok (p.enter next) := by
  simp [advance, h]

theorem advance_error {p : Progress} {next : Phase} (h : p.phase.canMoveTo next = false) :
    p.advance next = .error (.invalidMove p.phase next) := by
  simp [advance, h]

/-- Has met a fault. -/
def faulted (p : Progress) (fault : Failure) : Progress := { p with fault := some fault.text }

/-- The report of a sequence that ends here. -/
def report (p : Progress) : Report := ⟨p.phase, p.history, p.backup, p.fault⟩

end Progress

end DrainGuard
