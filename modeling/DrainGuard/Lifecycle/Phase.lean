/-!
# Phases of a shutdown

A shutdown goes through its phases in one order. Every phase but the last two may fail, and a
fault may go on to a backup where the world may already be flushed or the server was never there.

* `Phase.canMoveTo`: the moves that the rules allow.
* `Phase.rank_lt_of_canMoveTo`: no move leads back.
-/

namespace DrainGuard

/-- A phase of the shutdown, in the order of a clean run. -/
inductive Phase where
  /-- The server runs. -/
  | running
  /-- Players have been warned. -/
  | warningIssued
  /-- The world is being flushed. -/
  | savingState
  /-- The server has been told to stop. -/
  | stoppingProcess
  /-- The guard waits for the server to exit. -/
  | awaitingExit
  /-- The world is being archived. -/
  | backingUp
  /-- The sequence went through. -/
  | completed
  /-- The sequence failed. -/
  | failed
  deriving DecidableEq, Repr

namespace Phase

/-- The name of a phase. -/
def name : Phase → String
  | running => "Running"
  | warningIssued => "WarningIssued"
  | savingState => "SavingState"
  | stoppingProcess => "StoppingProcess"
  | awaitingExit => "AwaitingExit"
  | backingUp => "BackingUp"
  | completed => "Completed"
  | failed => "Failed"

/-- All phases in order. -/
def all : List Phase :=
  [running, warningIssued, savingState, stoppingProcess, awaitingExit, backingUp, completed, failed]

/-- The phase of a name. -/
def ofName? (s : String) : Option Phase := all.find? fun p => p.name == s

/-- The place of a phase in the order. -/
def rank : Phase → Nat
  | running => 0
  | warningIssued => 1
  | savingState => 2
  | stoppingProcess => 3
  | awaitingExit => 4
  | backingUp => 5
  | completed => 6
  | failed => 7

/-- No phase follows. -/
def isTerminal : Phase → Bool
  | completed | failed => true
  | _ => false

/-- The world may already be flushed to disk. -/
def isDraining : Phase → Bool
  | savingState | stoppingProcess | awaitingExit => true
  | _ => false

/-- A fault may go on to a backup, provided the server is known to be gone. -/
def allowsSalvage (p : Phase) : Bool := p == running || p.isDraining

/-- The next phase of a clean run. -/
def successor : Phase → Option Phase
  | running => some warningIssued
  | warningIssued => some savingState
  | savingState => some stoppingProcess
  | stoppingProcess => some awaitingExit
  | awaitingExit => some backingUp
  | backingUp => some completed
  | completed | failed => none

/-- The moves that the rules allow: to the successor, to failure from any phase that is not
terminal, and to the backup from a phase that allows salvage. -/
def canMoveTo (p next : Phase) : Bool :=
  !p.isTerminal &&
    (p.successor == some next || next == failed || (next == backingUp && p.allowsSalvage))

/-- No move leads back. -/
theorem rank_lt_of_canMoveTo {p next : Phase} (h : p.canMoveTo next) : p.rank < next.rank := by
  revert h
  cases p <;> cases next <;> decide

/-- Failure can be entered from every phase that is not terminal. -/
theorem canMoveTo_failed {p : Phase} (h : p.isTerminal = false) : p.canMoveTo .failed := by
  simp [canMoveTo, h]

theorem isTerminal_of_allowsSalvage {p : Phase} (h : p.allowsSalvage) : p.isTerminal = false := by
  revert h
  cases p <;> decide

theorem canMoveTo_backingUp {p : Phase} (h : p.allowsSalvage) : p.canMoveTo .backingUp := by
  simp [canMoveTo, isTerminal_of_allowsSalvage h, h]

theorem not_canMoveTo_of_isTerminal {p : Phase} (h : p.isTerminal) (next : Phase) :
    p.canMoveTo next = false := by
  simp [canMoveTo, h]

end Phase

end DrainGuard
