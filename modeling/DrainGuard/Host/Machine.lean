import DrainGuard.Host.Program
import DrainGuard.Notice.Moment

/-!
# The machine

The machine that a guard runs on, as far as the guard can tell: files, processes, and whether the
guard has been told to stop.

* `Machine`: the machine.
* `Machine.processExists`: whether there is a process of a number.
* `Machine.kill`: what a signal does.
-/

namespace DrainGuard

/-- A machine. -/
structure Machine where
  /-- Its files. -/
  files : Files := {}
  /-- The working directory of the guard. -/
  here : Place := []
  /-- The variables that programs are started with. -/
  environment : List (String × String) := []
  /-- The process of the guard. -/
  guard : Nat := 1
  /-- The processes that run. -/
  alive : List Nat := []
  /-- The children of processes. -/
  children : List (Nat × List Nat) := []
  /-- The guard has been told to stop. -/
  interrupted : Bool := false
  /-- The number of the next process. -/
  nextProcess : Nat := 2
  /-- The files that are locked, by their numbers, and for whom. -/
  locks : Nat → Option Nat := fun _ => none
  /-- The number of the next one to lock a file. -/
  nextHolder : Nat := 0
  /-- The time. -/
  now : Moment := ⟨0, 0⟩

namespace Machine

/-- The largest number that a process can have. -/
def maxProcess : Nat := 0x7FFFFFFF

/-- Is there a process of a number? The first process always runs. -/
def processExists (m : Machine) (pid : Nat) : Bool :=
  0 < pid && pid ≤ maxProcess && (pid = 1 || pid = m.guard || m.alive.contains pid)

/-- The children of a process that still run. -/
def childrenOf (m : Machine) (pid : Nat) : List Nat :=
  ((m.children.lookup pid).getD []).filter m.alive.contains

/-- Sends a signal to a process. A request to stop reaches the guard and is remembered; any other
process ends. -/
def kill (m : Machine) (signal pid : Nat) : Machine :=
  if signal = 0 then m
  else if pid = m.guard then
    if signal = 2 ∨ signal = 15 then { m with interrupted := true } else m
  else { m with alive := m.alive.filter (· ≠ pid) }

/-- The bytes of a path that is a file. -/
def read? (m : Machine) (path : String) : Option (List UInt8) := m.files.read? m.here path

/-- Changes the files, if that is possible. -/
def withFiles (m : Machine) (fs : Except FileError Files) : Except FileError Machine :=
  fs.map fun files => { m with files }

end Machine

end DrainGuard
