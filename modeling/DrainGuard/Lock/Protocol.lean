import DrainGuard.Lock.Record

/-!
# The lock protocol

Guards of one server take turns by a lock file. A guard opens the file that the name stands for,
or makes it; locks what it opened; and checks that the name still stands for it, since whoever
gives the lock up takes the name away first. Only then it writes its record.

The steps of guards interleave in any way, a guard may stop between two steps, and any call of the
operating system may fail. All that is asked of the system is that a lock is exclusive and ends with
the file that is closed, and that a new file does not get the number of one that is still open.

* `Site`: what guards share.
* `Stage`: where one guard is.
* `perform`: one step of one guard.
* `System.step`, `System.run`, `System.Admits`, `System.Reachable`: all guards together.
* `attempt`: one guard on its own, step by step to the end.
-/

namespace DrainGuard.Lock

/-- A file, by when it was made; no two files are ever the same. -/
abbrev FileId := Nat

/-- The number of a guard. -/
abbrev GuardId := Nat

/-- What guards share: the name of the lock file, and the files that it has stood for. -/
structure Site where
  /-- The file that the name stands for. -/
  current : Option FileId
  /-- The bytes of a file. -/
  content : FileId → List UInt8
  /-- The guard that has a file locked. -/
  owner : FileId → Option GuardId
  /-- The next file. -/
  fresh : FileId
  /-- The device and inode number of a file. A file may have the number of one that is gone. -/
  inode : FileId → Nat

namespace Site

/-- Is the name's file the one that is meant, by its number? -/
def isCurrent (s : Site) (file : FileId) : Bool := s.current.map s.inode == some (s.inode file)

/-- Makes the next file, empty, and lets the name stand for it. -/
def make (s : Site) : Site :=
  { s with
    current := some s.fresh
    content := fun f => if f = s.fresh then [] else s.content f
    fresh := s.fresh + 1 }

/-- Changes the bytes of a file. -/
def write (s : Site) (file : FileId) (bytes : List UInt8) : Site :=
  { s with content := fun f => if f = file then bytes else s.content f }

/-- Writes over the start of a file; what was behind stays. -/
def overwrite (s : Site) (file : FileId) (bytes : List UInt8) : Site :=
  s.write file (bytes ++ (s.content file).drop bytes.length)

/-- Gives a file to a guard. -/
def lock (s : Site) (file : FileId) (guard : GuardId) : Site :=
  { s with owner := fun f => if f = file then some guard else s.owner f }

/-- Closes what a guard has open; its locks go with it. -/
def close (s : Site) (guard : GuardId) : Site :=
  { s with owner := fun f => if s.owner f = some guard then none else s.owner f }

/-- The process that the lock file names; 0 if there is no file. -/
def named (s : Site) : Nat :=
  match s.current with
  | some f => LockRecord.pidIn (s.content f)
  | none => 0

end Site

/-- Where a guard is. -/
inductive Stage where
  /-- It has nothing to do with the lock. -/
  | idle
  /-- It has opened a file. -/
  | opened (file : FileId)
  /-- It has locked the file. -/
  | locked (file : FileId)
  /-- The name no longer stands for the file. -/
  | stale (file : FileId)
  /-- The name stood for the file while it was locked. -/
  | verified (file : FileId)
  /-- It has emptied the file. -/
  | emptied (file : FileId)
  /-- It holds the lock. -/
  | holding (file : FileId)
  /-- Another guard has the file locked. -/
  | contended (file : FileId)
  /-- It has been refused; the process that the lock file named. -/
  | refused (pid : Nat)
  /-- The file could not be opened, locked or written. -/
  | failed
  /-- It has taken the name away, or could not, to give the lock up. -/
  | unlinked (file : FileId)
  /-- It has stopped. -/
  | crashed
  deriving DecidableEq

/-- The file that a guard has open. -/
def Stage.file? : Stage → Option FileId
  | .opened f | .locked f | .stale f | .verified f | .emptied f | .holding f | .contended f
  | .unlinked f => some f
  | .idle | .refused _ | .failed | .crashed => none

/-- A step. -/
inductive Action where
  /-- Opens the file that the name stands for, or makes it. -/
  | enter
  /-- Locks the file, unless another guard has it locked. -/
  | lock
  /-- Checks that the name stands for the file. -/
  | verify
  /-- Empties the file. -/
  | empty
  /-- Writes the record. -/
  | write
  /-- Writes only so many bytes of the record, and closes the file. -/
  | tear (written : Nat)
  /-- Meets an error of the system. -/
  | fail
  /-- Reads who holds the lock, and closes the file. -/
  | report
  /-- Takes the name away. -/
  | unlink
  /-- Closes the file. -/
  | close
  /-- Stops. -/
  | crash
  deriving DecidableEq

/-- One step of a guard; none where the guard cannot take it. -/
def perform (guard : GuardId) (record : LockRecord) (a : Action) (s : Site) (stage : Stage) :
    Option (Site × Stage) :=
  match a, stage with
  | .enter, .idle => match s.current with
    | some f => some (s, .opened f)
    | none => some (s.make, .opened s.fresh)
  | .lock, .opened f =>
    if (s.owner f).isNone then some (s.lock f guard, .locked f) else some (s, .contended f)
  | .verify, .locked f =>
    some (s, if s.isCurrent f then .verified f else .stale f)
  | .close, .stale _ => some (s.close guard, .idle)
  | .empty, .verified f => some (s.write f [], .emptied f)
  | .write, .emptied f => some (s.overwrite f record.encode, .holding f)
  | .tear n, .emptied f => some ((s.overwrite f (record.encode.take n)).close guard, .failed)
  | .report, .contended _ => some (s, .refused s.named)
  | .unlink, .holding f => some ({ s with current := none }, .unlinked f)
  | .close, .unlinked _ => some (s.close guard, .idle)
  | .fail, .idle | .fail, .opened _ | .fail, .verified _ | .fail, .emptied _ =>
    some (s.close guard, .failed)
  -- a file that cannot be compared counts as replaced
  | .fail, .locked f => some (s, .stale f)
  | .fail, .contended _ => some (s, .refused 0)
  -- the name stays, and the file is closed all the same
  | .fail, .holding f => some (s, .unlinked f)
  | .crash, .crashed => none
  | .crash, _ => some (s.close guard, .crashed)
  | _, _ => none

/-! ## All guards -/

/-- A site with guards at work. -/
structure System where
  /-- What the guards share. -/
  site : Site
  /-- Where each guard is. -/
  stage : GuardId → Stage

namespace System

/-- One step of one guard. -/
def step (records : GuardId → LockRecord) (guard : GuardId) (a : Action) (y : System) :
    Option System :=
  (perform guard (records guard) a y.site (y.stage guard)).map fun (site, stage) =>
    ⟨site, fun g => if g = guard then stage else y.stage g⟩

/-- Takes steps in a given order; none if one of them cannot be taken. -/
def run (records : GuardId → LockRecord) : List (GuardId × Action) → System → Option System
  | [], y => some y
  | (guard, a) :: rest, y => (y.step records guard a).bind (run records rest)

/-- A system before any guard has begun; the name may stand for a file that is there already. -/
def Initial (y : System) : Prop :=
  (∀ g, y.stage g = .idle) ∧ (∀ f, y.site.owner f = none) ∧
    ∀ f, y.site.current = some f → f < y.site.fresh

/-- What the operating system promises of a step: a new file does not get the number of one that a
guard has open. -/
def Admits (y : System) (a : Action) : Prop :=
  a = .enter → y.site.current = none →
    ∀ g f, (y.stage g).file? = some f → y.site.inode f ≠ y.site.inode y.site.fresh

/-- The systems that steps lead to. -/
inductive Reachable (records : GuardId → LockRecord) : System → Prop where
  /-- At the start. -/
  | start {y : System} (h : y.Initial) : Reachable records y
  /-- After a step. -/
  | next {y z : System} {guard : GuardId} {a : Action} (h : Reachable records y)
      (os : y.Admits a) (step : y.step records guard a = some z) : Reachable records z

end System

/-! ## One guard on its own -/

/-- The step that a guard takes next on its way to the lock. -/
def Stage.next? : Stage → Option Action
  | .idle => some .enter
  | .opened _ => some .lock
  | .locked _ => some .verify
  | .stale _ => some .close
  | .verified _ => some .empty
  | .emptied _ => some .write
  | .contended _ => some .report
  | _ => none

/-- Takes a guard step by step towards the lock, at most `fuel` steps. -/
def advance (guard : GuardId) (record : LockRecord) : Nat → Site → Stage → Site × Stage
  | 0, s, stage => (s, stage)
  | fuel + 1, s, stage =>
    match stage.next?.bind fun a => perform guard record a s stage with
    | some (s, stage) => advance guard record fuel s stage
    | none => (s, stage)

/-- How many steps a guard on its own takes at most. -/
def attemptSteps : Nat := 5

/-- A guard's way to the lock while no other guard does anything. -/
def attempt (guard : GuardId) (record : LockRecord) (s : Site) : Site × Stage :=
  advance guard record attemptSteps s .idle

/-- A guard's way from the lock. -/
def giveUp (guard : GuardId) (s : Site) : Site := { s with current := none }.close guard

end DrainGuard.Lock

namespace DrainGuard

/-- A lock that is held. -/
structure HeldLock where
  /-- The path of the lock file. -/
  path : String
  /-- Who holds it. -/
  holder : Lock.GuardId
  deriving DecidableEq

end DrainGuard
