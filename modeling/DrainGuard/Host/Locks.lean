import DrainGuard.Host.Machine
import DrainGuard.Lock.Protocol
import DrainGuard.Settings.Basic
import DrainGuard.Notice.Rfc3339

/-!
# Locks on a machine

* `Machine.site`, `Machine.withSite`: the files of a machine as a site of the lock protocol.
* `Machine.acquire`, `Machine.release`: taking the lock of a server and giving it up.
-/

namespace DrainGuard

/-- The name of the lock file in a server root. -/
def lockFileName : String := ".spotguard.lock"

/-- The permission bits of a new lock file. -/
def lockFileMode : Nat := 0o600

namespace Machine

/-- The site of the lock protocol at a place. -/
def site (m : Machine) (place : Place) : Lock.Site :=
  match m.files.entry? place with
  | some (.file number content _) =>
    { current := some number, content := fun f => if f = number then content else []
      owner := m.locks, fresh := m.files.nextNumber, inode := id }
  | _ =>
    { current := none, content := fun _ => [], owner := m.locks, fresh := m.files.nextNumber
      inode := id }

/-- Makes the files at a place what a site says. -/
def withSite (m : Machine) (place : Place) (s : Lock.Site) : Machine :=
  let files := match s.current, m.files.entry? place with
    | some f, some (.file number _ mode) =>
      m.files.put place (.file f (s.content f) (if f = number then mode else lockFileMode))
    | some f, _ => m.files.put place (.file f (s.content f) lockFileMode)
    | none, some (.file ..) => m.files.erase place
    | none, _ => m.files
  { m with files := { files with nextNumber := s.fresh }, locks := s.owner }

/-- Takes the lock of a server for the guard of the machine. -/
def acquire (m : Machine) (root : String) (mode : RunMode) : Except Failure HeldLock × Machine :=
  let path := Settings.joinPath root lockFileName
  match m.files.resolve m.here path with
  | .error e => (.error (.io e.text), m)
  | .ok place =>
    if m.files.entry? place = some .directory then (.error (.io FileError.isDirectory.text), m)
    else
      let record : LockRecord := ⟨m.guard, mode, Rfc3339.render m.now⟩
      let (site, stage) := Lock.attempt m.nextHolder record (m.site place)
      let after := { m.withSite place site with nextHolder := m.nextHolder + 1 }
      match stage with
      | .holding _ => (.ok ⟨path, m.nextHolder⟩, after)
      | .refused pid => (.error (.alreadyRunning path pid), after)
      | _ => (.error (.io "lock file cannot be written"), after)

/-- Gives a lock up. -/
def release (m : Machine) (l : HeldLock) : Machine :=
  match m.files.resolve m.here l.path with
  | .ok place => m.withSite place (Lock.giveUp l.holder (m.site place))
  | .error _ => { m with locks := fun f => if m.locks f = some l.holder then none else m.locks f }

end Machine

end DrainGuard
