import DrainGuard.Lock.Protocol
import DrainGuard.Mode
import DrainGuard.Watch.Daemon

/-!
# A guard at its station

A guard that runs holds the lock of its server from before its first act until after its last one.

* `Station`: what a guard works with, over any world.
* `Station.work`: what it does in each mode.
* `Station.run`: the same between taking the lock and giving it up.
-/

namespace DrainGuard

/-- What a guard works with. -/
structure Station (σ : Type) where
  /-- Takes the lock of the server. -/
  acquire : RunMode → σ → Except Failure HeldLock × σ
  /-- Gives the lock up. -/
  release : HeldLock → σ → σ
  /-- The console, the backup agent and the pace. -/
  guard : Guard σ
  /-- A client of the metadata service, if there can be one: what its fetches answer. -/
  client : Except Failure (Nat → Fetch)
  /-- Milliseconds between two fetches. -/
  interval : Nat
  /-- When the guard is told to stop. -/
  cancel : Option Nat

/-- How the work of a guard ends. -/
inductive Ending where
  /-- With the code of a process. -/
  | code (n : Nat)
  /-- With a failure. -/
  | failed (f : Failure)
  /-- Not in an orderly way: a watch without an interval cannot be kept. -/
  | aborted
  deriving DecidableEq

namespace Station

variable {σ : Type}

/-- The code after a scheduled backup. -/
def backupCode (o : BackupOutcome) : Nat :=
  if o.isSuccess then ExitCode.ok else ExitCode.backupFailed

/-- The code after a watch. -/
def watchCode (r : Option Report) : Nat :=
  match r with
  | some r => r.exitCode
  | none => ExitCode.ok

/-- What a guard does in a mode. It does not end if the server never exits within `patience` looks
or the watch bears no notice within `fuel` fetches. -/
def work (st : Station σ) (mode : RunMode) (fuel patience : Nat) (w : σ) :
    Option (Ending × Session σ) :=
  match mode with
  | .active => (st.guard.drain .operator patience { world := w }).map fun (r, s) =>
    (.code r.exitCode, s)
  | .backup =>
    let (outcome, s) := st.guard.archiveScheduled { world := w }
    some (.code (backupCode outcome), s)
  | .daemon => match st.client with
    | .error f => some (.failed f, { world := w })
    | .ok fetch =>
      if st.interval = 0 then some (.aborted, { world := w })
      else (st.guard.daemon fetch st.interval st.cancel fuel patience w).map fun d =>
        (.code (watchCode d.report), d.session)

/-- What a guard does in a mode once it holds the lock. Without the lock it does nothing; however
the work ends, the lock is given up. -/
def run (st : Station σ) (mode : RunMode) (fuel patience : Nat) (w : σ) :
    Option (Ending × Session σ) :=
  match st.acquire mode w with
  | (.error f, w) => some (.failed f, { world := w })
  | (.ok held, w) => (st.work mode fuel patience w).map fun (ending, s) =>
    (ending, { s with world := st.release held s.world })

end Station

end DrainGuard
