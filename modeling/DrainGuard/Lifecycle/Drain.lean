import DrainGuard.Lifecycle.Progress
import DrainGuard.Lifecycle.Session
import DrainGuard.Console.Message
import DrainGuard.Settings.Basic

/-!
# Draining a server

The shutdown sequence: warn the players, flush the world, stop the server, wait until it is gone
and archive the world. Once the players are warned it always goes on to a terminal phase.

* `Guard.drain`: the sequence. Waiting for the exit has no limit of its own, so the sequence is
  given the number of looks at the process after which the answer is "not yet"; more looks never
  change a finished answer.
* `Guard.drainWithin`: the same, with the session also where the answer is "not yet".
* `Guard.archiveScheduled`: a backup while the server keeps running.
-/

namespace DrainGuard

/-- A guard: its collaborators and its pace. -/
structure Guard (σ : Type) where
  /-- The console. -/
  channel : Channel σ
  /-- The backup agent. -/
  archiver : Archiver σ
  /-- The pace. -/
  timings : ShutdownSettings

namespace Guard

variable {σ : Type}

/-- Sends a message to the players; a failure does not matter. Did it reach the console? -/
def announce (g : Guard σ) (b : Broadcast) : StateM (Session σ) Bool := do
  return (← Session.send g.channel b.command) matches .ok _

/-- Sends a command to the server. -/
def command (g : Guard σ) (c : ConsoleCommand) : StateM (Session σ) (Except Failure Unit) :=
  Session.send g.channel c.text

/-- The two warnings before the world is saved. -/
def warnings (trigger : Trigger) (delaySecs : Nat) : List Broadcast :=
  let first := match trigger with
    | .notice n => "This server's host is being reclaimed (" ++ n.action.name ++
      "). Shutting down in " ++ toString delaySecs ++ " seconds!"
    | .operator => "Server shutting down in " ++ toString delaySecs ++ " seconds!"
  [.warning first,
    .warning "Find somewhere safe and log out. The world will be saved and backed up."]

/-- A step of the sequence: it changes the progress and the session, and may stop with a fault. -/
abbrev Step (σ : Type) := ExceptT Failure (StateM (Progress × Session σ))

/-- An act of a session as part of a step. -/
def act {α : Type} (a : StateM (Session σ) α) : Step σ α :=
  ExceptT.lift fun (p, s) => let (x, s') := a s; (x, (p, s'))

/-- Moves to a phase. -/
def move (next : Phase) : Step σ Unit := do
  let (p, s) ← get
  match p.advance next with
  | .ok p' => set (p', s)
  | .error f =>
    set (p, s.refuse p.phase next)
    throw f

/-- Sends a command and stops if it fails. -/
def require (g : Guard σ) (c : ConsoleCommand) : Step σ Unit := do
  match ← act (g.command c) with
  | .ok () => return ()
  | .error f => throw f

/-- Changes the progress. -/
def note (f : Progress → Progress) : Step σ Unit := modify fun (p, s) => (f p, s)

/-- Takes a step and goes on whatever comes of it. -/
def tolerate (step : Step σ Unit) : Step σ Unit := ExceptT.lift fun q => ((), (step.run q).2)

/-- Why a server without a session cannot be drained. -/
def absence (g : Guard σ) : Failure := .channelUnavailable g.channel.target "no server session"

/-- Looks the server process up. Without a session the server is known to be gone. -/
def findServer (g : Guard σ) : Step σ Nat := do
  match ← act (Session.locate g.channel) with
  | .error f => throw f
  | .ok none =>
    note fun p => { p with exitConfirmed := true }
    throw g.absence
  | .ok (some pid) =>
    note fun p => { p with process := some pid }
    return pid

/-- Tells the players one thing after the other. -/
def announceAll (g : Guard σ) : List Broadcast → Step σ Unit
  | [] => return ()
  | b :: rest => do
    let _ ← act (g.announce b)
    g.announceAll rest

/-- Warns the players and gives them time. -/
def warn (g : Guard σ) (trigger : Trigger) : Step σ Unit := do
  move .warningIssued
  g.announceAll (warnings trigger g.timings.warningDelaySecs)
  act (Session.sleep g.timings.warningDelay)

/-- What the players are told before the world is saved. -/
def savingNews : Broadcast := .warning "Saving the world, hold still"

/-- What the players are told before the server stops. -/
def stoppingNews : Broadcast := .warning "Server stopping now"

/-- Turns automatic saves off and flushes the world. The flush never says when it has finished. -/
def saveWorld (g : Guard σ) : Step σ Unit := do
  move .savingState
  g.announceAll [savingNews]
  g.require .saveOff
  act (Session.sleep g.timings.graceDelay)
  g.require .saveAll
  act (Session.sleep g.timings.graceDelay)

/-- Tells the server to stop. -/
def stopServer (g : Guard σ) : Step σ Unit := do
  move .stoppingProcess
  g.announceAll [stoppingNews]
  g.require .stop
  move .awaitingExit

/-- From the look-up to the `stop` command; gives the server process. -/
def untilStopped (g : Guard σ) (trigger : Trigger) : Step σ Nat := do
  let pid ← g.findServer
  g.warn trigger
  g.saveWorld
  g.stopServer
  return pid

/-- Looks at the process until it is gone, at most `patience` times. Is it gone? -/
def awaitExit (g : Guard σ) (pid : Nat) : Nat → Session σ → Bool × Session σ
  | 0, s => (false, s)
  | patience + 1, s =>
    let (alive, s) := Session.check g.channel pid s
    if alive then
      awaitExit g pid patience (Session.sleep g.timings.exitPollIntervalMillis s).2
    else (true, s)

/-- Makes the one backup of the sequence. -/
def backUp (g : Guard σ) : Step σ Unit := do
  let (p, _) ← get
  if p.backup.isNone then
    let outcome ← act (Session.archive g.archiver .preShutdown)
    note fun p => { p with backup := some outcome }

/-- From the exit of the server to the end of a clean run. -/
def afterExit (g : Guard σ) : Step σ Unit := do
  note fun p => { p with exitConfirmed := true }
  move .backingUp
  g.backUp
  move .completed

/-- Is the server known to be gone? Looks at the process once if that is not known yet. -/
def hasExited (g : Guard σ) : Step σ Bool := do
  let (p, _) ← get
  if p.exitConfirmed then return true
  else match p.process with
    | some pid => return !(← act (Session.check g.channel pid))
    | none => return false

/-- Makes the backup after a fault if the server is gone. -/
def archiveIfGone (g : Guard σ) : Step σ Unit := do
  if ← g.hasExited then
    tolerate do
      move .backingUp
      g.backUp
  else return ()

/-- Saves what the server has flushed, in a phase in which it may have. -/
def salvage (g : Guard σ) : Step σ Unit := do
  let (p, _) ← get
  if p.phase.allowsSalvage then g.archiveIfGone else return ()

/-- Ends the sequence with a fault. What the server has flushed is archived if it is gone. -/
def fail (g : Guard σ) (fault : Failure) : Step σ Unit := do
  note fun p => p.faulted fault
  g.salvage
  tolerate (move .failed)

/-- The last message to the players. -/
def outcome (p : Progress) : Broadcast :=
  match p.phase, p.backup with
  | .completed, some .success => .info "Server stopped and the world is backed up"
  | .completed, some (.failure reason) =>
    .critical ("Server stopped but the backup failed: " ++ reason)
  | _, _ => .critical ("Shutdown did not complete cleanly: " ++ p.fault.getD "unknown fault")

/-- Saves again and tells the players how it went. -/
def conclude (g : Guard σ) (p : Progress) (s : Session σ) : Report × Session σ :=
  let s := (g.command .saveOn s).2
  let s := (g.announce (outcome p) s).2
  (p.report, s)

/-- Runs a step to its end; a fault ends the sequence. -/
def settle (g : Guard σ) {α : Type} (step : Step σ α) (p : Progress) (s : Session σ) :
    Option α × Progress × Session σ :=
  match step.run (p, s) with
  | (.ok a, p, s) => (some a, p, s)
  | (.error f, p, s) => (none, ((g.fail f).run (p, s)).2)

/-- The sequence up to a terminal phase, as far as `patience` looks at the process take it. There is
no progress if the server is still alive then. -/
def proceed (g : Guard σ) (trigger : Trigger) (patience : Nat) (s : Session σ) :
    Option Progress × Session σ :=
  match g.settle (g.untilStopped trigger) {} s with
  | (none, p, s) => (some p, s)
  | (some pid, p, s) => match g.awaitExit pid patience s with
    | (false, s) => (none, s)
    | (true, s) =>
      let (_, p, s) := g.settle g.afterExit p s
      (some p, s)

/-- The shutdown sequence as far as `patience` looks at the process take it. There is no report if
the server is still alive then. -/
def drainWithin (g : Guard σ) (trigger : Trigger) (patience : Nat) (s : Session σ) :
    Option Report × Session σ :=
  match g.proceed trigger patience s with
  | (none, s) => (none, s)
  | (some p, s) =>
    let (r, s) := g.conclude p s
    (some r, s)

/-- The shutdown sequence. It has no answer only if the server is still alive after `patience`
looks at it. -/
def drain (g : Guard σ) (trigger : Trigger) (patience : Nat) (s : Session σ) :
    Option (Report × Session σ) :=
  match g.drainWithin trigger patience s with
  | (some r, s) => some (r, s)
  | (none, _) => none

/-! ## Scheduled backups -/

/-- Stops automatic saves and flushes the world. -/
def pauseSaves (g : Guard σ) : ExceptT Failure (StateM (Session σ)) Unit := do
  ExceptT.mk (g.command .saveOff)
  ExceptT.mk (g.command .saveAll)
  ExceptT.lift (Session.sleep g.timings.graceDelay)

/-- Archives the world while the server keeps running. Saving is paused meanwhile and always
turned on again. -/
def archiveScheduled (g : Guard σ) : StateM (Session σ) BackupOutcome := do
  discard (g.announce (.info "Starting a world backup, expect a little lag"))
  let outcome ← match ← g.pauseSaves.run with
    | .ok () => Session.archive g.archiver .scheduled
    | .error f => pure (.failure f.text)
  discard (g.command .saveOn)
  let message := match outcome with
    | .success => Broadcast.info "World backup complete"
    | .failure reason => .critical ("World backup failed: " ++ reason)
  discard (g.announce message)
  return outcome

end Guard

end DrainGuard
