import DrainGuard.Backup.Outcome

/-!
# Collaborators on a clock

The guard acts on a world through a console channel and a backup agent. A session is a world with
a clock in milliseconds and a log of every act; time passes only in sleeps and in acts that take
time.

* `Channel`, `Archiver`: what the guard acts through, over any world.
* `Session.send`, `Session.locate`, `Session.check`, `Session.archive`, `Session.sleep`: the acts.
  Each one adds its own event to the log.
* `Session.refuse`: notes that a move was refused; nothing else adds to the log.
-/

namespace DrainGuard

/-- A console: lines go in, and the server process behind it can be looked up and watched. -/
structure Channel (σ : Type) where
  /-- The session or pane. -/
  target : String
  /-- Sends one line; answers with success and the milliseconds it took. -/
  send : String → σ → (Except Failure Unit × Nat) × σ
  /-- Looks the server process up; none if there is no session behind the console. -/
  locate : σ → Except Failure (Option Nat) × σ
  /-- Is the process alive? -/
  alive : Nat → σ → Bool × σ

/-- A backup agent; answers with the outcome and the milliseconds it took. -/
structure Archiver (σ : Type) where
  /-- Makes a backup. -/
  invoke : BackupMode → σ → (BackupOutcome × Nat) × σ

/-- One act of the guard. -/
inductive Event where
  /-- A line was sent at a time. -/
  | sent (time : Nat) (line : String) (answer : Except Failure Unit)
  /-- The server process was looked up. -/
  | located (time : Nat) (answer : Except Failure (Option Nat))
  /-- A process was looked at. -/
  | checked (time : Nat) (pid : Nat) (alive : Bool)
  /-- A backup ran from one time to another. -/
  | archived (start finish : Nat) (mode : BackupMode) (outcome : BackupOutcome)
  /-- The rules of the lifecycle refused a move from one phase to another. -/
  | refused (time : Nat) (source target : Phase)

/-- A world, the time in it and what happened so far. -/
structure Session (σ : Type) where
  /-- The world. -/
  world : σ
  /-- Milliseconds. -/
  clock : Nat := 0
  /-- What happened, the latest first. -/
  log : List Event := []

namespace Session

variable {σ : Type}

/-- What happened, the earliest first. -/
def events (s : Session σ) : List Event := s.log.reverse

/-- Lets time pass. -/
def sleep (ms : Nat) : StateM (Session σ) Unit :=
  modify fun s => { s with clock := s.clock + ms }

/-- Sends a line. -/
def send (ch : Channel σ) (line : String) : StateM (Session σ) (Except Failure Unit) := fun s =>
  let ((answer, ms), world) := ch.send line s.world
  (answer, ⟨world, s.clock + ms, .sent s.clock line answer :: s.log⟩)

/-- Looks the server process up. -/
def locate (ch : Channel σ) : StateM (Session σ) (Except Failure (Option Nat)) := fun s =>
  let (answer, world) := ch.locate s.world
  (answer, ⟨world, s.clock, .located s.clock answer :: s.log⟩)

/-- Looks at a process. -/
def check (ch : Channel σ) (pid : Nat) : StateM (Session σ) Bool := fun s =>
  let (alive, world) := ch.alive pid s.world
  (alive, ⟨world, s.clock, .checked s.clock pid alive :: s.log⟩)

/-- Makes a backup. -/
def archive (ar : Archiver σ) (mode : BackupMode) : StateM (Session σ) BackupOutcome := fun s =>
  let ((outcome, ms), world) := ar.invoke mode s.world
  (outcome, ⟨world, s.clock + ms, .archived s.clock (s.clock + ms) mode outcome :: s.log⟩)

/-- Notes that the rules refused a move. -/
def refuse (s : Session σ) (source target : Phase) : Session σ :=
  { s with log := .refused s.clock source target :: s.log }

end Session

/-! ## Views of a log -/

/-- The time and text of every line sent. -/
def Event.sends (es : List Event) : List (Nat × String) :=
  es.filterMap fun
    | .sent t line _ => some (t, line)
    | _ => none

/-- The time and text of every line that reached the console. -/
def Event.deliveries (es : List Event) : List (Nat × String) :=
  es.filterMap fun
    | .sent t line (.ok _) => some (t, line)
    | _ => none

/-- Every look at a process. -/
def Event.checks (es : List Event) : List (Nat × Nat × Bool) :=
  es.filterMap fun
    | .checked t pid alive => some (t, pid, alive)
    | _ => none

/-- The mode of every backup. -/
def Event.backups (es : List Event) : List BackupMode :=
  es.filterMap fun
    | .archived _ _ mode _ => some mode
    | _ => none

end DrainGuard
