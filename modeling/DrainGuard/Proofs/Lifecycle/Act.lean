import Mathlib.Algebra.GroupWithZero.Nat
import DrainGuard.Lifecycle.Drain

/-!
# Acts and the log that they leave

The log of a session holds events with their times, and a sleep leaves none. An act is an event
without its time, and a sleep is an act as well, so a list of acts alone tells how the clock and the
log of a session go on.

- **Acts** (`Act.total`, `Act.events`): the time that acts take, and the events that they leave if
  the first of them begins at a time. Both go through `++` (`total_append`, `events_append`).
- **Playing** (`Session.Plays`): the acts lead from one session to another. Every act of a session
  plays itself (`send_plays` and the like), and acts can be played one after the other
  (`Plays.trans`).
- **Enacting** (`Guard.Enacts`): the acts are those of a guard, so that its console and its agent
  give the answers and take the times in them. What a guard enacts is played (`Enacts.plays`).
-/

namespace DrainGuard

/-- Something done in a session, at whatever time. -/
inductive Act where
  /-- A line was sent, which took a while. -/
  | sent (line : String) (answer : Except Failure Unit) (ms : Nat)
  /-- The server process was looked up. -/
  | located (answer : Except Failure (Option Nat))
  /-- A process was looked at. -/
  | checked (pid : Nat) (alive : Bool)
  /-- A backup ran for a while. -/
  | archived (mode : BackupMode) (outcome : BackupOutcome) (ms : Nat)
  /-- Nothing was done for a while. -/
  | slept (ms : Nat)

namespace Act

/-- The milliseconds that an act takes. -/
def span : Act → Nat
  | sent _ _ ms | archived _ _ ms | slept ms => ms
  | located _ | checked _ _ => 0

/-- What the log says of an act that begins at a time. -/
def event? (t : Nat) : Act → Option Event
  | sent line answer _ => some (.sent t line answer)
  | located answer => some (.located t answer)
  | checked pid alive => some (.checked t pid alive)
  | archived mode outcome ms => some (.archived t (t + ms) mode outcome)
  | slept _ => none

/-- The milliseconds that acts take, one after the other. -/
def total (as : List Act) : Nat := (as.map span).sum

/-- What the log says of acts, the first of which begins at a time. -/
def events : Nat → List Act → List Event
  | _, [] => []
  | t, a :: as => (a.event? t).toList ++ events (t + a.span) as

@[simp] theorem total_nil : total [] = 0 := rfl

@[simp] theorem total_cons (a : Act) (as : List Act) : total (a :: as) = a.span + total as := by
  simp [total]

@[simp] theorem total_append (as bs : List Act) : total (as ++ bs) = total as + total bs := by
  simp [total]

@[simp] theorem events_nil (t : Nat) : events t [] = [] := rfl

@[simp] theorem events_append (t : Nat) (as bs : List Act) :
    events t (as ++ bs) = events t as ++ events (t + total as) bs := by
  induction as generalizing t with
  | nil => rfl
  | cons a as ih => simp only [List.cons_append, events, ih, total_cons, List.append_assoc,
      Nat.add_assoc]

section Cons

variable (t : Nat) (as : List Act)

@[simp] theorem events_sent (line : String) (answer : Except Failure Unit) (ms : Nat) :
    events t (sent line answer ms :: as) = .sent t line answer :: events (t + ms) as := rfl

@[simp] theorem events_located (answer : Except Failure (Option Nat)) :
    events t (located answer :: as) = .located t answer :: events t as := rfl

@[simp] theorem events_checked (pid : Nat) (alive : Bool) :
    events t (checked pid alive :: as) = .checked t pid alive :: events t as := rfl

@[simp] theorem events_archived (mode : BackupMode) (outcome : BackupOutcome) (ms : Nat) :
    events t (archived mode outcome ms :: as) =
      .archived t (t + ms) mode outcome :: events (t + ms) as := rfl

@[simp] theorem events_slept (ms : Nat) : events t (slept ms :: as) = events (t + ms) as := rfl

end Cons

/-- A backup has finished when the acts are over. -/
theorem finish_le {t start finish : Nat} {mode : BackupMode} {o : BackupOutcome} {as : List Act}
    (h : .archived start finish mode o ∈ events t as) : finish ≤ t + total as := by
  induction as generalizing t with
  | nil => cases h
  | cons a as ih =>
    rw [total_cons, ← Nat.add_assoc]
    rcases List.mem_append.mp h with h | h
    · have ha : finish = t + a.span := by
        cases a with
        | slept ms => cases h
        | _ => cases List.mem_singleton.mp h <;> rfl
      rw [ha]
      exact Nat.le_add_right _ _
    · exact ih h

end Act

namespace Session

variable {σ : Type} {s s₁ s₂ : Session σ}

/-- The acts lead from one session to the other. -/
structure Plays (s : Session σ) (as : List Act) (s₁ : Session σ) : Prop where
  clock : s₁.clock = s.clock + Act.total as
  events : s₁.events = s.events ++ Act.events s.clock as

theorem Plays.refl (s : Session σ) : s.Plays [] s := ⟨rfl, by simp⟩

theorem Plays.of_eq {as bs : List Act} (h : s.Plays as s₁) (e : as = bs) : s.Plays bs s₁ := e ▸ h

theorem Plays.trans {as bs : List Act} (h : s.Plays as s₁) (h₁ : s₁.Plays bs s₂) :
    s.Plays (as ++ bs) s₂ where
  clock := by rw [h₁.clock, h.clock, Act.total_append, Nat.add_assoc]
  events := by rw [h₁.events, h.events, h.clock, Act.events_append, List.append_assoc]

theorem send_plays (ch : Channel σ) (line : String) (s : Session σ) :
    s.Plays [.sent line (send ch line s).1 (ch.send line s.world).1.2] (send ch line s).2 :=
  ⟨by simp [send, Act.span], by simp [send, Session.events]⟩

theorem locate_plays (ch : Channel σ) (s : Session σ) :
    s.Plays [.located (ch.locate s.world).1] (locate ch s).2 :=
  ⟨by simp [locate, Act.span], by simp [locate, Session.events]⟩

theorem check_plays (ch : Channel σ) (pid : Nat) (s : Session σ) :
    s.Plays [.checked pid (check ch pid s).1] (check ch pid s).2 :=
  ⟨by simp [check, Act.span], by simp [check, Session.events]⟩

theorem archive_plays (ar : Archiver σ) (mode : BackupMode) (s : Session σ) :
    s.Plays [.archived mode (archive ar mode s).1 (ar.invoke mode s.world).1.2]
      (archive ar mode s).2 :=
  ⟨by simp [archive, Act.span], by simp [archive, Session.events]⟩

theorem sleep_run (ms : Nat) (s : Session σ) : (sleep ms s).2 = { s with clock := s.clock + ms } :=
  rfl

theorem sleep_plays (ms : Nat) (s : Session σ) : s.Plays [.slept ms] (sleep ms s).2 :=
  ⟨by simp [sleep_run, Act.span], by simp [sleep_run, Session.events]⟩

end Session

namespace Guard

variable {σ : Type} {g : Guard σ} {s s₁ s₂ : Session σ} {as bs : List Act}

/-- The acts of a guard lead from one session to the other: each answer and the time that it takes
are those of the console or the agent in the world at hand. -/
inductive Enacts (g : Guard σ) : Session σ → List Act → Session σ → Prop where
  | nil (s : Session σ) : Enacts g s [] s
  | sent {s s₁ : Session σ} {as : List Act} (line : String)
      (h : Enacts g (Session.send g.channel line s).2 as s₁) :
      Enacts g s (.sent line (Session.send g.channel line s).1 (g.channel.send line s.world).1.2 ::
        as) s₁
  | located {s s₁ : Session σ} {as : List Act}
      (h : Enacts g (Session.locate g.channel s).2 as s₁) :
      Enacts g s (.located (g.channel.locate s.world).1 :: as) s₁
  | checked {s s₁ : Session σ} {as : List Act} (pid : Nat)
      (h : Enacts g (Session.check g.channel pid s).2 as s₁) :
      Enacts g s (.checked pid (Session.check g.channel pid s).1 :: as) s₁
  | archived {s s₁ : Session σ} {as : List Act} (mode : BackupMode)
      (h : Enacts g (Session.archive g.archiver mode s).2 as s₁) :
      Enacts g s (.archived mode (Session.archive g.archiver mode s).1
        (g.archiver.invoke mode s.world).1.2 :: as) s₁
  | slept {s s₁ : Session σ} {as : List Act} (ms : Nat)
      (h : Enacts g (Session.sleep ms s).2 as s₁) : Enacts g s (.slept ms :: as) s₁

namespace Enacts

theorem of_eq (h : g.Enacts s as s₁) (e : as = bs) : g.Enacts s bs s₁ := e ▸ h

theorem trans (h : g.Enacts s as s₁) (h₁ : g.Enacts s₁ bs s₂) : g.Enacts s (as ++ bs) s₂ := by
  induction h with
  | nil s => exact h₁
  | sent line h ih => exact .sent line (ih h₁)
  | located h ih => exact .located (ih h₁)
  | checked pid h ih => exact .checked pid (ih h₁)
  | archived mode h ih => exact .archived mode (ih h₁)
  | slept ms h ih => exact .slept ms (ih h₁)

theorem plays (h : g.Enacts s as s₁) : s.Plays as s₁ := by
  induction h with
  | nil s => exact .refl s
  | sent line h ih => exact (Session.send_plays g.channel line _).trans ih
  | located h ih => exact (Session.locate_plays g.channel _).trans ih
  | checked pid h ih => exact (Session.check_plays g.channel pid _).trans ih
  | archived mode h ih => exact (Session.archive_plays g.archiver mode _).trans ih
  | slept ms h ih => exact (Session.sleep_plays ms _).trans ih

end Enacts

end Guard

end DrainGuard
