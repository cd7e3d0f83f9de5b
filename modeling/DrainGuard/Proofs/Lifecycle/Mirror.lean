import Mathlib.Data.List.Forall2
import DrainGuard.Lifecycle.Drain

/-!
# Two shutdowns side by side

A relation between the sessions of two guards that every act keeps is kept by the whole of a
shutdown. The consoles may answer the messages to the players in different ways: nothing in a
shutdown depends on these answers.

- **Acts** (`Alike`, `Keeps`): acts that give the same answer and keep the relation, and acts that
  keep it whatever they answer.
- **Guards** (`Guard.Mirrors`): every act of the two guards keeps the relation, and all answers are
  the same but those to the messages.
- **Steps** (`Paired`): steps that come to the same result and the same progress, in related
  sessions. They go through sequencing (`Paired.bind`), so each step of a shutdown has a lemma of
  its own. The relation may become a weaker one on the way (`Linked`).
- **Runs** (`Mirrors.drainWithin`, `Mirrors.archiveScheduled`): a shutdown and a scheduled backup of
  two such guards come to the same report and the same outcome, in related sessions. The triggers
  may differ, if the relation does not mind the difference (`Warned`).
-/

namespace DrainGuard

variable {σ τ α β : Type}

/-- From related sessions, two acts give the same answer and lead to related sessions. -/
def Alike (R : Session σ → Session τ → Prop) (a : StateM (Session σ) α)
    (a' : StateM (Session τ) α) : Prop :=
  ∀ s s', R s s' → (a s).1 = (a' s').1 ∧ R (a s).2 (a' s').2

/-- From related sessions, two acts lead to related sessions. -/
def Keeps (R : Session σ → Session τ → Prop) (a : StateM (Session σ) α)
    (a' : StateM (Session τ) β) : Prop :=
  ∀ s s', R s s' → R (a s).2 (a' s').2

section Sequences

variable {R : Session σ → Session τ → Prop}

namespace Alike

theorem pure (a : α) : Alike R (Pure.pure a) (Pure.pure a) := fun _ _ hs => ⟨rfl, hs⟩

theorem bind {m : StateM (Session σ) α} {m' : StateM (Session τ) α}
    {f : α → StateM (Session σ) β} {f' : α → StateM (Session τ) β} (hm : Alike R m m')
    (hf : ∀ a, Alike R (f a) (f' a)) : Alike R (m >>= f) (m' >>= f') := by
  intro s s' hs
  obtain ⟨ha, h₁⟩ := hm s s' hs
  obtain ⟨hb, h₂⟩ := hf (m s).1 _ _ h₁
  refine ⟨?_, ?_⟩
  · show (f (m s).1 (m s).2).1 = (f' (m' s').1 (m' s').2).1
    rw [← ha, hb]
  · show R (f (m s).1 (m s).2).2 (f' (m' s').1 (m' s').2).2
    rw [← ha]
    exact h₂

/-- An act that may fail, before one that is skipped then. -/
theorem bind_run {m : ExceptT Failure (StateM (Session σ)) α}
    {m' : ExceptT Failure (StateM (Session τ)) α} {f : α → ExceptT Failure (StateM (Session σ)) β}
    {f' : α → ExceptT Failure (StateM (Session τ)) β} (hm : Alike R m.run m'.run)
    (hf : ∀ a, Alike R (f a).run (f' a).run) : Alike R (m >>= f).run (m' >>= f').run := by
  have hx (x : Except Failure α) : Alike R (ExceptT.bindCont f x) (ExceptT.bindCont f' x) := by
    cases x with
    | ok a => exact hf a
    | error e => exact pure (Except.error e)
  exact bind hm hx

end Alike

theorem Keeps.discard {a : StateM (Session σ) α} {a' : StateM (Session τ) α} (h : Keeps R a a') :
    Alike R (discard a) (discard a') := fun s s' hs => ⟨rfl, h s s' hs⟩

end Sequences

namespace Guard

/-- All acts of two guards keep a relation between their sessions, and only the answers to messages
may differ. -/
structure Mirrors (R : Session σ → Session τ → Prop) (g : Guard σ) (g' : Guard τ) : Prop where
  target : g.channel.target = g'.channel.target
  timings : g.timings = g'.timings
  announce : ∀ b, Keeps R (g.announce b) (g'.announce b)
  command : ∀ c, Alike R (g.command c) (g'.command c)
  locate : Alike R (Session.locate g.channel) (Session.locate g'.channel)
  check : ∀ pid, Alike R (Session.check g.channel pid) (Session.check g'.channel pid)
  archive : ∀ mode, Alike R (Session.archive g.archiver mode) (Session.archive g'.archiver mode)
  sleep : ∀ ms, Keeps R (Session.sleep ms) (Session.sleep ms)
  refuse : ∀ p next {s s'}, R s s' → R (s.refuse p next) (s'.refuse p next)

/-- Two triggers whose warnings keep the relation. -/
def Warned (R : Session σ → Session τ → Prop) (g : Guard σ) (g' : Guard τ)
    (trigger trigger' : Trigger) : Prop :=
  ∀ delaySecs, List.Forall₂ (fun b b' => Keeps R (g.announce b) (g'.announce b'))
    (warnings trigger delaySecs) (warnings trigger' delaySecs)

/-- From one progress and sessions related by `R`, two steps come to the same result and the same
progress, and to sessions related by `R'`. -/
def Linked (R R' : Session σ → Session τ → Prop) (step : Step σ α) (step' : Step τ α) : Prop :=
  ∀ p {s s'}, R s s' → ∃ x p₁ s₁ s₁', step.run (p, s) = (x, p₁, s₁) ∧
    step'.run (p, s') = (x, p₁, s₁') ∧ R' s₁ s₁'

/-- From one progress and related sessions, two steps come to the same result and the same progress,
and to related sessions. -/
def Paired (R : Session σ → Session τ → Prop) (step : Step σ α) (step' : Step τ α) : Prop :=
  Linked R R step step'

variable {R R' R'' : Session σ → Session τ → Prop} {g : Guard σ} {g' : Guard τ}

/-! ## Steps -/

/-- Steps in sequence; a fault in the first ones skips the second ones. -/
theorem Linked.bind {m : Step σ α} {m' : Step τ α} {f : α → Step σ β} {f' : α → Step τ β}
    (hR : ∀ {s s'}, R' s s' → R'' s s') (hm : Linked R R' m m')
    (hf : ∀ a, Linked R' R'' (f a) (f' a)) : Linked R R'' (m >>= f) (m' >>= f') := by
  intro p s s' h
  obtain ⟨x, p₁, s₁, s₁', hr, hr', h₁⟩ := hm p h
  have hb : (m >>= f).run (p, s) = ExceptT.bindCont f x (p₁, s₁) := by
    show ExceptT.bindCont f (m.run (p, s)).1 (m.run (p, s)).2 = _
    rw [hr]
  have hb' : (m' >>= f').run (p, s') = ExceptT.bindCont f' x (p₁, s₁') := by
    show ExceptT.bindCont f' (m'.run (p, s')).1 (m'.run (p, s')).2 = _
    rw [hr']
  rw [hb, hb']
  cases x with
  | ok a => exact hf a p₁ h₁
  | error e => exact ⟨.error e, p₁, s₁, s₁', rfl, rfl, hR h₁⟩

/-- An act whose answer nothing depends on. -/
theorem Linked.act_bind {a : StateM (Session σ) α} {a' : StateM (Session τ) α} {f : Step σ β}
    {f' : Step τ β} (h : ∀ s s', R s s' → R' (a s).2 (a' s').2) (hf : Linked R' R'' f f') :
    Linked R R'' (Guard.act a >>= fun _ => f) (Guard.act a' >>= fun _ => f') :=
  fun p s s' hs => hf p (h s s' hs)

namespace Paired

theorem pure (a : α) : Paired R (Pure.pure a) (Pure.pure a) :=
  fun p _ _ h => ⟨.ok a, p, _, _, rfl, rfl, h⟩

theorem throw (f : Failure) :
    Paired R (MonadExcept.throw f : Step σ α) (MonadExcept.throw f : Step τ α) :=
  fun p _ _ h => ⟨.error f, p, _, _, rfl, rfl, h⟩

theorem bind {m : Step σ α} {m' : Step τ α} {f : α → Step σ β} {f' : α → Step τ β}
    (hm : Paired R m m') (hf : ∀ a, Paired R (f a) (f' a)) : Paired R (m >>= f) (m' >>= f') :=
  Linked.bind id hm hf

theorem act {a : StateM (Session σ) α} {a' : StateM (Session τ) α} (h : Alike R a a') :
    Paired R (Guard.act a) (Guard.act a') := by
  intro p s s' hs
  obtain ⟨ha, h₁⟩ := h s s' hs
  exact ⟨.ok (a s).1, p, _, _, rfl, by rw [ha]; rfl, h₁⟩

theorem note (f : Progress → Progress) : Paired R (Guard.note f) (Guard.note f) :=
  fun p _ _ h => ⟨.ok (), f p, _, _, rfl, rfl, h⟩

theorem tolerate {m : Step σ Unit} {m' : Step τ Unit} (h : Paired R m m') :
    Paired R (Guard.tolerate m) (Guard.tolerate m') := by
  intro p s s' hs
  obtain ⟨x, p₁, s₁, s₁', hr, hr', h₁⟩ := h p hs
  refine ⟨.ok (), p₁, s₁, s₁', ?_, ?_, h₁⟩
  · show (Except.ok (), (m.run (p, s)).2) = _
    rw [hr]
  · show (Except.ok (), (m'.run (p, s')).2) = _
    rw [hr']

/-- Steps that depend on the progress. -/
theorem get {f : Progress × Session σ → Step σ α} {f' : Progress × Session τ → Step τ α}
    (h : ∀ p s s', Paired R (f (p, s)) (f' (p, s'))) :
    Paired R (MonadState.get >>= f) (MonadState.get >>= f') :=
  fun p s s' hs => h p s s' p hs

end Paired

/-- What a move does, allowed or not. -/
theorem move_run (next : Phase) (p : Progress) (s : Session σ) :
    (move next : Step σ Unit).run (p, s) = match p.advance next with
      | .ok p₁ => (.ok (), p₁, s)
      | .error f => (.error f, p, s.refuse p.phase next) := by
  show ((match p.advance next with
    | .ok p' => set (p', s)
    | .error f => do set (p, s.refuse p.phase next); throw f : Step σ Unit).run (p, s)) = _
  cases p.advance next <;> rfl

theorem Paired.move
    (h : ∀ p next {s s'}, R s s' → R (s.refuse p next) (s'.refuse p next)) (next : Phase) :
    Paired R (Guard.move next) (Guard.move next) := by
  intro p s s' hs
  rw [move_run, move_run]
  cases p.advance next with
  | ok p₁ => exact ⟨_, _, _, _, rfl, rfl, hs⟩
  | error f => exact ⟨_, _, _, _, rfl, rfl, h p.phase next hs⟩

theorem Paired.findServer (ht : g.channel.target = g'.channel.target)
    (hl : Alike R (Session.locate g.channel) (Session.locate g'.channel)) :
    Paired R g.findServer g'.findServer := by
  have ha : g.absence = g'.absence := by rw [absence, absence, ht]
  refine .bind (.act hl) fun answer => ?_
  cases answer with
  | error f => exact .throw f
  | ok located =>
    cases located with
    | none =>
      refine .bind (.note _) fun _ => ?_
      rw [ha]
      exact .throw _
    | some pid => exact .bind (.note _) fun _ => .pure pid

namespace Mirrors

section Steps

variable (h : Mirrors R g g')

include h

theorem move (next : Phase) : Paired R (Guard.move next) (Guard.move next) := .move h.refuse next

theorem require (c : ConsoleCommand) : Paired R (g.require c) (g'.require c) := by
  refine .bind (.act (h.command c)) fun answer => ?_
  cases answer with
  | ok u => exact .pure ()
  | error f => exact .throw f

theorem sleeping (ms : Nat) : Paired R (act (Session.sleep ms)) (act (Session.sleep ms)) :=
  .act fun s s' hs => ⟨rfl, h.sleep ms s s' hs⟩

theorem findServer : Paired R g.findServer g'.findServer := .findServer h.target h.locate

theorem backUp : Paired R g.backUp g'.backUp := by
  refine .get fun p s s' => ?_
  show Paired R (if p.backup.isNone then _ else _) (if p.backup.isNone then _ else _)
  split
  · exact .bind (.act (h.archive .preShutdown)) fun o => .note _
  · exact .pure ()

theorem afterExit : Paired R g.afterExit g'.afterExit :=
  .bind (.note _) fun _ => .bind (h.move _) fun _ => .bind h.backUp fun _ => h.move _

theorem hasExited : Paired R g.hasExited g'.hasExited := by
  refine .get fun p s s' => ?_
  show Paired R (if p.exitConfirmed then _ else _) (if p.exitConfirmed then _ else _)
  split
  · exact .pure true
  · cases p.process with
    | none => exact .pure false
    | some pid => exact .bind (.act (h.check pid)) fun alive => .pure !alive

theorem archiveIfGone : Paired R g.archiveIfGone g'.archiveIfGone := by
  refine .bind h.hasExited fun gone => ?_
  cases gone with
  | true => exact .tolerate (.bind (h.move _) fun _ => h.backUp)
  | false => exact .pure ()

theorem salvage : Paired R g.salvage g'.salvage := by
  refine .get fun p s s' => ?_
  show Paired R (if p.phase.allowsSalvage then _ else _) (if p.phase.allowsSalvage then _ else _)
  split
  · exact h.archiveIfGone
  · exact .pure ()

theorem fail (f : Failure) : Paired R (g.fail f) (g'.fail f) :=
  .bind (.note _) fun _ => .bind h.salvage fun _ => .tolerate (h.move _)

end Steps

/-- Messages to the players that may differ. -/
theorem announceAll {news news' : List Broadcast}
    (hn : List.Forall₂ (fun b b' => Keeps R (g.announce b) (g'.announce b')) news news') :
    Paired R (g.announceAll news) (g'.announceAll news') := by
  induction hn with
  | nil => exact .pure ()
  | cons hb _ ih => exact Linked.act_bind hb ih

/-! ## Runs -/

section Runs

variable {trigger trigger' : Trigger} (h : Mirrors R g g') {p : Progress} {s : Session σ}
  {s' : Session τ}

include h

theorem warned (trigger : Trigger) : Warned R g g' trigger trigger :=
  fun _ => List.forall₂_same.mpr fun b _ => h.announce b

theorem warn (hw : Warned R g g' trigger trigger') :
    Paired R (g.warn trigger) (g'.warn trigger') := by
  unfold Guard.warn
  rw [h.timings]
  exact .bind (h.move _) fun _ => .bind (announceAll (hw _)) fun _ => h.sleeping _

theorem saveWorld : Paired R g.saveWorld g'.saveWorld := by
  have hn : Paired R (g.announceAll [savingNews]) (g'.announceAll [savingNews]) :=
    announceAll (.cons (h.announce _) .nil)
  unfold Guard.saveWorld
  rw [h.timings]
  exact .bind (h.move _) fun _ => .bind hn fun _ => .bind (h.require _) fun _ =>
    .bind (h.sleeping _) fun _ => .bind (h.require _) fun _ => h.sleeping _

theorem stopServer : Paired R g.stopServer g'.stopServer := by
  have hn : Paired R (g.announceAll [stoppingNews]) (g'.announceAll [stoppingNews]) :=
    announceAll (.cons (h.announce _) .nil)
  exact .bind (h.move _) fun _ => .bind hn fun _ => .bind (h.require _) fun _ => h.move _

theorem untilStopped (hw : Warned R g g' trigger trigger') :
    Paired R (g.untilStopped trigger) (g'.untilStopped trigger') :=
  .bind h.findServer fun pid => .bind (h.warn hw) fun _ => .bind h.saveWorld fun _ =>
    .bind h.stopServer fun _ => .pure pid

theorem settle {step : Step σ α} {step' : Step τ α} (hp : Linked R' R step step') (hs : R' s s') :
    ∃ a p₁ s₁ s₁', g.settle step p s = (a, p₁, s₁) ∧ g'.settle step' p s' = (a, p₁, s₁') ∧
      R s₁ s₁' := by
  obtain ⟨x, p₁, s₁, s₁', hr, hr', h₁⟩ := hp p hs
  unfold Guard.settle
  rw [hr, hr']
  cases x with
  | ok a => exact ⟨some a, p₁, s₁, s₁', rfl, rfl, h₁⟩
  | error f =>
    obtain ⟨y, p₂, s₂, s₂', hf, hf', h₂⟩ := h.fail f p₁ h₁
    exact ⟨none, p₂, s₂, s₂', by simp only [hf], by simp only [hf'], h₂⟩

theorem awaitExit (pid patience : Nat) (hs : R s s') :
    ∃ gone s₁ s₁', g.awaitExit pid patience s = (gone, s₁) ∧
      g'.awaitExit pid patience s' = (gone, s₁') ∧ R s₁ s₁' := by
  induction patience generalizing s s' with
  | zero => exact ⟨false, s, s', rfl, rfl, hs⟩
  | succ n ih =>
    obtain ⟨hc, h₁⟩ := h.check pid s s' hs
    rw [Guard.awaitExit, Guard.awaitExit, ← h.timings]
    generalize Session.check g.channel pid s = q at hc h₁
    generalize Session.check g'.channel pid s' = q' at hc h₁
    obtain ⟨alive, t⟩ := q
    obtain ⟨alive', t'⟩ := q'
    obtain rfl : alive = alive' := hc
    cases alive with
    | false => exact ⟨true, t, t', rfl, rfl, h₁⟩
    | true => exact ih (h.sleep _ t t' h₁)

theorem proceed (hl : Linked R' R (g.untilStopped trigger) (g'.untilStopped trigger'))
    (patience : Nat) (hs : R' s s') : ∃ p s₁ s₁', g.proceed trigger patience s = (p, s₁) ∧
      g'.proceed trigger' patience s' = (p, s₁') ∧ R s₁ s₁' := by
  obtain ⟨pid?, p₁, s₁, s₁', hu, hu', h₁⟩ := h.settle (p := {}) hl hs
  unfold Guard.proceed
  rw [hu, hu']
  cases pid? with
  | none => exact ⟨some p₁, s₁, s₁', rfl, rfl, h₁⟩
  | some pid =>
    obtain ⟨gone, s₂, s₂', ha, ha', h₂⟩ := h.awaitExit pid patience h₁
    simp only [ha, ha']
    cases gone with
    | false => exact ⟨none, s₂, s₂', rfl, rfl, h₂⟩
    | true =>
      obtain ⟨u, p₃, s₃, s₃', he, he', h₃⟩ := h.settle (p := p₁) h.afterExit h₂
      exact ⟨some p₃, s₃, s₃', by simp only [he], by simp only [he'], h₃⟩

/-- The shutdowns of two guards come to the same report, in related sessions, if they do so up to
the `stop` command. -/
theorem drainWithin_of_linked
    (hl : Linked R' R (g.untilStopped trigger) (g'.untilStopped trigger')) (patience : Nat)
    (hs : R' s s') : ∃ r s₁ s₁', g.drainWithin trigger patience s = (r, s₁) ∧
      g'.drainWithin trigger' patience s' = (r, s₁') ∧ R s₁ s₁' := by
  obtain ⟨p, s₁, s₁', hp, hp', h₁⟩ := h.proceed hl patience hs
  unfold Guard.drainWithin
  rw [hp, hp']
  cases p with
  | none => exact ⟨none, s₁, s₁', rfl, rfl, h₁⟩
  | some p =>
    obtain ⟨-, h₂⟩ := h.command .saveOn s₁ s₁' h₁
    exact ⟨some p.report, _, _, rfl, rfl, h.announce (outcome p) _ _ h₂⟩

/-- The shutdowns of two guards come to the same report, in related sessions. -/
theorem drainWithin (hw : Warned R g g' trigger trigger') (patience : Nat) (hs : R s s') :
    ∃ r s₁ s₁', g.drainWithin trigger patience s = (r, s₁) ∧
      g'.drainWithin trigger' patience s' = (r, s₁') ∧ R s₁ s₁' :=
  h.drainWithin_of_linked (h.untilStopped hw) patience hs

theorem pauseSaves : Alike R g.pauseSaves.run g'.pauseSaves.run := by
  unfold Guard.pauseSaves
  rw [h.timings]
  exact .bind_run (h.command .saveOff) fun _ => .bind_run (h.command .saveAll) fun _ s s' hs =>
    ⟨rfl, h.sleep _ s s' hs⟩

/-- The scheduled backups of two guards come to the same outcome, in related sessions. -/
theorem archiveScheduled : Alike R g.archiveScheduled g'.archiveScheduled := by
  have hon : Alike R (discard (g.command .saveOn)) (discard (g'.command .saveOn)) :=
    Keeps.discard fun s s' hs => (h.command .saveOn s s' hs).2
  have hend (b : Broadcast) (o : BackupOutcome) :
      Alike R (do discard (g.announce b); return o) (do discard (g'.announce b); return o) :=
    .bind (h.announce b).discard fun _ => .pure o
  refine .bind (h.announce _).discard fun _ => .bind h.pauseSaves fun paused => ?_
  cases paused with
  | ok u => exact .bind (h.archive .scheduled) fun o => .bind hon fun _ => hend _ o
  | error f => exact .bind (.pure _) fun o => .bind hon fun _ => hend _ o

end Runs

end Mirrors

end Guard

end DrainGuard
