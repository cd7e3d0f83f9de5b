import Mathlib.Data.List.Basic
import DrainGuard.Proofs.Lifecycle.Step

/-!
# The courses that a shutdown can take

Every run of `Guard.proceed` takes one of six courses, whatever the console, the backup agent and
the process answer.

- **Up to a command** (`Before`): what has been done when one of the three commands that drain the
  server is sent. It is sent only if those before it were delivered.
- **Courses** (`Course`): the look-up fails; there is no session; a command fails and the server is
  alive; a command fails and the server is gone; or the three commands are delivered and the
  process exits. The sixth, waiting for an exit that has not come, has no end.
- **Completeness** (`proceed_enacts`): these are all. A statement about every run is proved for each
  course.
- **Patience** (`drain_mono`): a run that has ended is the same for every greater patience.
-/

namespace DrainGuard

/-- The server process is known, and nothing has come of the sequence yet. -/
structure Progress.Draining (p : Progress) (pid : Nat) : Prop where
  process : p.process = some pid
  exitConfirmed : p.exitConfirmed = false
  backup : p.backup = none
  fault : p.fault = none

namespace Guard

variable {σ : Type}

/-- The warnings, and the time that the players then get. -/
def warningActs (g : Guard σ) (trigger : Trigger) (r₁ r₂ : Reply) : List Act :=
  List.zipWith Act.said (warnings trigger g.timings.warningDelaySecs) [r₁, r₂] ++
    [.slept g.timings.warningDelay]

/-- There are two warnings. Only the first one depends on the trigger, and it tells how many seconds
are left. -/
theorem warnings_eq (trigger : Trigger) (delaySecs : Nat) : ∃ front, warnings trigger delaySecs =
    [.warning (front ++ toString delaySecs ++ " seconds!"),
      .warning "Find somewhere safe and log out. The world will be saved and backed up."] := by
  cases trigger <;> exact ⟨_, rfl⟩

/-- What has been done, and how far the sequence has come, when a command is sent to the server
that was located. -/
inductive Before (g : Guard σ) (trigger : Trigger) (pid : Nat) :
    ConsoleCommand → Progress → List Act → Prop where
  | saveOff (r₁ r₂ r₃ : Reply) : Before g trigger pid .saveOff
      ((({ process := some pid } : Progress).enter .warningIssued).enter .savingState)
      ([.located (.ok (some pid))] ++ warningActs g trigger r₁ r₂ ++ [.said savingNews r₃])
  | saveAll {p : Progress} {as : List Act} (h : Before g trigger pid .saveOff p as) (ms : Nat) :
      Before g trigger pid .saveAll p
        (as ++ [.ordered .saveOff ⟨.ok (), ms⟩, .slept g.timings.graceDelay])
  | stop {p : Progress} {as : List Act} (h : Before g trigger pid .saveAll p as) (ms : Nat)
      (r : Reply) :
      Before g trigger pid .stop (p.enter .stoppingProcess)
        (as ++ [.ordered .saveAll ⟨.ok (), ms⟩, .slept g.timings.graceDelay,
          .said stoppingNews r])

/-- After the `stop` command was delivered, with so many looks that found the process alive. -/
def stoppedActs (g : Guard σ) (pid ms looks : Nat) : List Act :=
  .ordered .stop ⟨.ok (), ms⟩ :: Act.watched pid g.timings.exitPollIntervalMillis looks

/-- How a sequence comes to a terminal phase, by the answer of the look-up. -/
inductive Course (g : Guard σ) (trigger : Trigger) :
    Except Failure (Option Nat) → Progress → List Act → Prop where
  | lookupFailed (f : Failure) : Course g trigger (.error f)
      (({} : Progress).failed f none) [.located (.error f)]
  | absent (o : BackupOutcome) (ms : Nat) : Course g trigger (.ok none)
      (({ exitConfirmed := true } : Progress).failed g.absence (some o))
      [.located (.ok none), .archived .preShutdown o ms]
  | alive {pid : Nat} {c : ConsoleCommand} {p : Progress} {as : List Act}
      (h : Before g trigger pid c p as) (f : Failure) (ms : Nat) :
      Course g trigger (.ok (some pid)) (p.failed f none)
        (as ++ [.ordered c ⟨.error f, ms⟩, .checked pid true])
  | salvaged {pid : Nat} {c : ConsoleCommand} {p : Progress} {as : List Act}
      (h : Before g trigger pid c p as) (f : Failure) (ms : Nat) (o : BackupOutcome)
      (backupMs : Nat) :
      Course g trigger (.ok (some pid)) (p.failed f (some o))
        (as ++ [.ordered c ⟨.error f, ms⟩, .checked pid false,
          .archived .preShutdown o backupMs])
  | clean {pid : Nat} {p : Progress} {as : List Act} (h : Before g trigger pid .stop p as)
      (ms looks : Nat) (o : BackupOutcome) (backupMs : Nat) :
      Course g trigger (.ok (some pid)) ((p.enter .awaitingExit).completed o)
        (as ++ stoppedActs g pid ms looks ++
          [.checked pid false, .archived .preShutdown o backupMs])

section Parts

variable {g : Guard σ} {trigger : Trigger} {pid : Nat} {c : ConsoleCommand} {p : Progress}
  {as : List Act} {s : Session σ}

namespace Before

theorem draining (h : Before g trigger pid c p as) : p.Draining pid := by
  induction h with
  | saveOff => exact ⟨rfl, rfl, rfl, rfl⟩
  | saveAll h ms ih => exact ih
  | stop h ms r ih => exact ⟨ih.process, ih.exitConfirmed, ih.backup, ih.fault⟩

theorem phase_eq (h : Before g trigger pid c p as) :
    p.phase = if c = .stop then .stoppingProcess else .savingState := by
  induction h with
  | saveOff => rfl
  | saveAll h ms ih => exact ih
  | stop h ms r ih => rfl

theorem history_eq (h : Before g trigger pid c p as) :
    p.history = [.running, .warningIssued, .savingState] ++
      if c = .stop then [.stoppingProcess] else [] := by
  induction h with
  | saveOff => rfl
  | saveAll h ms ih => exact ih
  | stop h ms r ih =>
    rw [Progress.enter, ih]
    rfl

/-- The server has been warned and not waited for: a fault may go on to the backup. -/
theorem allowsSalvage (h : Before g trigger pid c p as) : p.phase.allowsSalvage := by
  rw [h.phase_eq]
  split <;> rfl

end Before

/-! ## The parts of a sequence -/

theorem warn_does (g : Guard σ) (trigger : Trigger) (h : p.phase = .running) (s : Session σ) :
    ∃ r₁ r₂ s₁, Does g (g.warn trigger) p s (warningActs g trigger r₁ r₂) (.ok ())
      (p.enter .warningIssued) s₁ := by
  have hm : p.phase.canMoveTo .warningIssued := by rw [h]; rfl
  obtain ⟨rs, s₁, hl, hn⟩ := announceAll_does g (warnings trigger g.timings.warningDelaySecs)
    (p.enter .warningIssued) s
  obtain ⟨r₁, r₂, rfl⟩ := List.length_eq_two.mp hl
  exact ⟨r₁, r₂, _, (move_does hm).silent_bind (hn.bind (sleep_does g.timings.warningDelay))⟩

/-- What saving the world does: both commands are delivered, or the first that fails ends it. -/
theorem saveWorld_does (g : Guard σ) (h : p.phase = .warningIssued) (s : Session σ) :
    ∃ r, (∃ f ms s₁, Does g g.saveWorld p s
        ([.said savingNews r] ++ [.ordered .saveOff ⟨.error f, ms⟩]) (.error f)
        (p.enter .savingState) s₁) ∨
      ∃ ms₁, (∃ f ms s₁, Does g g.saveWorld p s
          ([.said savingNews r] ++ [.ordered .saveOff ⟨.ok (), ms₁⟩, .slept g.timings.graceDelay] ++
            [.ordered .saveAll ⟨.error f, ms⟩]) (.error f) (p.enter .savingState) s₁) ∨
        ∃ ms₂ s₁, Does g g.saveWorld p s
          ([.said savingNews r] ++ [.ordered .saveOff ⟨.ok (), ms₁⟩, .slept g.timings.graceDelay] ++
            [.ordered .saveAll ⟨.ok (), ms₂⟩, .slept g.timings.graceDelay]) (.ok ())
          (p.enter .savingState) s₁ := by
  have hm : p.phase.canMoveTo .savingState := by rw [h]; rfl
  obtain ⟨r, s₁, hn⟩ := announce_does g savingNews (p.enter .savingState) s
  refine ⟨r, ?_⟩
  rcases require_does g .saveOff (p.enter .savingState) s₁ with ⟨ms₁, s₂, ho⟩ | ⟨f, ms, s₂, ho⟩
  · refine .inr ⟨ms₁, ?_⟩
    have hs := sleep_does (g := g) (p := p.enter .savingState) (s := s₂) g.timings.graceDelay
    rcases require_does g .saveAll (p.enter .savingState) (Session.sleep g.timings.graceDelay s₂).2
      with ⟨ms₂, s₃, ha⟩ | ⟨f, ms, s₃, ha⟩
    · exact .inr ⟨ms₂, _, (move_does hm).silent_bind
        (hn.bind (ho.bind (hs.bind (ha.bind (sleep_does g.timings.graceDelay)))))⟩
    · exact .inl ⟨f, ms, s₃, (move_does hm).silent_bind
        (hn.bind (ho.bind (hs.bind ha.bind_error)))⟩
  · exact .inl ⟨f, ms, s₂, (move_does hm).silent_bind (hn.bind ho.bind_error)⟩

theorem stopServer_does (g : Guard σ) (h : p.phase = .savingState) (s : Session σ) :
    ∃ r, (∃ f ms s₁, Does g g.stopServer p s
        ([.said stoppingNews r] ++ [.ordered .stop ⟨.error f, ms⟩]) (.error f)
        (p.enter .stoppingProcess) s₁) ∨
      ∃ ms s₁, Does g g.stopServer p s
        ([.said stoppingNews r] ++ [.ordered .stop ⟨.ok (), ms⟩]) (.ok ())
        ((p.enter .stoppingProcess).enter .awaitingExit) s₁ := by
  have hm : p.phase.canMoveTo .stoppingProcess := by rw [h]; rfl
  obtain ⟨r, s₁, hn⟩ := announce_does g stoppingNews (p.enter .stoppingProcess) s
  refine ⟨r, ?_⟩
  rcases require_does g .stop (p.enter .stoppingProcess) s₁ with ⟨ms, s₂, ho⟩ | ⟨f, ms, s₂, ho⟩
  · exact .inr ⟨ms, s₂, (move_does hm).silent_bind (hn.bind (ho.bind_silent (move_does rfl)))⟩
  · exact .inl ⟨f, ms, s₂, (move_does hm).silent_bind (hn.bind ho.bind_error)⟩

/-- Up to the `stop` command, with a server that was located: the first of the three commands that
fails ends it. -/
theorem untilStopped_does (g : Guard σ) (trigger : Trigger)
    (h : (g.channel.locate s.world).1 = .ok (some pid)) :
    (∃ c p as f ms s₁, Before g trigger pid c p as ∧
      Does g (g.untilStopped trigger) {} s (as ++ [.ordered c ⟨.error f, ms⟩]) (.error f) p s₁) ∨
    ∃ p as ms s₁, Before g trigger pid .stop p as ∧
      Does g (g.untilStopped trigger) {} s (as ++ [.ordered .stop ⟨.ok (), ms⟩]) (.ok pid)
        (p.enter .awaitingExit) s₁ := by
  obtain ⟨s₁, hf⟩ := findServer_does_some (p := {}) h
  obtain ⟨r₁, r₂, s₂, hw⟩ := warn_does (p := { process := some pid }) g trigger rfl s₁
  obtain ⟨r₃, hsave⟩ := saveWorld_does g
    (p := ({ process := some pid } : Progress).enter .warningIssued) rfl s₂
  rcases hsave with ⟨f, ms, s₃, hs⟩ | ⟨ms₁, ⟨f, ms, s₃, hs⟩ | ⟨ms₂, s₃, hs⟩⟩
  · exact .inl ⟨_, _, _, f, ms, s₃, .saveOff r₁ r₂ r₃,
      (hf.bind (hw.bind hs.bind_error)).of_eq (by simp)⟩
  · exact .inl ⟨_, _, _, f, ms, s₃, .saveAll (.saveOff r₁ r₂ r₃) ms₁,
      (hf.bind (hw.bind hs.bind_error)).of_eq (by simp)⟩
  · obtain ⟨r₄, hstop⟩ := stopServer_does g (p :=
      (({ process := some pid } : Progress).enter .warningIssued).enter .savingState) rfl s₃
    have hb : Before g trigger pid .stop _ _ :=
      .stop (.saveAll (.saveOff r₁ r₂ r₃) ms₁) ms₂ r₄
    rcases hstop with ⟨f, ms, s₄, ht⟩ | ⟨ms, s₄, ht⟩
    · exact .inl ⟨_, _, _, f, ms, s₄, hb,
        (hf.bind (hw.bind (hs.bind ht.bind_error))).of_eq (by simp)⟩
    · exact .inr ⟨_, _, ms, s₄, hb,
        (hf.bind (hw.bind (hs.bind (ht.bind_silent (.pure pid))))).of_eq (by simp)⟩

/-! ## The whole sequence -/

theorem settle_of_ok {α : Type} {step : Step σ α} {a : α} {p₁ : Progress} {s₁ : Session σ}
    (h : Does g step p s as (.ok a) p₁ s₁) : g.settle step p s = (some a, p₁, s₁) := by
  simp [settle, h.run]

theorem settle_of_error {α : Type} {step : Step σ α} {f : Failure} {bs : List Act}
    {x : Except Failure Unit} {p₁ p₂ : Progress} {s₁ s₂ : Session σ}
    (h : Does g step p s as (.error f) p₁ s₁) (hf : Does g (g.fail f) p₁ s₁ bs x p₂ s₂) :
    g.settle step p s = (none, p₂, s₂) := by
  simp [settle, h.run, hf.run]

/-- The sequence up to its wait: a fault has ended it, or the wait for the exit begins. -/
theorem settle_untilStopped (g : Guard σ) (trigger : Trigger) (s : Session σ) :
    (∃ p as s₁, Course g trigger (g.channel.locate s.world).1 p as ∧ p.phase = .failed ∧
      g.settle (g.untilStopped trigger) {} s = (none, p, s₁) ∧ g.Enacts s as s₁) ∨
    ∃ pid p as ms s₁, (g.channel.locate s.world).1 = .ok (some pid) ∧
      Before g trigger pid .stop p as ∧
      g.settle (g.untilStopped trigger) {} s = (some pid, p.enter .awaitingExit, s₁) ∧
      g.Enacts s (as ++ [.ordered .stop ⟨.ok (), ms⟩]) s₁ := by
  cases hl : (g.channel.locate s.world).1 with
  | error f =>
    obtain ⟨s₁, hu⟩ := findServer_does_error (p := {}) hl
    have hf := fail_does_unlocated (p := {}) g f rfl rfl rfl s₁
    exact .inl ⟨_, _, s₁, .lookupFailed f, rfl, settle_of_error hu.bind_error hf, hu.enacts⟩
  | ok located =>
    cases located with
    | none =>
      obtain ⟨s₁, hu⟩ := findServer_does_none (p := {}) hl
      obtain ⟨o, ms, s₂, hf⟩ :=
        fail_does_gone (p := { exitConfirmed := true }) g g.absence rfl rfl rfl s₁
      exact .inl ⟨_, _, s₂, .absent o ms, rfl, settle_of_error hu.bind_error hf,
        hu.enacts.trans hf.enacts⟩
    | some pid =>
      -- a command failed, so the look at the process decides; or the server was told to stop
      rcases untilStopped_does g trigger hl with
        ⟨c, p, as, f, ms, s₁, hb, hu⟩ | ⟨p, as, ms, s₁, hb, hu⟩
      · have hd := hb.draining
        rcases fail_does_located g f hb.allowsSalvage hd.exitConfirmed hd.process hd.backup s₁ with
          ⟨s₂, hf⟩ | ⟨o, bms, s₂, hf⟩
        · exact .inl ⟨_, _, s₂, .alive hb f ms, rfl, settle_of_error hu hf,
            (hu.enacts.trans hf.enacts).of_eq (by simp)⟩
        · exact .inl ⟨_, _, s₂, .salvaged hb f ms o bms, rfl, settle_of_error hu hf,
            (hu.enacts.trans hf.enacts).of_eq (by simp)⟩
      · exact .inr ⟨pid, p, as, ms, s₁, rfl, hb, settle_of_ok hu, hu.enacts⟩

/-- Every run takes one of the courses, or waits for an exit that has not come. -/
theorem proceed_enacts (g : Guard σ) (trigger : Trigger) (patience : Nat) (s : Session σ) :
    (∃ p as s₁, Course g trigger (g.channel.locate s.world).1 p as ∧
      g.proceed trigger patience s = (some p, s₁) ∧ g.Enacts s as s₁) ∨
    ∃ pid p as ms s₁, (g.channel.locate s.world).1 = .ok (some pid) ∧
      Before g trigger pid .stop p as ∧ g.proceed trigger patience s = (none, s₁) ∧
      g.Enacts s (as ++ stoppedActs g pid ms patience) s₁ := by
  rcases settle_untilStopped g trigger s with
    ⟨p, as, s₁, hc, -, hu, he⟩ | ⟨pid, p, as, ms, s₁, hl, hb, hu, he⟩
  · exact .inl ⟨p, as, s₁, hc, by rw [proceed, hu], he⟩
  · rw [hl]
    rcases awaitExit_enacts g pid patience s₁ with
      ⟨k, s₂, -, -, hw, hp⟩ | ⟨s₂, -, hw, hp⟩
    · obtain ⟨o, bms, s₃, hd⟩ := afterExit_does (p := p.enter .awaitingExit) g rfl
        hb.draining.backup s₂
      exact .inl ⟨_, _, s₃, .clean hb ms k o bms,
        by simp only [proceed, hu, hw, settle_of_ok hd],
        ((he.trans hp).trans hd.enacts).of_eq (by simp [stoppedActs])⟩
    · exact .inr ⟨pid, p, as, ms, s₂, rfl, hb, by simp only [proceed, hu, hw],
        (he.trans hp).of_eq (by simp [stoppedActs])⟩

theorem proceed_course (g : Guard σ) (trigger : Trigger) (patience : Nat) (s : Session σ) :
    (∃ p as s₁, Course g trigger (g.channel.locate s.world).1 p as ∧
      g.proceed trigger patience s = (some p, s₁) ∧ s.Plays as s₁) ∨
    ∃ pid p as ms s₁, (g.channel.locate s.world).1 = .ok (some pid) ∧
      Before g trigger pid .stop p as ∧ g.proceed trigger patience s = (none, s₁) ∧
      s.Plays (as ++ stoppedActs g pid ms patience) s₁ := by
  rcases proceed_enacts g trigger patience s with
    ⟨p, as, s₁, hc, hr, he⟩ | ⟨pid, p, as, ms, s₁, hl, hb, hr, he⟩
  · exact .inl ⟨p, as, s₁, hc, hr, he.plays⟩
  · exact .inr ⟨pid, p, as, ms, s₁, hl, hb, hr, he.plays⟩

/-- What the acts of a run are after its look-up answered: those of a course and of the conclusion,
or those of a wait that the patience ended. -/
theorem drainWithin_enacts (g : Guard σ) (trigger : Trigger) (patience : Nat) (s : Session σ) :
    (∃ p as r₁ r₂ s₁, Course g trigger (g.channel.locate s.world).1 p as ∧
      g.drainWithin trigger patience s = (some p.report, s₁) ∧
      g.Enacts s (as ++ closing p r₁ r₂) s₁) ∨
    ∃ pid p as ms s₁, (g.channel.locate s.world).1 = .ok (some pid) ∧
      Before g trigger pid .stop p as ∧ g.drainWithin trigger patience s = (none, s₁) ∧
      g.Enacts s (as ++ stoppedActs g pid ms patience) s₁ := by
  rcases proceed_enacts g trigger patience s with
    ⟨p, as, s₁, hc, hr, hp⟩ | ⟨pid, p, as, ms, s₁, hl, hb, hr, hp⟩
  · obtain ⟨r₁, r₂, s₂, hd, hq⟩ := conclude_enacts g p s₁
    exact .inl ⟨p, as, r₁, r₂, s₂, hc, by simp only [drainWithin, hr, hd], hp.trans hq⟩
  · exact .inr ⟨pid, p, as, ms, s₁, hl, hb, by simp only [drainWithin, hr], hp⟩

theorem drainWithin_course (g : Guard σ) (trigger : Trigger) (patience : Nat) (s : Session σ) :
    (∃ p as r₁ r₂ s₁, Course g trigger (g.channel.locate s.world).1 p as ∧
      g.drainWithin trigger patience s = (some p.report, s₁) ∧
      s.Plays (as ++ closing p r₁ r₂) s₁) ∨
    ∃ pid p as ms s₁, (g.channel.locate s.world).1 = .ok (some pid) ∧
      Before g trigger pid .stop p as ∧ g.drainWithin trigger patience s = (none, s₁) ∧
      s.Plays (as ++ stoppedActs g pid ms patience) s₁ := by
  rcases drainWithin_enacts g trigger patience s with
    ⟨p, as, r₁, r₂, s₁, hc, hr, he⟩ | ⟨pid, p, as, ms, s₁, hl, hb, hr, he⟩
  · exact .inl ⟨p, as, r₁, r₂, s₁, hc, hr, he.plays⟩
  · exact .inr ⟨pid, p, as, ms, s₁, hl, hb, hr, he.plays⟩

/-- A run that has ended came to a terminal phase and was concluded. -/
theorem drain_eq_some {r : Report} {s₁ : Session σ} {patience : Nat} :
    g.drain trigger patience s = some (r, s₁) ↔
      ∃ p s₂, g.proceed trigger patience s = (some p, s₂) ∧ g.conclude p s₂ = (r, s₁) := by
  unfold drain drainWithin
  rcases g.proceed trigger patience s with ⟨_ | p, s₂⟩
  · simp
  · simp [Prod.ext_iff]

/-- The acts of a run that has ended. -/
theorem drain_course {r : Report} {s₁ : Session σ} {patience : Nat}
    (h : g.drain trigger patience s = some (r, s₁)) :
    ∃ p as r₁ r₂, Course g trigger (g.channel.locate s.world).1 p as ∧ p.report = r ∧
      s.Plays (as ++ closing p r₁ r₂) s₁ := by
  rcases drainWithin_course g trigger patience s with
    ⟨p, as, r₁, r₂, s₂, hc, hr, hp⟩ | ⟨pid, p, as, ms, s₂, hl, hb, hr, hp⟩
  · simp only [drain, hr, Option.some.injEq, Prod.mk.injEq] at h
    obtain ⟨rfl, rfl⟩ := h
    exact ⟨p, as, r₁, r₂, hc, rfl, hp⟩
  · simp only [drain, hr] at h
    cases h

/-! ## Patience -/

theorem awaitExit_mono {s₁ : Session σ} {patience more : Nat} (hle : patience ≤ more)
    (h : g.awaitExit pid patience s = (true, s₁)) : g.awaitExit pid more s = (true, s₁) := by
  induction patience generalizing s more with
  | zero => cases h
  | succ n ih =>
    obtain ⟨m, rfl⟩ := Nat.exists_eq_add_one.mpr (Nat.lt_of_lt_of_le n.succ_pos hle)
    rw [awaitExit] at h ⊢
    generalize Session.check g.channel pid s = q at h
    obtain ⟨alive, s'⟩ := q
    cases alive with
    | false => exact h
    | true => exact ih (Nat.le_of_succ_le_succ hle) h

/-- More looks never change a run that has ended. -/
theorem drain_mono {trigger : Trigger} {patience more : Nat} {r : Report × Session σ}
    (hle : patience ≤ more) (h : g.drain trigger patience s = some r) :
    g.drain trigger more s = some r := by
  rw [← h]
  unfold drain drainWithin proceed at h ⊢
  generalize g.settle (g.untilStopped trigger) {} s = q at h
  obtain ⟨_ | pid, p, s₁⟩ := q
  · rfl
  · simp only at h ⊢
    cases hw : g.awaitExit pid patience s₁ with
    | mk gone s₂ =>
      cases gone with
      | false => rw [hw] at h; cases h
      | true => rw [awaitExit_mono hle hw]

end Parts

end Guard

end DrainGuard
