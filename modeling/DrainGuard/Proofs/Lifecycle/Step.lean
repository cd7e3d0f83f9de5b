import DrainGuard.Proofs.Lifecycle.Act

/-!
# What the steps of a shutdown do

`Does g step p s as x p₁ s₁`: from the progress `p` and the session `s`, the step comes by the acts
`as` of the guard `g` to the result `x`, the progress `p₁` and the session `s₁`. The answers of the
console are free: a step that depends on one has a lemma that says what it does for each.

- **Sequencing** (`Does.bind`, `Does.bind_error`): the acts of two steps follow one another; a fault
  in the first one skips the second.
- **Moves** (`move_does`): a move that the rules allow leaves no event. Every use of it shows that
  the rules allow the move, so no part of a shutdown is ever refused one.
- **Single acts** (`announceAll_does`, `require_does`, `backUp_does`, `findServer_does_some`): what the
  console, the backup agent or the look-up answers is in the acts.
- **Waiting** (`awaitExit_enacts`): looks and sleeps in turn; the first look that finds the process
  gone ends them, and nothing else does. `Lasts` tells which of the answers that is.
- **Faults** (`fail_does_unlocated`, `fail_does_gone`, `fail_does_located`): whether a backup is
  made depends on what is known of the server, or else on one look at its process.
- **The conclusion** (`conclude_enacts`): two sends, whatever they are answered.
-/

namespace DrainGuard

/-- An answer of the console and the milliseconds that it took. -/
structure Reply where
  answer : Except Failure Unit
  ms : Nat

namespace Act

/-- A message to the players was sent. -/
def said (b : Broadcast) (r : Reply) : Act := .sent b.command r.answer r.ms

/-- A command to the server was sent. -/
def ordered (c : ConsoleCommand) (r : Reply) : Act := .sent c.text r.answer r.ms

/-- A process was alive at so many looks, with a pause after each. -/
def watched (pid pause : Nat) : Nat → List Act
  | 0 => []
  | k + 1 => .checked pid true :: .slept pause :: watched pid pause k

end Act

namespace Progress

/-- After a fault, with what the backup came to if one was made because of it. -/
def failed (p : Progress) (fault : Failure) : Option BackupOutcome → Progress
  | none => (p.faulted fault).enter .failed
  | some o => { (p.faulted fault).enter .backingUp with backup := some o }.enter .failed

/-- After the server is gone and the backup is made. -/
def completed (p : Progress) (o : BackupOutcome) : Progress :=
  { { p with exitConfirmed := true }.enter .backingUp with backup := some o }.enter .completed

theorem failed_history (p : Progress) (fault : Failure) (o : Option BackupOutcome) :
    (p.failed fault o).history =
      p.history ++ (if o.isSome then [.backingUp] else []) ++ [.failed] := by
  cases o with
  | none => rw [List.append_assoc]; rfl
  | some o => rfl

theorem completed_history (p : Progress) (o : BackupOutcome) :
    (p.completed o).history = p.history ++ [.backingUp] ++ [.completed] := rfl

end Progress

namespace Guard

variable {σ α β : Type} {g : Guard σ} {p p₁ p₂ : Progress} {s s₁ s₂ : Session σ}
  {as bs : List Act}

/-- The acts of a guard lead a step from a progress and a session to a result, a progress and a
session. -/
structure Does (g : Guard σ) (step : Step σ α) (p : Progress) (s : Session σ) (as : List Act)
    (x : Except Failure α) (p₁ : Progress) (s₁ : Session σ) : Prop where
  run : step.run (p, s) = (x, p₁, s₁)
  enacts : g.Enacts s as s₁

namespace Does

theorem pure (a : α) : Does g (Pure.pure a : Step σ α) p s [] (.ok a) p s := ⟨rfl, .nil s⟩

theorem throw (f : Failure) :
    Does g (MonadExcept.throw f : Step σ α) p s [] (.error f) p s := ⟨rfl, .nil s⟩

theorem of_eq {step : Step σ α} {x : Except Failure α} (h : Does g step p s as x p₁ s₁)
    (e : as = bs) : Does g step p s bs x p₁ s₁ := e ▸ h

theorem bind {m : Step σ α} {f : α → Step σ β} {a : α} {x : Except Failure β}
    (hm : Does g m p s as (.ok a) p₁ s₁) (hf : Does g (f a) p₁ s₁ bs x p₂ s₂) :
    Does g (m >>= f) p s (as ++ bs) x p₂ s₂ where
  run := by
    show ExceptT.bindCont f (m.run (p, s)).1 (m.run (p, s)).2 = _
    rw [hm.run]; exact hf.run
  enacts := hm.enacts.trans hf.enacts

theorem bind_error {m : Step σ α} {f : α → Step σ β} {e : Failure}
    (hm : Does g m p s as (.error e) p₁ s₁) : Does g (m >>= f) p s as (.error e) p₁ s₁ where
  run := by
    show ExceptT.bindCont f (m.run (p, s)).1 (m.run (p, s)).2 = _
    rw [hm.run]; rfl
  enacts := hm.enacts

/-- A step after one without acts. -/
theorem silent_bind {m : Step σ α} {f : α → Step σ β} {a : α} {x : Except Failure β}
    (hm : Does g m p s [] (.ok a) p₁ s₁) (hf : Does g (f a) p₁ s₁ bs x p₂ s₂) :
    Does g (m >>= f) p s bs x p₂ s₂ := hm.bind hf

/-- A step without acts after another one. -/
theorem bind_silent {m : Step σ α} {f : α → Step σ β} {a : α} {x : Except Failure β}
    (hm : Does g m p s as (.ok a) p₁ s₁) (hf : Does g (f a) p₁ s₁ [] x p₂ s₂) :
    Does g (m >>= f) p s as x p₂ s₂ := by
  simpa using hm.bind hf

end Does

theorem act_does {a : StateM (Session σ) α} (h : g.Enacts s as (a s).2) :
    Does g (act a) p s as (.ok (a s).1) p (a s).2 := ⟨rfl, h⟩

theorem note_does (f : Progress → Progress) :
    Does g (note f) p s [] (.ok ()) (f p) s := ⟨rfl, .nil s⟩

theorem get_does : Does g (get : Step σ (Progress × Session σ)) p s [] (.ok (p, s)) p s :=
  ⟨rfl, .nil s⟩

theorem tolerate_does {step : Step σ Unit} {x : Except Failure Unit}
    (h : Does g step p s as x p₁ s₁) : Does g (tolerate step) p s as (.ok ()) p₁ s₁ where
  run := by
    show (Except.ok (), (step.run (p, s)).2) = _
    rw [h.run]
  enacts := h.enacts

theorem get_bind_run (f : Progress × Session σ → Step σ α) :
    (get >>= f : Step σ α).run (p, s) = (f (p, s)).run (p, s) := rfl

/-- A move that the rules allow is made and leaves no event. -/
theorem move_does {next : Phase} (h : p.phase.canMoveTo next) :
    Does g (move next) p s [] (.ok ()) (p.enter next) s where
  run := by
    rw [move, get_bind_run]
    simp only [Progress.advance_ok h]
    rfl
  enacts := .nil s

/-! ## Single acts -/

theorem sleep_does (ms : Nat) :
    Does g (act (Session.sleep ms)) p s [.slept ms] (.ok ()) p (Session.sleep ms s).2 :=
  act_does (.slept ms (.nil _))

/-- Messages to the players: whether they are delivered does not matter. -/
theorem announceAll_does (g : Guard σ) (news : List Broadcast) (p : Progress) (s : Session σ) :
    ∃ rs s₁, rs.length = news.length ∧
      Does g (g.announceAll news) p s (List.zipWith Act.said news rs) (.ok ()) p s₁ := by
  induction news generalizing s with
  | nil => exact ⟨[], s, rfl, .pure ()⟩
  | cons b news ih =>
    let r : Reply :=
      ⟨(Session.send g.channel b.command s).1, (g.channel.send b.command s.world).1.2⟩
    have hb : g.Enacts s [.said b r] (g.announce b s).2 := .sent b.command (.nil _)
    obtain ⟨rs, s₁, hl, hd⟩ := ih (g.announce b s).2
    exact ⟨r :: rs, s₁, congrArg (· + 1) hl, (act_does hb).bind hd⟩

theorem announce_does (g : Guard σ) (b : Broadcast) (p : Progress) (s : Session σ) :
    ∃ r s₁, Does g (g.announceAll [b]) p s [.said b r] (.ok ()) p s₁ := by
  obtain ⟨rs, s₁, hl, hd⟩ := announceAll_does g [b] p s
  obtain ⟨r, rfl⟩ := List.length_eq_one_iff.mp hl
  exact ⟨r, s₁, hd⟩

/-- A command to the server: its failure is a fault. -/
theorem require_does (g : Guard σ) (c : ConsoleCommand) (p : Progress) (s : Session σ) :
    (∃ ms s₁, Does g (g.require c) p s [.ordered c ⟨.ok (), ms⟩] (.ok ()) p s₁) ∨
      ∃ f ms s₁, Does g (g.require c) p s [.ordered c ⟨.error f, ms⟩] (.error f) p s₁ := by
  have hc : Does g (act (g.command c)) p s
      [.ordered c ⟨(g.command c s).1, (g.channel.send c.text s.world).1.2⟩]
      (.ok (g.command c s).1) p (g.command c s).2 :=
    act_does (.sent c.text (.nil _))
  cases h : (g.command c s).1 with
  | ok u =>
    rw [h] at hc
    exact .inl ⟨_, _, hc.bind (.pure ())⟩
  | error f =>
    rw [h] at hc
    exact .inr ⟨f, _, _, hc.bind (.throw f)⟩

/-- The look-up has an answer of its own for each of its three outcomes. -/
theorem locate_does (g : Guard σ) (p : Progress) (s : Session σ) :
    Does g (act (Session.locate g.channel)) p s [.located (g.channel.locate s.world).1]
      (.ok (g.channel.locate s.world).1) p (Session.locate g.channel s).2 :=
  act_does (.located (.nil _))

theorem findServer_does_error {f : Failure} (h : (g.channel.locate s.world).1 = .error f) :
    ∃ s₁, Does g g.findServer p s [.located (.error f)] (.error f) p s₁ := by
  have hl := locate_does g p s
  rw [h] at hl
  exact ⟨_, hl.bind (.throw f)⟩

theorem findServer_does_none (h : (g.channel.locate s.world).1 = .ok none) :
    ∃ s₁, Does g g.findServer p s [.located (.ok none)] (.error g.absence)
      { p with exitConfirmed := true } s₁ := by
  have hl := locate_does g p s
  rw [h] at hl
  exact ⟨_, hl.bind ((note_does _).bind (.throw g.absence))⟩

theorem findServer_does_some {pid : Nat} (h : (g.channel.locate s.world).1 = .ok (some pid)) :
    ∃ s₁, Does g g.findServer p s [.located (.ok (some pid))] (.ok pid)
      { p with process := some pid } s₁ := by
  have hl := locate_does g p s
  rw [h] at hl
  exact ⟨_, hl.bind ((note_does _).bind (.pure pid))⟩

/-- The first backup of a sequence is made. -/
theorem backUp_does (g : Guard σ) (h : p.backup = none) (s : Session σ) :
    ∃ o ms s₁, Does g g.backUp p s [.archived .preShutdown o ms] (.ok ())
      { p with backup := some o } s₁ := by
  refine ⟨_, _, (Session.archive g.archiver .preShutdown s).2, ?_,
    .archived .preShutdown (.nil _)⟩
  obtain ⟨phase, history, process, exitConfirmed, backup, fault⟩ := p
  subst h
  rfl

/-! ## Waiting for the exit -/

/-- Is the process alive, at each of the looks that follow one another from a world on? -/
def answers (g : Guard σ) (pid : Nat) : σ → Nat → Bool
  | w, 0 => (g.channel.alive pid w).1
  | w, i + 1 => g.answers pid (g.channel.alive pid w).2 i

/-- So many looks find the process alive, and the next one finds it gone. -/
structure Lasts (answers : Nat → Bool) (k : Nat) : Prop where
  alive : ∀ i < k, answers i = true
  gone : answers k = false

namespace Lasts

variable {answers : Nat → Bool} {k n : Nat}

theorem succ (h₀ : answers 0 = true) (h : Lasts (fun i => answers (i + 1)) k) :
    Lasts answers (k + 1) where
  alive i hi := by
    cases i with
    | zero => exact h₀
    | succ i => exact h.alive i (Nat.lt_of_succ_lt_succ hi)
  gone := h.gone

theorem unique (h : Lasts answers k) (hn : Lasts answers n) : n = k := by
  rcases Nat.lt_trichotomy n k with hlt | rfl | hlt
  · cases hn.gone.symm.trans (h.alive n hlt)
  · rfl
  · cases h.gone.symm.trans (hn.alive k hlt)

/-- A false answer is the first one, or the first one comes before it. -/
theorem exists_of_gone (h : answers n = false) : ∃ k ≤ n, Lasts answers k := by
  induction n generalizing answers with
  | zero => exact ⟨0, Nat.le_refl 0, nofun, h⟩
  | succ n ih =>
    cases h₀ : answers 0 with
    | false => exact ⟨0, Nat.zero_le _, nofun, h₀⟩
    | true =>
      obtain ⟨k, hk, hl⟩ := @ih (fun i => answers (i + 1)) h
      exact ⟨k + 1, Nat.succ_le_succ hk, hl.succ h₀⟩

theorem exists_or_forall (answers : Nat → Bool) (n : Nat) :
    (∃ k < n, Lasts answers k) ∨ ∀ i < n, answers i = true := by
  by_cases h : ∃ i < n, answers i = false
  · obtain ⟨i, hi, hgone⟩ := h
    obtain ⟨k, hk, hl⟩ := exists_of_gone hgone
    exact .inl ⟨k, Nat.lt_of_le_of_lt hk hi, hl⟩
  · refine .inr fun i hi => ?_
    simpa using fun hgone => h ⟨i, hi, hgone⟩

end Lasts

/-- Every look but the last finds the process alive. The wait ends with the first look that finds it
gone. -/
theorem awaitExit_enacts (g : Guard σ) (pid patience : Nat) (s : Session σ) :
    (∃ k s₁, k < patience ∧ Lasts (g.answers pid s.world) k ∧
      g.awaitExit pid patience s = (true, s₁) ∧
      g.Enacts s (Act.watched pid g.timings.exitPollIntervalMillis k ++ [.checked pid false]) s₁) ∨
    ∃ s₁, (∀ i < patience, g.answers pid s.world i = true) ∧
      g.awaitExit pid patience s = (false, s₁) ∧
      g.Enacts s (Act.watched pid g.timings.exitPollIntervalMillis patience) s₁ := by
  induction patience generalizing s with
  | zero => exact .inr ⟨s, nofun, rfl, .nil s⟩
  | succ patience ih =>
    have hc : g.Enacts s _ (Session.check g.channel pid s).2 := .checked pid (.nil _)
    have h₀ : g.answers pid s.world 0 = (Session.check g.channel pid s).1 := rfl
    have hnext : (fun i => g.answers pid s.world (i + 1)) =
        g.answers pid (Session.check g.channel pid s).2.world := rfl
    rw [awaitExit]
    generalize Session.check g.channel pid s = q at hc h₀ hnext
    obtain ⟨alive, s'⟩ := q
    cases alive with
    | false => exact .inl ⟨0, s', Nat.succ_pos _, ⟨nofun, h₀⟩, rfl, hc⟩
    | true =>
      have hs := hc.trans (.slept g.timings.exitPollIntervalMillis (.nil _))
      rcases ih (Session.sleep g.timings.exitPollIntervalMillis s').2 with
        ⟨k, s₁, hk, hl, he, hp⟩ | ⟨s₁, hl, he, hp⟩
      · exact .inl ⟨k + 1, s₁, Nat.succ_lt_succ hk, .succ h₀ (hnext ▸ hl), he, hs.trans hp⟩
      · refine .inr ⟨s₁, fun i hi => ?_, he, hs.trans hp⟩
        cases i with
        | zero => exact h₀
        | succ i => exact (congrFun hnext i).trans (hl i (Nat.lt_of_succ_lt_succ hi))

/-! ## The end of a sequence -/

/-- The move to the backup and the backup itself. -/
theorem enter_backUp_does (g : Guard σ) (h : p.phase.canMoveTo .backingUp) (hb : p.backup = none)
    (s : Session σ) :
    ∃ o ms s₁, Does g (do move .backingUp; g.backUp) p s [.archived .preShutdown o ms] (.ok ())
      { p.enter .backingUp with backup := some o } s₁ := by
  obtain ⟨o, ms, s₁, hd⟩ := backUp_does (p := p.enter .backingUp) g hb s
  exact ⟨o, ms, s₁, (move_does h).bind hd⟩

/-- A clean run after the exit of the server. -/
theorem afterExit_does (g : Guard σ) (h : p.phase = .awaitingExit) (hb : p.backup = none)
    (s : Session σ) : ∃ o ms s₁,
      Does g g.afterExit p s [.archived .preShutdown o ms] (.ok ()) (p.completed o) s₁ := by
  obtain ⟨o, ms, s₁, hd⟩ := backUp_does (p := { p with exitConfirmed := true }.enter .backingUp)
    g hb s
  have hm : ({ p with exitConfirmed := true } : Progress).phase.canMoveTo .backingUp := by
    simp only [h]; rfl
  exact ⟨o, ms, s₁, (note_does _).bind ((move_does hm).bind (hd.bind (move_does rfl)))⟩

/-! ## Faults -/

theorem hasExited_does_confirmed (g : Guard σ) (h : p.exitConfirmed = true) (s : Session σ) :
    Does g g.hasExited p s [] (.ok true) p s := by
  refine get_does.silent_bind ?_
  simp only [h, ↓reduceIte]
  exact .pure true

theorem hasExited_does_unlocated (g : Guard σ) (h : p.exitConfirmed = false)
    (hp : p.process = none) (s : Session σ) : Does g g.hasExited p s [] (.ok false) p s := by
  refine get_does.silent_bind ?_
  simp only [h, hp, Bool.false_eq_true, ↓reduceIte]
  exact .pure false

/-- A server that is not known to be gone is looked at once. -/
theorem hasExited_does_located (g : Guard σ) {pid : Nat} (h : p.exitConfirmed = false)
    (hp : p.process = some pid) (s : Session σ) :
    ∃ alive s₁, Does g g.hasExited p s [.checked pid alive] (.ok !alive) p s₁ := by
  refine ⟨(Session.check g.channel pid s).1, (Session.check g.channel pid s).2,
    get_does.silent_bind ?_⟩
  simp only [h, hp, Bool.false_eq_true, ↓reduceIte]
  exact (act_does (.checked pid (.nil _))).bind (.pure _)

theorem archiveIfGone_does (g : Guard σ) (h : p.phase.canMoveTo .backingUp) (hb : p.backup = none)
    (hx : Does g g.hasExited p s as (.ok true) p s₁) :
    ∃ o ms s₂, Does g g.archiveIfGone p s (as ++ [.archived .preShutdown o ms]) (.ok ())
      { p.enter .backingUp with backup := some o } s₂ := by
  obtain ⟨o, ms, s₂, hd⟩ := enter_backUp_does g h hb s₁
  exact ⟨o, ms, s₂, hx.bind (tolerate_does hd)⟩

theorem salvage_does {x : Except Failure Unit} (h : p.phase.allowsSalvage)
    (ha : Does g g.archiveIfGone p s as x p₁ s₁) : Does g g.salvage p s as x p₁ s₁ := by
  refine get_does.silent_bind ?_
  simp only [h, ↓reduceIte]
  exact ha

/-- What a fault does in a phase that allows salvage depends on whether the server is gone. -/
theorem fail_does {f : Failure} (h : p.phase.allowsSalvage)
    (ha : Does g g.archiveIfGone (p.faulted f) s as (.ok ()) p₁ s₁)
    (hm : p₁.phase.canMoveTo .failed) :
    Does g (g.fail f) p s as (.ok ()) (p₁.enter .failed) s₁ :=
  (note_does fun p => p.faulted f).silent_bind
    ((salvage_does (p := p.faulted f) h ha).bind_silent (tolerate_does (move_does hm)))

/-- A fault before anything is known of a server. -/
theorem fail_does_unlocated (g : Guard σ) (f : Failure) (h : p.phase.allowsSalvage)
    (hc : p.exitConfirmed = false) (hp : p.process = none) (s : Session σ) :
    Does g (g.fail f) p s [] (.ok ()) (p.failed f none) s :=
  fail_does h ((hasExited_does_unlocated (p := p.faulted f) g hc hp s).silent_bind (.pure ()))
    (Phase.canMoveTo_failed (Phase.isTerminal_of_allowsSalvage h))

/-- A fault with the server known to be gone. -/
theorem fail_does_gone (g : Guard σ) (f : Failure) (h : p.phase.allowsSalvage)
    (hc : p.exitConfirmed = true) (hb : p.backup = none) (s : Session σ) :
    ∃ o ms s₁, Does g (g.fail f) p s [.archived .preShutdown o ms] (.ok ())
      (p.failed f (some o)) s₁ := by
  obtain ⟨o, ms, s₁, hd⟩ := archiveIfGone_does (p := p.faulted f) g
    (Phase.canMoveTo_backingUp h) hb (hasExited_does_confirmed (p := p.faulted f) g hc s)
  exact ⟨o, ms, s₁, fail_does h hd rfl⟩

/-- A fault after the server was located: one look at the process decides about the backup. -/
theorem fail_does_located (g : Guard σ) (f : Failure) {pid : Nat} (h : p.phase.allowsSalvage)
    (hc : p.exitConfirmed = false) (hp : p.process = some pid) (hb : p.backup = none)
    (s : Session σ) :
    (∃ s₁, Does g (g.fail f) p s [.checked pid true] (.ok ()) (p.failed f none) s₁) ∨
    ∃ o ms s₁, Does g (g.fail f) p s [.checked pid false, .archived .preShutdown o ms] (.ok ())
      (p.failed f (some o)) s₁ := by
  obtain ⟨alive, s₁, hx⟩ := hasExited_does_located (p := p.faulted f) g hc hp s
  cases alive with
  | true =>
    exact .inl ⟨s₁, fail_does h (hx.bind_silent (.pure ()))
      (Phase.canMoveTo_failed (Phase.isTerminal_of_allowsSalvage h))⟩
  | false =>
    obtain ⟨o, ms, s₂, hd⟩ :=
      archiveIfGone_does (p := p.faulted f) g (Phase.canMoveTo_backingUp h) hb hx
    exact .inr ⟨o, ms, s₂, fail_does h hd rfl⟩

/-! ## The conclusion -/

/-- The acts after a terminal phase: saving is turned on again and the outcome is announced. -/
def closing (p : Progress) (r₁ r₂ : Reply) : List Act :=
  [.ordered .saveOn r₁, .said (outcome p) r₂]

/-- The conclusion makes both sends, whatever the console answers. -/
theorem conclude_enacts (g : Guard σ) (p : Progress) (s : Session σ) :
    ∃ r₁ r₂ s₁, g.conclude p s = (p.report, s₁) ∧ g.Enacts s (closing p r₁ r₂) s₁ :=
  ⟨⟨_, _⟩, ⟨_, _⟩, _, rfl, .sent ConsoleCommand.saveOn.text (.sent (outcome p).command (.nil _))⟩

theorem conclude_plays (g : Guard σ) (p : Progress) (s : Session σ) :
    ∃ r₁ r₂ s₁, g.conclude p s = (p.report, s₁) ∧ s.Plays (closing p r₁ r₂) s₁ := by
  obtain ⟨r₁, r₂, s₁, hc, he⟩ := conclude_enacts g p s
  exact ⟨r₁, r₂, s₁, hc, he.plays⟩

end Guard

end DrainGuard
