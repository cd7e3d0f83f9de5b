import DrainGuard.Proofs.Console.Urgent
import DrainGuard.Proofs.Lifecycle.Account
import DrainGuard.Proofs.Lifecycle.Commands

/-!
# A backup while the server keeps running

Saving is paused around a scheduled backup and turned on again after it, whatever the console and
the agent answer.

- **Ways** (`Guard.Scheduled`): one of the two commands that pause saving fails, or the world is
  archived. `archiveScheduled_enacts` says that these are all.
- **Rules** (`ScheduledBackup`): the lines of a scheduled backup, its one call of the agent and its
  outcome, by what the console answers to the commands.
- **All runs** (`archiveScheduled_pauses`).
-/

namespace DrainGuard

variable {o : BackupOutcome}

/-- The commands that pause saving, in their order. -/
def pausing : List ConsoleCommand := [.saveOff, .saveAll]

/-- The cause of the first command that fails. -/
def firstFault (answer : ConsoleCommand → Except Failure Unit) :
    List ConsoleCommand → Option Failure
  | [] => none
  | c :: cs => match answer c with
    | .ok () => firstFault answer cs
    | .error f => some f

namespace Act

/-- The command that was sent, with its answer. -/
def order? : Act → Option (ConsoleCommand × Except Failure Unit)
  | sent line answer _ => (ConsoleCommand.ofText? line).map fun c => (c, answer)
  | _ => none

/-- The mode of the backup that was made, with what it came to. -/
def archive? : Act → Option (BackupMode × BackupOutcome)
  | archived mode o _ => some (mode, o)
  | _ => none

/-- The server process was looked up or looked at. -/
def isLook : Act → Bool
  | located _ | checked _ _ => true
  | _ => false

@[simp] theorem order?_said (b : Broadcast) (r : Reply) : (said b r).order? = none := by
  simp [said, order?]

@[simp] theorem order?_ordered (c : ConsoleCommand) (r : Reply) :
    (ordered c r).order? = some (c, r.answer) := by
  simp [ordered, order?]

@[simp] theorem order?_slept (ms : Nat) : (slept ms).order? = none := rfl

@[simp] theorem order?_archived (mode : BackupMode) (o : BackupOutcome) (ms : Nat) :
    (archived mode o ms).order? = none := rfl

end Act

namespace Guard

variable {σ : Type} {g : Guard σ} {as : List Act}

/-- What the players are told before a scheduled backup. -/
def backupNews : Broadcast := .info "Starting a world backup, expect a little lag"

/-- What the players are told of the outcome of a scheduled backup. -/
def verdict : BackupOutcome → Broadcast
  | .success => .info "World backup complete"
  | .failure reason => .critical ("World backup failed: " ++ reason)

/-- The acts after the pause, whether or not the world was archived. -/
def resuming (o : BackupOutcome) (r₁ r₂ : Reply) : List Act :=
  [.ordered .saveOn r₁, .said (verdict o) r₂]

/-- The ways that a scheduled backup can go. -/
inductive Scheduled (g : Guard σ) : BackupOutcome → List Act → Prop where
  | unpaused (r₀ : Reply) (f : Failure) (ms : Nat) (r₁ r₂ : Reply) : Scheduled g (.failure f.text)
      ([.said backupNews r₀, .ordered .saveOff ⟨.error f, ms⟩] ++ resuming (.failure f.text) r₁ r₂)
  | unflushed (r₀ : Reply) (ms₁ : Nat) (f : Failure) (ms₂ : Nat) (r₁ r₂ : Reply) :
      Scheduled g (.failure f.text) ([.said backupNews r₀, .ordered .saveOff ⟨.ok (), ms₁⟩,
        .ordered .saveAll ⟨.error f, ms₂⟩] ++ resuming (.failure f.text) r₁ r₂)
  | archived (r₀ : Reply) (ms₁ ms₂ : Nat) (o : BackupOutcome) (backupMs : Nat) (r₁ r₂ : Reply) :
      Scheduled g o ([.said backupNews r₀, .ordered .saveOff ⟨.ok (), ms₁⟩,
        .ordered .saveAll ⟨.ok (), ms₂⟩, .slept g.timings.graceDelay,
        .archived .scheduled o backupMs] ++ resuming o r₁ r₂)

/-! ## What is done -/

/-- Saves again and tells the players how the backup went. -/
theorem resume_enacts (g : Guard σ) (o : BackupOutcome) (s : Session σ) :
    ∃ r₁ r₂, g.Enacts s (resuming o r₁ r₂) (g.announce (verdict o) (g.command .saveOn s).2).2 :=
  ⟨⟨_, _⟩, ⟨_, _⟩, .sent ConsoleCommand.saveOn.text (.sent (verdict o).command (.nil _))⟩

theorem command_enacts (g : Guard σ) (c : ConsoleCommand) (s : Session σ) :
    ∃ ms, g.Enacts s [.ordered c ⟨(g.command c s).1, ms⟩] (g.command c s).2 :=
  ⟨_, .sent c.text (.nil _)⟩

theorem bind_run {α β : Type} (a : StateM (Session σ) (Except Failure α))
    (f : α → ExceptT Failure (StateM (Session σ)) β) (s : Session σ) :
    (ExceptT.mk a >>= f).run s = match a s with
      | (.error e, s₁) => (.error e, s₁)
      | (.ok x, s₁) => (f x).run s₁ := by
  show (ExceptT.bindCont f (a s).1 : StateM (Session σ) _) (a s).2 = _
  rcases a s with ⟨_ | _, s₁⟩ <;> rfl

/-- What pausing does: both commands are delivered, or the first that fails ends it. -/
theorem pauseSaves_enacts (g : Guard σ) (s : Session σ) :
    (∃ f ms s₁, g.pauseSaves.run s = (.error f, s₁) ∧
      g.Enacts s [.ordered .saveOff ⟨.error f, ms⟩] s₁) ∨
    ∃ ms₁, (∃ f ms₂ s₁, g.pauseSaves.run s = (.error f, s₁) ∧
        g.Enacts s [.ordered .saveOff ⟨.ok (), ms₁⟩, .ordered .saveAll ⟨.error f, ms₂⟩] s₁) ∨
      ∃ ms₂ s₁, g.pauseSaves.run s = (.ok (), s₁) ∧
        g.Enacts s [.ordered .saveOff ⟨.ok (), ms₁⟩, .ordered .saveAll ⟨.ok (), ms₂⟩,
          .slept g.timings.graceDelay] s₁ := by
  obtain ⟨ms₁, hoff⟩ := command_enacts g .saveOff s
  rw [pauseSaves, bind_run]
  generalize g.command .saveOff s = q at hoff
  obtain ⟨f | _, s₁⟩ := q
  · exact .inl ⟨f, ms₁, s₁, rfl, hoff⟩
  obtain ⟨ms₂, hall⟩ := command_enacts g .saveAll s₁
  simp only [bind_run]
  generalize g.command .saveAll s₁ = q at hall
  obtain ⟨f | _, s₂⟩ := q
  · exact .inr ⟨ms₁, .inl ⟨f, ms₂, s₂, rfl, hoff.trans hall⟩⟩
  · exact .inr ⟨ms₁, .inr ⟨ms₂, _, rfl,
      (hoff.trans hall).trans (.slept g.timings.graceDelay (.nil _))⟩⟩

/-- A scheduled backup by what pausing came to. -/
theorem archiveScheduled_run (g : Guard σ) (s : Session σ) :
    g.archiveScheduled s =
      let (o, s₁) := match g.pauseSaves.run (g.announce backupNews s).2 with
        | (.error f, s₁) => (.failure f.text, s₁)
        | (.ok (), s₁) => Session.archive g.archiver .scheduled s₁
      (o, (g.announce (verdict o) (g.command .saveOn s₁).2).2) := by
  have hbind {α β : Type} (m : StateM (Session σ) α) (f : α → StateM (Session σ) β)
      (s : Session σ) : (m >>= f) s = f (m s).1 (m s).2 := rfl
  have hnews (b : Broadcast) : (discard (g.announce b) s).2 = (g.announce b s).2 := rfl
  unfold archiveScheduled
  rw [hbind, hbind, hnews, ← backupNews]
  rcases g.pauseSaves.run (g.announce backupNews s).2 with ⟨f | _, s₁⟩
  · rfl
  · simp only [hbind]
    rcases Session.archive g.archiver .scheduled s₁ with ⟨_ | reason, s₂⟩ <;> rfl

/-- Every scheduled backup goes one of these ways. -/
theorem archiveScheduled_enacts (g : Guard σ) (s : Session σ) :
    ∃ o as s₁, g.archiveScheduled s = (o, s₁) ∧ Scheduled g o as ∧ g.Enacts s as s₁ := by
  have hnews : g.Enacts s [.said backupNews ⟨_, _⟩] (g.announce backupNews s).2 :=
    .sent backupNews.command (.nil _)
  rw [archiveScheduled_run]
  rcases pauseSaves_enacts g (g.announce backupNews s).2 with
    ⟨f, ms, s₁, hr, hp⟩ | ⟨ms₁, ⟨f, ms₂, s₁, hr, hp⟩ | ⟨ms₂, s₁, hr, hp⟩⟩
  · obtain ⟨r₁, r₂, hq⟩ := resume_enacts g (.failure f.text) s₁
    exact ⟨_, _, _, by simp only [hr], .unpaused _ f ms r₁ r₂, (hnews.trans hp).trans hq⟩
  · obtain ⟨r₁, r₂, hq⟩ := resume_enacts g (.failure f.text) s₁
    exact ⟨_, _, _, by simp only [hr], .unflushed _ ms₁ f ms₂ r₁ r₂, (hnews.trans hp).trans hq⟩
  · have harch : g.Enacts s₁ [.archived .scheduled (Session.archive g.archiver .scheduled s₁).1 _]
        (Session.archive g.archiver .scheduled s₁).2 := .archived .scheduled (.nil _)
    obtain ⟨r₁, r₂, hq⟩ := resume_enacts g (Session.archive g.archiver .scheduled s₁).1
      (Session.archive g.archiver .scheduled s₁).2
    exact ⟨_, _, _, by simp only [hr], .archived _ ms₁ ms₂ _ _ r₁ r₂,
      ((hnews.trans hp).trans harch).trans hq⟩

end Guard

/-! ## The rules -/

/-- What a scheduled backup did, by what the console answers to each command. -/
structure ScheduledBackup (grace : Nat) (answer : ConsoleCommand → Except Failure Unit)
    (o : BackupOutcome) (as : List Act) : Prop where
  /-- The news, the commands that pause saving up to the first that fails, `save-on` and the
  outcome. -/
  lines : as.filterMap Act.line? = Guard.backupNews.command ::
    (uptoFailure answer pausing).map (fun q => q.1.text) ++
      [ConsoleCommand.saveOn.text, (Guard.verdict o).command]
  orders : as.filterMap Act.order? = uptoFailure answer pausing ++ [(.saveOn, answer .saveOn)]
  /-- The server goes on: it is not told to stop, and its process is not looked at. -/
  unstopped : ConsoleCommand.stop.text ∉ as.filterMap Act.line?
  unwatched : ∀ a ∈ as, a.isLook = false
  /-- The agent is called once if saving was paused, and never if not. -/
  archives : as.filterMap Act.archive? =
    if firstFault answer pausing = none then [(.scheduled, o)] else []
  fault : ∀ f, firstFault answer pausing = some f → o = .failure f.text
  /-- The agent begins when the server had the whole grace delay to flush the world, and is done
  before saving goes on. -/
  placed : firstFault answer pausing = none → ∃ front flushMs backupMs r₁ r₂,
    as = front ++ [.ordered .saveAll ⟨.ok (), flushMs⟩, .slept grace,
      .archived .scheduled o backupMs] ++ Guard.resuming o r₁ r₂
  calm : (Guard.verdict o).severity = .info ↔ o = .success
  urgent : ∀ reason, o = .failure reason → Broadcast.Urgent (Guard.verdict o).command reason

theorem Guard.severity_verdict (o : BackupOutcome) :
    (verdict o).severity = .info ↔ o = .success := by
  cases o <;> simp [verdict, Broadcast.info, Broadcast.critical]

theorem Guard.urgent_verdict {reason : String} (h : o = .failure reason) :
    Broadcast.Urgent (verdict o).command reason := h ▸ Broadcast.urgent_critical _ reason

/-- No line of a scheduled backup tells the server to stop. -/
theorem stop_notMem_lines {answer : ConsoleCommand → Except Failure Unit} (b b' : Broadcast) :
    ConsoleCommand.stop.text ∉ b.command ::
      (uptoFailure answer pausing).map (fun q => q.1.text) ++
        [ConsoleCommand.saveOn.text, b'.command] := by
  have hsaid (b : Broadcast) : ConsoleCommand.stop.text ≠ b.command := by
    intro he
    have hc := isCommand_text .stop
    rw [he, isCommand_command] at hc
    cases hc
  have hordered {c : ConsoleCommand} (hc : c ∈ pausing) : ConsoleCommand.stop.text ≠ c.text := by
    revert hc
    cases c <;> decide
  simp only [List.mem_append, List.mem_cons, List.mem_map, List.not_mem_nil, or_false]
  rintro ((he | ⟨q, hq, he⟩) | he | he)
  · exact hsaid b he
  · exact hordered (mem_of_mem_uptoFailure hq) he.symm
  · exact absurd he (by decide)
  · exact hsaid b' he

/-- The rules hold if they hold of what is done from the news to `save-on`. -/
theorem ScheduledBackup.of_pause {grace : Nat} {answer : ConsoleCommand → Except Failure Unit}
    {r₀ r₁ r₂ : Reply} {mid : List Act} (hon : r₁.answer = answer .saveOn)
    (horders : mid.filterMap Act.order? = uptoFailure answer pausing)
    (hlines : mid.filterMap Act.line? = (uptoFailure answer pausing).map fun q => q.1.text)
    (hlooks : ∀ a ∈ mid, a.isLook = false)
    (harchives : mid.filterMap Act.archive? =
      if firstFault answer pausing = none then [(.scheduled, o)] else [])
    (hfault : ∀ f, firstFault answer pausing = some f → o = .failure f.text)
    (hplaced : firstFault answer pausing = none → ∃ front flushMs backupMs,
      mid = front ++ [.ordered .saveAll ⟨.ok (), flushMs⟩, .slept grace,
        .archived .scheduled o backupMs]) :
    ScheduledBackup grace answer o
      (.said Guard.backupNews r₀ :: mid ++ Guard.resuming o r₁ r₂) := by
  have hl : (.said Guard.backupNews r₀ :: mid ++ Guard.resuming o r₁ r₂).filterMap Act.line? =
      Guard.backupNews.command :: (uptoFailure answer pausing).map (fun q => q.1.text) ++
        [ConsoleCommand.saveOn.text, (Guard.verdict o).command] := by
    rw [List.filterMap_append, ← hlines]
    rfl
  constructor
  case lines => exact hl
  case orders =>
    rw [List.filterMap_append, List.filterMap_cons_none (Act.order?_said ..), horders, ← hon]
    simp [Guard.resuming]
  case unstopped => exact hl ▸ stop_notMem_lines _ _
  case unwatched =>
    intro a ha
    simp only [List.mem_append, List.mem_cons, Guard.resuming, List.not_mem_nil, or_false] at ha
    rcases ha with (rfl | ha) | rfl | rfl
    · rfl
    · exact hlooks a ha
    · rfl
    · rfl
  case archives =>
    rw [List.filterMap_append, ← harchives]
    exact List.append_nil _
  case fault => exact hfault
  case placed =>
    intro hn
    obtain ⟨front, flushMs, backupMs, rfl⟩ := hplaced hn
    exact ⟨.said Guard.backupNews r₀ :: front, flushMs, backupMs, r₁, r₂, rfl⟩
  case calm => exact Guard.severity_verdict o
  case urgent => exact fun _ => Guard.urgent_verdict

namespace Guard

/-- What the console answers to the commands about saving. -/
def answering (saveOff saveAll saveOn : Except Failure Unit) :
    ConsoleCommand → Except Failure Unit
  | .saveOff => saveOff
  | .saveAll => saveAll
  | .saveOn => saveOn
  | .stop => .ok ()

/-- Each way keeps the rules, with the answers that it gives to the commands. -/
theorem Scheduled.rules (h : Scheduled g o as) :
    ∃ answer, ScheduledBackup g.timings.graceDelay answer o as := by
  cases h with
  | unpaused r₀ f ms r₁ r₂ =>
    refine ⟨answering (.error f) (.ok ()) r₁.answer, .of_pause rfl ?_ rfl ?_ rfl ?_ ?_⟩
    · simp [uptoFailure, pausing, answering]
    · simp [Act.ordered, Act.isLook]
    · rintro f' ⟨⟩
      rfl
    · rintro ⟨⟩
  | unflushed r₀ ms₁ f ms₂ r₁ r₂ =>
    refine ⟨answering (.ok ()) (.error f) r₁.answer, .of_pause rfl ?_ rfl ?_ rfl ?_ ?_⟩
    · simp [uptoFailure, pausing, answering]
    · simp [Act.ordered, Act.isLook]
    · rintro f' ⟨⟩
      rfl
    · rintro ⟨⟩
  | archived r₀ ms₁ ms₂ o backupMs r₁ r₂ =>
    refine ⟨answering (.ok ()) (.ok ()) r₁.answer, .of_pause rfl ?_ rfl ?_ rfl ?_ ?_⟩
    · simp [uptoFailure, pausing, answering]
    · simp [Act.ordered, Act.isLook]
    · rintro f' ⟨⟩
    · exact fun _ => ⟨[.ordered .saveOff ⟨.ok (), ms₁⟩], ms₂, backupMs, rfl⟩

/-- A scheduled backup pauses saving while the world is archived, and saving goes on after it
whatever fails. -/
theorem archiveScheduled_pauses (g : Guard σ) (s : Session σ) :
    ∃ o as s₁ answer, g.archiveScheduled s = (o, s₁) ∧ g.Enacts s as s₁ ∧ s.Plays as s₁ ∧
      ScheduledBackup g.timings.graceDelay answer o as := by
  obtain ⟨o, as, s₁, hr, hs, he⟩ := archiveScheduled_enacts g s
  obtain ⟨answer, h⟩ := hs.rules
  exact ⟨o, as, s₁, answer, hr, he, he.plays, h⟩

end Guard

end DrainGuard
