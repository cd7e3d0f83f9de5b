import DrainGuard.Console.Mock
import DrainGuard.Proofs.Console.Urgent
import DrainGuard.Proofs.Lifecycle.Log

/-!
# What is reported, announced and returned

The exit code, the fault in the report, the outcome of the backup and the last message to the
players are computed in different places from the progress of a run. They tell the same story.

- **Endings** (`Progress.Settled`): a run has failed with a fault, or it is complete with an
  outcome. Every course comes to one of these (`Course.settled`).
- **Lines before the last** (`Routine`): warnings and commands, so no line but the last one tells of
  a failure.
- **Accounts** (`Accounted`): what the exit code, the report and the last line say of each other.
- **All runs that end** (`drain_accounted`).
-/

namespace DrainGuard

/-! ## Lines and outcomes -/

namespace Event

/-- All lines that were sent. -/
def lines (es : List Event) : List String := (sends es).map Prod.snd

/-- What every backup came to. -/
def outcomes (es : List Event) : List BackupOutcome :=
  es.filterMap fun
    | .archived _ _ _ o => some o
    | _ => none

end Event

namespace Act

/-- The line that was sent. -/
def line? : Act → Option String
  | sent line _ _ => some line
  | _ => none

/-- What the backup came to. -/
def outcome? : Act → Option BackupOutcome
  | archived _ o _ => some o
  | _ => none

theorem lines_events (t : Nat) (as : List Act) :
    Event.lines (events t as) = as.filterMap line? := by
  induction as generalizing t with
  | nil => rfl
  | cons a as ih =>
    cases a with
    | sent line answer ms => exact congrArg (line :: ·) (ih _)
    | _ => exact ih _

theorem outcomes_events (t : Nat) (as : List Act) :
    Event.outcomes (events t as) = as.filterMap outcome? := by
  induction as generalizing t with
  | nil => rfl
  | cons a as ih =>
    cases a with
    | archived mode o ms => exact congrArg (o :: ·) (ih _)
    | _ => exact ih _

theorem outcome?_watched (pid pause looks : Nat) :
    (watched pid pause looks).filterMap outcome? = [] := by
  induction looks with
  | zero => rfl
  | succ k ih => exact ih

theorem line?_watched (pid pause looks : Nat) : (watched pid pause looks).filterMap line? = [] := by
  induction looks with
  | zero => rfl
  | succ k ih => exact ih

end Act

/-! ## Lines before the last -/

/-- A line that says nothing of how a run ends. -/
inductive Routine : String → Prop where
  | warning (text : String) : Routine (Broadcast.warning text).command
  | command (c : ConsoleCommand) : Routine c.text

theorem Routine.ne_critical {line : String} (h : Routine line) (text : String) :
    line ≠ (Broadcast.critical text).command := by
  intro he
  cases h with
  | warning text' => cases Broadcast.eq_of_command_eq he
  | command c =>
    have hc := isCommand_command (Broadcast.critical text)
    rw [← he, isCommand_text] at hc
    cases hc

/-- All lines of some acts are routine. -/
def Act.Calm (as : List Act) : Prop := ∀ line ∈ as.filterMap line?, Routine line

namespace Act.Calm

variable {a : Act} {as bs : List Act}

theorem nil : Calm [] := fun _ hl => nomatch hl

theorem append (ha : Calm as) (hb : Calm bs) : Calm (as ++ bs) := by
  intro line hl
  rw [List.filterMap_append, List.mem_append] at hl
  exact hl.elim (ha line) (hb line)

theorem said (text : String) (r : Reply) (h : Calm as) : Calm (.said (.warning text) r :: as) := by
  intro line hl
  rcases List.mem_cons.mp hl with rfl | hl
  · exact .warning text
  · exact h line hl

theorem ordered (c : ConsoleCommand) (r : Reply) (h : Calm as) : Calm (.ordered c r :: as) := by
  intro line hl
  rcases List.mem_cons.mp hl with rfl | hl
  · exact .command c
  · exact h line hl

/-- An act that sends nothing. -/
theorem quiet (ha : a.line? = none) (h : Calm as) : Calm (a :: as) := by
  intro line hl
  rw [List.filterMap_cons_none ha] at hl
  exact h line hl

end Act.Calm

/-! ## Endings -/

/-- How a run ended, with the outcomes of its backups. -/
inductive Progress.Settled (p : Progress) (os : List BackupOutcome) : Prop where
  | failed (f : Failure) (phase : p.phase = .failed) (fault : p.fault = some f.text)
      (backup : os = p.backup.toList)
  | completed (o : BackupOutcome) (phase : p.phase = .completed) (fault : p.fault = none)
      (backup : p.backup = some o) (outcomes : os = [o])

namespace Guard

variable {σ : Type} {g : Guard σ} {trigger : Trigger} {pid : Nat} {c : ConsoleCommand}
  {p : Progress} {as : List Act} {located : Except Failure (Option Nat)}

theorem Before.calm (h : Before g trigger pid c p as) : Act.Calm as := by
  induction h with
  | saveOff r₁ r₂ r₃ =>
    exact .quiet rfl (.said _ r₁ (.said _ r₂ (.quiet rfl (.said _ r₃ .nil))))
  | saveAll h ms ih => exact ih.append (.ordered .saveOff _ (.quiet rfl .nil))
  | stop h ms r ih => exact ih.append (.ordered .saveAll _ (.quiet rfl (.said _ r .nil)))

theorem Before.no_outcome (h : Before g trigger pid c p as) : as.filterMap Act.outcome? = [] := by
  induction h with
  | saveOff r₁ r₂ r₃ => rfl
  | saveAll h ms ih | stop h ms r ih =>
    rw [List.filterMap_append, ih]
    rfl

theorem Course.calm (h : Course g trigger located p as) : Act.Calm as := by
  cases h with
  | lookupFailed f => exact .quiet rfl .nil
  | absent o ms => exact .quiet rfl (.quiet rfl .nil)
  | alive h f ms => exact h.calm.append (.ordered _ _ (.quiet rfl .nil))
  | salvaged h f ms o bms => exact h.calm.append (.ordered _ _ (.quiet rfl (.quiet rfl .nil)))
  | @clean pid p as h ms looks o bms =>
    have hw : Act.Calm (Act.watched pid g.timings.exitPollIntervalMillis looks) := by
      intro line hl
      rw [Act.line?_watched] at hl
      cases hl
    exact (h.calm.append (.ordered .stop _ hw)).append (.quiet rfl (.quiet rfl .nil))

theorem Course.settled (h : Course g trigger located p as) :
    p.Settled (as.filterMap Act.outcome?) := by
  cases h with
  | lookupFailed f => exact .failed f rfl rfl rfl
  | absent o ms => exact .failed g.absence rfl rfl rfl
  | @alive pid c p as h f ms =>
    refine .failed f rfl rfl ?_
    rw [List.filterMap_append, h.no_outcome]
    show [] = p.backup.toList
    rw [h.draining.backup]
    rfl
  | salvaged h f ms o bms =>
    refine .failed f rfl rfl ?_
    rw [List.filterMap_append, h.no_outcome]
    rfl
  | @clean pid p as h ms looks o bms =>
    refine .completed o rfl h.draining.fault rfl ?_
    have hw := Act.outcome?_watched pid g.timings.exitPollIntervalMillis looks
    rw [List.filterMap_append, List.filterMap_append, h.no_outcome]
    show [] ++ (Act.watched _ _ looks).filterMap Act.outcome? ++ [o] = [o]
    rw [hw]
    rfl

end Guard

/-! ## Accounts -/

/-- What would be said of a run that is not complete and has no fault. -/
def unknownFault : Broadcast := .critical "Shutdown did not complete cleanly: unknown fault"

/-- The exit code and the report of a run, and the last line and the backups in its log, tell the
same story. -/
structure Accounted (r : Report) (es : List Event) : Prop where
  code : r.exitCode = 0 ∨ r.exitCode = 1 ∨ r.exitCode = 2
  /-- The report has the outcome of the one backup that was made, if one was made. -/
  backup : r.backup.toList = Event.outcomes es
  zero_iff : r.exitCode = 0 ↔ r.finalPhase = .completed ∧ Event.outcomes es = [.success]
  zero_news : r.exitCode = 0 → (Event.lines es).getLast? =
    some (Broadcast.info "Server stopped and the world is backed up").command
  one_iff : r.exitCode = 1 ↔
    r.finalPhase = .completed ∧ ∃ reason, Event.outcomes es = [.failure reason]
  one_news : ∀ reason, r.exitCode = 1 → Event.outcomes es = [.failure reason] →
    ∃ line, (Event.lines es).getLast? = some line ∧ Broadcast.Urgent line reason
  two_iff : r.exitCode = 2 ↔ r.finalPhase = .failed
  failed_iff : r.finalPhase = .failed ↔ ∃ f, r.fault = some f
  two_news : ∀ f, r.fault = some f →
    ∃ line, (Event.lines es).getLast? = some line ∧ Broadcast.Urgent line f
  completed : r.finalPhase = .completed → r.backup ≠ none
  /-- A fault is always known. -/
  known : unknownFault.command ∉ Event.lines es

theorem not_prefix_append {a s : String} (h : ¬a.toList <+: s.toList) (b : String) :
    ¬(a ++ b).toList <+: s.toList := by
  rw [String.toList_append]
  exact fun hp => h ((List.prefix_append _ _).trans hp)

/-- Every cause is worded in its own way. -/
theorem Failure.text_ne_unknown (f : Failure) : f.text ≠ "unknown fault" := by
  have hp : ¬f.text.toList <+: "unknown fault".toList := by
    cases f with
    | channelUnavailable | invalidMove | alreadyRunning =>
      exact not_prefix_append (not_prefix_append (not_prefix_append (by simp) _) _) _
    | _ => exact not_prefix_append (by simp) _
  intro he
  exact hp (he ▸ List.prefix_refl _)

namespace Progress.Settled

variable {p : Progress} {os : List BackupOutcome}

/-- The last message is never that an unknown fault occurred. -/
theorem outcome_ne_unknown (h : p.Settled os) : Guard.outcome p ≠ unknownFault := by
  intro he
  have ht := congrArg Broadcast.text he
  cases h with
  | failed f phase fault backup =>
    simp only [Guard.outcome, phase, fault, Option.getD_some, Broadcast.critical] at ht
    have hs : "Shutdown did not complete cleanly: " ++ f.text =
        "Shutdown did not complete cleanly: " ++ "unknown fault" := ht
    exact f.text_ne_unknown ((String.append_right_inj _).mp hs)
  | completed o phase fault backup outcomes =>
    cases o with
    | success =>
      have hs := congrArg Broadcast.severity he
      simp only [Guard.outcome, phase, backup] at hs
      cases hs
    | failure reason =>
      simp only [Guard.outcome, phase, backup, Broadcast.critical] at ht
      have hp : ¬("Server stopped but the backup failed: " ++ reason).toList <+:
          unknownFault.text.toList :=
        not_prefix_append (by simp [unknownFault, Broadcast.critical]) _
      exact hp (ht ▸ List.prefix_refl _)

end Progress.Settled

namespace Accounted

variable {p : Progress} {es : List Event}

theorem of_failed {f : Failure} (phase : p.phase = .failed) (fault : p.fault = some f.text)
    (backup : p.backup.toList = Event.outcomes es)
    (last : (Event.lines es).getLast? = some (Guard.outcome p).command)
    (known : unknownFault.command ∉ Event.lines es) : Accounted p.report es := by
  have hphase : p.report.finalPhase = .failed := phase
  have hcode : p.report.exitCode = 2 := by rw [Report.exitCode, hphase]; rfl
  have hurgent : Broadcast.Urgent (Guard.outcome p).command f.text := by
    simp only [Guard.outcome, phase, fault]
    exact Broadcast.urgent_critical _ _
  constructor
  case code => exact .inr (.inr hcode)
  case backup => exact backup
  case zero_iff => simp [hcode, hphase]
  case zero_news => simp [hcode]
  case one_iff => simp [hcode, hphase]
  case one_news => simp [hcode]
  case two_iff => simp [hcode, hphase]
  case failed_iff => exact ⟨fun _ => ⟨f.text, fault⟩, fun _ => hphase⟩
  case two_news =>
    intro f' hf'
    obtain rfl : f.text = f' := Option.some.inj (fault.symm.trans hf')
    exact ⟨_, last, hurgent⟩
  case completed =>
    intro hc
    rw [hphase] at hc
    cases hc
  case known => exact known

theorem of_completed {o : BackupOutcome} (phase : p.phase = .completed) (fault : p.fault = none)
    (backup : p.backup = some o) (outcomes : Event.outcomes es = [o])
    (last : (Event.lines es).getLast? = some (Guard.outcome p).command)
    (known : unknownFault.command ∉ Event.lines es) : Accounted p.report es := by
  have hphase : p.report.finalPhase = .completed := phase
  have hfault : p.report.fault = none := fault
  have hbackup : p.report.backup = some o := backup
  have hcode : p.report.exitCode = if o = .success then 0 else 1 := by
    rw [Report.exitCode, hphase, if_pos rfl, Report.backupSucceeded, hbackup]
    cases o <;> rfl
  constructor
  case code => cases o <;> simp [hcode]
  case backup => rw [hbackup, outcomes]; rfl
  case zero_iff => cases o <;> simp [hcode, hphase, outcomes]
  case zero_news =>
    cases o with
    | success => simpa only [Guard.outcome, phase, backup] using fun _ => last
    | failure reason => simp [hcode]
  case one_iff => cases o <;> simp [hcode, hphase, outcomes]
  case one_news =>
    intro reason _ ho
    obtain rfl : o = .failure reason := List.singleton_inj.mp (outcomes.symm.trans ho)
    refine ⟨_, last, ?_⟩
    simp only [Guard.outcome, phase, backup]
    exact Broadcast.urgent_critical _ _
  case two_iff => cases o <;> simp [hcode, hphase]
  case failed_iff => simp [hphase, hfault]
  case two_news => simp [hfault]
  case completed => simp [hbackup]
  case known => exact known

end Accounted

namespace Guard

variable {σ : Type} {g : Guard σ} {trigger : Trigger} {p : Progress} {as : List Act}
  {located : Except Failure (Option Nat)}

theorem Course.accounted (h : Course g trigger located p as) (r₁ r₂ : Reply) (t : Nat) :
    Accounted p.report (Act.events t (as ++ closing p r₁ r₂)) := by
  have hlines : Event.lines (Act.events t (as ++ closing p r₁ r₂)) =
      as.filterMap Act.line? ++ [ConsoleCommand.saveOn.text] ++ [(outcome p).command] := by
    rw [Act.lines_events, List.filterMap_append, List.append_assoc]
    rfl
  have houtcomes : Event.outcomes (Act.events t (as ++ closing p r₁ r₂)) =
      as.filterMap Act.outcome? := by
    rw [Act.outcomes_events, List.filterMap_append]
    exact List.append_nil _
  have hlast : (Event.lines (Act.events t (as ++ closing p r₁ r₂))).getLast? =
      some (outcome p).command := by rw [hlines, List.getLast?_concat]
  have hsettled := h.settled
  have hknown : unknownFault.command ∉ Event.lines (Act.events t (as ++ closing p r₁ r₂)) := by
    -- a warning or a command is never an urgent message, and the last message names its fault
    have hcalm : Act.Calm (as ++ [.ordered .saveOn r₁]) := h.calm.append (.ordered .saveOn r₁ .nil)
    intro hm
    rw [hlines] at hm
    rcases List.mem_append.mp hm with hm | hm
    · exact (hcalm _ (by rwa [List.filterMap_append])).ne_critical _ rfl
    · have hlast := (List.mem_singleton.mp hm).symm
      exact hsettled.outcome_ne_unknown (Broadcast.eq_of_command_eq hlast)
  rw [← houtcomes] at hsettled
  cases hsettled with
  | failed f phase fault backup => exact .of_failed phase fault backup.symm hlast hknown
  | completed o phase fault backup outcomes =>
    exact .of_completed phase fault backup outcomes hlast hknown

/-- The exit code, the report and the log of a run that has ended tell the same story. -/
theorem drain_accounted {patience : Nat} {s s₁ : Session σ} {r : Report}
    (h : g.drain trigger patience s = some (r, s₁)) :
    ∃ es, s₁.events = s.events ++ es ∧ Accounted r es := by
  obtain ⟨p, as, r₁, r₂, hc, rfl, hp⟩ := drain_course h
  exact ⟨_, hp.events, hc.accounted r₁ r₂ s.clock⟩

/-- A server that goes down when it is told to, and a backup for which there is no space. -/
theorem drain_accounted_full :
    let g : Guard Mock := ⟨Mock.channel, ⟨fun _ m => ((.failure "no space left", 0), m)⟩, {}⟩
    ∃ r s₁, g.drain .operator 3 { world := { aliveFor := 2 } } = some (r, s₁) ∧ r.exitCode = 1 ∧
      ∃ es, s₁.events = [] ++ es ∧ Accounted r es := by
  intro g
  have hend : (g.drain .operator 3 { world := { aliveFor := 2 } }).map (·.1.exitCode) = some 1 := by
    decide +kernel
  obtain ⟨⟨r, s₁⟩, h, hr⟩ := Option.map_eq_some_iff.mp hend
  exact ⟨r, s₁, h, hr, drain_accounted h⟩

end Guard

end DrainGuard
