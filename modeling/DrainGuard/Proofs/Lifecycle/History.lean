import DrainGuard.Proofs.Lifecycle.Log

/-!
# The history of a shutdown

The phases of a run and its fault depend on three things only: what the look-up answered, the first
command that failed, and whether the look after it found the process gone.

- **Rules** (`historyOf`, `faultOf`): the history and the fault for these three. No answer to a
  message and no outcome of a backup is among them.
- **Runs** (`Classified`): the report of a run follows the rules, and no move of it was refused.
- **All runs that end** (`drain_classified`).
-/

namespace DrainGuard

namespace Event

/-- Some look found a process gone. -/
def foundGone (es : List Event) : Bool := (checks es).any fun (_, _, alive) => !alive

/-- The first command that drains the server and fails, and whether a look after it found the
process gone. -/
def drainFault? (es : List Event) : Option (ConsoleCommand × Bool) :=
  (fault? es).map fun (c, _, after) => (c, foundGone after)

/-- An event that is neither a message to the players nor a backup. -/
def isDecisive : Event → Bool
  | .sent _ line _ => !Broadcast.isCommand line
  | .archived .. => false
  | _ => true

theorem isDecisive_of_failure? {e : Event} {c : ConsoleCommand} {f : Failure}
    (h : e.failure? = some (c, f)) : e.isDecisive := by
  obtain ⟨t, he⟩ := (mem_orders _).mp (mem_orders_of_failure? [] h).2
  rw [← List.mem_singleton.mp he, isDecisive, isCommand_text]
  rfl

theorem checks_filter (es : List Event) : checks (es.filter isDecisive) = checks es := by
  induction es with
  | nil => rfl
  | cons e es ih =>
    rw [List.filter_cons, checks_cons]
    split
    · rw [checks_cons, ih]
    · next hd =>
      rw [ih]
      cases e with
      | checked => exact absurd rfl hd
      | _ => rfl

/-- Messages to the players and backups have no part in the fault of a log. -/
theorem drainFault?_filter (es : List Event) :
    drainFault? (es.filter isDecisive) = drainFault? es := by
  induction es with
  | nil => rfl
  | cons e es ih =>
    unfold drainFault? at ih ⊢
    rw [List.filter_cons]
    cases hf : e.failure? with
    | some cf => simp [isDecisive_of_failure? hf, fault?, hf, foundGone, checks_filter]
    | none =>
      rw [fault?, hf]
      split
      · rw [fault?, hf]
        exact ih
      · exact ih

end Event

/-- The phases of a run, by what the look-up answered and by the command that failed, if any, with
what the look after it found. -/
def historyOf (located : Except Failure (Option Nat)) (fault : Option (ConsoleCommand × Bool)) :
    List Phase :=
  match located, fault with
  | .error _, _ => [.running, .failed]
  | .ok none, _ => [.running, .backingUp, .failed]
  | .ok (some _), none =>
    [.running, .warningIssued, .savingState, .stoppingProcess, .awaitingExit, .backingUp,
      .completed]
  | .ok (some _), some (c, gone) =>
    [.running, .warningIssued, .savingState] ++ (if c = .stop then [.stoppingProcess] else []) ++
      (if gone then [.backingUp] else []) ++ [.failed]

/-- The fault of a run, by what the look-up answered and by the cause of the command that failed. -/
def faultOf (target : String) (located : Except Failure (Option Nat)) (cause : Option Failure) :
    Option String :=
  match located with
  | .error f => some f.text
  | .ok none => some (Failure.channelUnavailable target "no server session").text
  | .ok (some _) => cause.map Failure.text

/-- What the log of a run and its report say about the phases. -/
structure Classified (target : String) (located : Except Failure (Option Nat)) (r : Report)
    (es : List Event) : Prop where
  /-- Messages to the players and backups are left out of the log: they have no part in it. -/
  history : r.history = historyOf located (Event.drainFault? (es.filter Event.isDecisive))
  fault : r.fault = faultOf target located ((Event.fault? es).map fun (_, f, _) => f)
  /-- There is one look after a fault, and it is at the located process. -/
  looked : ∀ c f after, Event.fault? es = some (c, f, after) →
    ∃ pid t alive, located = .ok (some pid) ∧ Event.checks after = [(t, pid, alive)]
  final : r.history.getLast? = some r.finalPhase
  /-- The rules allowed every move that the run asked for. -/
  allowed : Event.refusals es = []

namespace Classified

variable {before after es : List Event} {c : ConsoleCommand} {f : Failure} {pid t t₁ : Nat}
  {r : Report} {target : String} {alive : Bool} {located : Except Failure (Option Nat)}

/-- A run without a fault of a command. -/
theorem of_no_fault (h : Event.fault? es = none) (hr : r.history = historyOf located none)
    (hf : r.fault = faultOf target located none) (hl : r.history.getLast? = some r.finalPhase)
    (ha : Event.refusals es = []) : Classified target located r es where
  history := by rw [Event.drainFault?_filter, Event.drainFault?, h, hr]; rfl
  fault := by rw [h, hf]; rfl
  looked c f after hc := by
    rw [h] at hc
    cases hc
  final := hl
  allowed := ha

theorem of_fault (h : Event.Opens pid c before) (hx : Event.checks after = [(t₁, pid, alive)])
    (hr : r.history = historyOf (.ok (some pid)) (some (c, !alive))) (hf : r.fault = some f.text)
    (hl : r.history.getLast? = some r.finalPhase)
    (ha : Event.refusals (before ++ .sent t c.text (.error f) :: after) = []) :
    Classified target (.ok (some pid)) r (before ++ .sent t c.text (.error f) :: after) where
  history := by
    have hg : Event.foundGone after = !alive := by rw [Event.foundGone, hx]; exact Bool.or_false _
    rw [Event.drainFault?_filter, Event.drainFault?, h.fault?_error, hr, ← hg]
    rfl
  fault := by rw [h.fault?_error, hf]; rfl
  looked c' f' after' hc := by
    rw [h.fault?_error] at hc
    cases hc
    exact ⟨pid, t₁, alive, rfl, hx⟩
  final := hl
  allowed := ha

end Classified

theorem Progress.failed_final (p : Progress) (f : Failure) (o : Option BackupOutcome) :
    (p.failed f o).report.history.getLast? = some (p.failed f o).report.finalPhase := by
  show (p.failed f o).history.getLast? = some (p.failed f o).phase
  rw [Progress.failed_history, List.getLast?_concat]
  cases o <;> rfl

namespace Guard

variable {σ : Type} {g : Guard σ} {trigger : Trigger} {pid : Nat} {c : ConsoleCommand}
  {p : Progress} {as : List Act} {located : Except Failure (Option Nat)}

theorem Before.failed_history_eq (h : Before g trigger pid c p as) (f : Failure)
    (o : Option BackupOutcome) :
    (p.failed f o).report.history = historyOf (.ok (some pid)) (some (c, o.isSome)) := by
  show (p.failed f o).history = _
  rw [Progress.failed_history, h.history_eq]
  rfl

theorem Course.classified (h : Course g trigger located p as) (r₁ r₂ : Reply) (t : Nat) :
    Classified g.channel.target located p.report (Act.events t (as ++ closing p r₁ r₂)) := by
  have hcl (t : Nat) : Event.Closes r₁.answer (Act.events t (closing p r₁ r₂)) :=
    closes_closing p r₁ r₂ t
  have hall := Event.refusals_events t (as ++ closing p r₁ r₂)
  cases h with
  | lookupFailed f | absent o ms =>
    refine .of_no_fault (Event.fault?_eq_none fun o ho hd => ?_) rfl rfl rfl hall
    exact absurd hd ((hcl _).not_mem_drainage o ho)
  | @alive pid c p as h f ms =>
    rw [List.append_assoc, Act.events_append] at hall ⊢
    exact .of_fault (h.opens t) (Event.checks_checked _ pid true (hcl _).checks)
      (h.failed_history_eq f none) rfl (Progress.failed_final ..) hall
  | @salvaged pid c p as h f ms o bms =>
    rw [List.append_assoc, Act.events_append] at hall ⊢
    exact .of_fault (h.opens t)
      (Event.checks_checked _ pid false ((Event.checks_archived ..).trans (hcl _).checks))
      (h.failed_history_eq f (some o)) rfl (Progress.failed_final ..) hall
  | @clean pid p as h ms looks o bms =>
    have hh : ((p.enter .awaitingExit).completed o).history = historyOf (.ok (some pid)) none := by
      rw [Progress.completed_history, Progress.enter, h.history_eq]
      rfl
    rw [List.append_assoc, List.append_assoc, events_stopped] at hall ⊢
    refine .of_no_fault ((h.opens t).fault?_stop ?_) hh h.draining.fault ?_ hall
    · rw [Event.orders_append, (watches_watched ..).orders]
      exact (hcl _).not_mem_drainage
    · show ((p.enter .awaitingExit).completed o).history.getLast? = some .completed
      rw [hh]
      rfl

/-- The history and the fault of a run that has ended are those of the rules, and none of its moves
was refused. -/
theorem drain_classified {g : Guard σ} {trigger : Trigger} {patience : Nat} {s s₁ : Session σ}
    {r : Report} (h : g.drain trigger patience s = some (r, s₁)) :
    ∃ es, s₁.events = s.events ++ es ∧
      Classified g.channel.target (g.channel.locate s.world).1 r es := by
  obtain ⟨p, as, r₁, r₂, hc, rfl, hp⟩ := drain_course h
  exact ⟨_, hp.events, hc.classified r₁ r₂ s.clock⟩

/-- A server that goes down while its world is saved: `save-all`, the fifth line, does not reach
it. -/
def wrecked : Guard Script × Session Script :=
  (⟨Script.channel "script", ⟨fun _ w => ((.success, 0), w)⟩, {}⟩,
    ⟨{ process := .ok (some 7), failing := [(5, .channelUnavailable "script" "gone")] }, 0, []⟩)

theorem drain_classified_wrecked : ∃ r s₁, wrecked.1.drain .operator 1 wrecked.2 = some (r, s₁) ∧
    r.history = [.running, .warningIssued, .savingState, .backingUp, .failed] ∧
      ∃ es, s₁.events = wrecked.2.events ++ es ∧ Classified "script" (.ok (some 7)) r es := by
  obtain ⟨r, s₁, h, hr⟩ : ∃ r s₁, wrecked.1.drain .operator 1 wrecked.2 = some (r, s₁) ∧
      r.history = [.running, .warningIssued, .savingState, .backingUp, .failed] := ⟨_, _, rfl, rfl⟩
  exact ⟨r, s₁, h, hr, drain_classified h⟩

end Guard

end DrainGuard
