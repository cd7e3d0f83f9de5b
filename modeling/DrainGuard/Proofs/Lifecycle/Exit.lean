import DrainGuard.Proofs.Lifecycle.Backup
import DrainGuard.Proofs.Lifecycle.Timetable

/-!
# Waiting for the exit

The wait has no limit and no way out but the exit itself: the answers of the process alone tell how
often it is looked at.

- **Waits** (`Event.looks`, `Event.wait`): the log of a wait, look by look. They are one pause apart,
  and nothing else stands between them.
- **After the wait** (`Guard.afterWait`): what is left to do. It begins with the progress with which
  the wait began.
- **One run** (`Guard.Looked`): at whom it looks, and how often. A run that was told to stop the
  server keeps to `Guard.Waits`.
- **All runs** (`drainWithin_looked`): whatever the console, the agent and the process answer. A run
  ends exactly if it does not wait or some answer is false.
-/

namespace DrainGuard

/-! ## The log of a wait -/

namespace Event

/-- Looks that find a process alive, one pause apart. -/
def looks (pid pause t k : Nat) : List Event :=
  (List.range k).map fun i => .checked (t + i * pause) pid true

/-- Looks that find a process alive, and a last one that finds it gone. -/
def wait (pid pause t k : Nat) : List Event :=
  looks pid pause t k ++ [.checked (t + k * pause) pid false]

variable (pid pause t k : Nat)

theorem checks_looks : checks (looks pid pause t k) =
    (List.range k).map fun i => (t + i * pause, pid, true) := by
  rw [checks, looks, List.filterMap_map]
  exact congrFun List.filterMap_eq_map _

theorem orders_looks : orders (looks pid pause t k) = [] := by
  rw [orders, looks, List.filterMap_map]
  exact List.filterMap_eq_nil_iff.mpr fun _ _ => rfl

theorem orders_wait : orders (wait pid pause t k) = [] := by
  rw [wait, orders_append, orders_looks]
  rfl

theorem length_checks_wait : (checks (wait pid pause t k)).length = k + 1 := by
  simp [wait, checks_looks]

theorem mem_checks_wait {x : Nat × Nat × Bool} (h : x ∈ checks (wait pid pause t k)) :
    x.2.1 = pid := by
  rw [wait, checks_append, checks_looks, List.mem_append, List.mem_map] at h
  rcases h with ⟨i, -, rfl⟩ | h
  · rfl
  · cases List.mem_singleton.mp h
    rfl

end Event

theorem Act.events_watched (pid pause t k : Nat) :
    events t (watched pid pause k) = Event.looks pid pause t k := by
  induction k generalizing t with
  | zero => rfl
  | succ k ih =>
    have hshift : ∀ i, t + pause + i * pause = t + (i + 1) * pause := fun i => by
      rw [Nat.succ_mul]
      omega
    rw [watched, events_checked, events_slept, ih, Event.looks, Event.looks,
      List.range_succ_eq_map, List.map_cons, List.map_map, Nat.zero_mul, Nat.add_zero]
    simp [Function.comp_def, hshift]

namespace Guard

variable {σ : Type} {g : Guard σ} {trigger : Trigger} {pid : Nat} {c : ConsoleCommand}
  {p : Progress} {as : List Act} {s s₀ s₁ s₂ : Session σ}
  {located : Except Failure (Option Nat)}

theorem Enacts.waits {k : Nat}
    (h : g.Enacts s (Act.watched pid g.timings.exitPollIntervalMillis k ++ [.checked pid false])
      s₁) :
    s₁.clock = s.clock + k * g.timings.exitPollIntervalMillis ∧
      s₁.events = s.events ++ Event.wait pid g.timings.exitPollIntervalMillis s.clock k := by
  refine ⟨?_, ?_⟩
  · rw [h.plays.clock, Act.total_append, Act.total_watched]
    rfl
  · rw [h.plays.events, Act.events_append, Act.events_watched, Act.total_watched]
    rfl

/-! ## One run -/

/-- What a run does after its wait. -/
def afterWait (g : Guard σ) (p : Progress) (s : Session σ) : Option Report × Session σ :=
  let (_, p, s) := g.settle g.afterExit p s
  let (r, s) := g.conclude p s
  (some r, s)

/-- How a run goes on that begins to wait with a progress and a session, and what it adds to the
log. -/
structure Waits (g : Guard σ) (pid patience : Nat) (p : Progress) (s₀ : Session σ)
    (report : Option Report) (s₁ : Session σ) (es : List Event) : Prop where
  phase : p.phase = .awaitingExit
  events : s₁.events = s₀.events ++ es
  /-- The first false answer ends the wait. The run goes on with the progress with which the wait
  began, and looks at no process again. -/
  gone : ∀ k < patience, Lasts (g.answers pid s₀.world) k → ∃ s₂ rest,
    s₂.clock = s₀.clock + k * g.timings.exitPollIntervalMillis ∧
      s₂.events = s₀.events ++ Event.wait pid g.timings.exitPollIntervalMillis s₀.clock k ∧
      g.afterWait p s₂ = (report, s₁) ∧
      es = Event.wait pid g.timings.exitPollIntervalMillis s₀.clock k ++ rest ∧
      Event.checks rest = []
  /-- Without a false answer the run does nothing else. -/
  alive : (∀ i < patience, g.answers pid s₀.world i = true) → report = none ∧
    es = Event.looks pid g.timings.exitPollIntervalMillis s₀.clock patience

/-- At whom a run looks, and how often, by what it adds to the log. -/
structure Looked (g : Guard σ) (trigger : Trigger) (patience : Nat) (s : Session σ)
    (report : Option Report) (s₁ : Session σ) (es : List Event) : Prop where
  /-- Only the process that was located is looked at. -/
  only : ∀ x ∈ Event.checks es, (g.channel.locate s.world).1 = .ok (some x.2.1)
  absent : (∀ pid, (g.channel.locate s.world).1 ≠ .ok (some pid)) → Event.checks es = []
  /-- If a command that drains the server fails, there is one look. -/
  fault : ∀ c f after, Event.fault? es = some (c, f, after) → (Event.checks es).length = 1
  /-- Without a delivered `stop` there is nothing to wait for. -/
  ended : (.stop, .ok ()) ∉ Event.orders es → report ≠ none
  /-- A delivered `stop` is where the wait begins, and all looks are those of the wait. -/
  stopped : (.stop, .ok ()) ∈ Event.orders es → ∃ pid p s₀ before t after,
    (g.channel.locate s.world).1 = .ok (some pid) ∧
      g.settle (g.untilStopped trigger) {} s = (some pid, p, s₀) ∧
      s₀.events = s.events ++ (before ++ [.sent t ConsoleCommand.stop.text (.ok ())]) ∧
      es = before ++ [.sent t ConsoleCommand.stop.text (.ok ())] ++ after ∧
      Event.checks before = [] ∧ g.Waits pid patience p s₀ report s₁ after ∧
      ∀ k < patience, Lasts (g.answers pid s₀.world) k → (Event.checks es).length = k + 1

theorem Waits.mem_checks {patience : Nat} {report : Option Report} {es : List Event}
    (h : g.Waits pid patience p s₀ report s₁ es) : ∀ x ∈ Event.checks es, x.2.1 = pid := by
  intro x hx
  rcases Lasts.exists_or_forall (g.answers pid s₀.world) patience with ⟨k, hk, hl⟩ | ha
  · obtain ⟨s₂, rest, -, -, -, rfl, hrest⟩ := h.gone k hk hl
    rw [Event.checks_append, hrest, List.append_nil] at hx
    exact Event.mem_checks_wait _ _ _ _ hx
  · rw [(h.alive ha).2, Event.checks_looks] at hx
    obtain ⟨i, -, rfl⟩ := List.mem_map.mp hx
    rfl

/-- After the wait no process is looked at, and no command that drains a server is sent. -/
theorem afterWait_rest (g : Guard σ) (hp : p.phase = .awaitingExit) (hb : p.backup = none)
    (s : Session σ) : ∃ r s₁ rest, g.afterWait p s = (some r, s₁) ∧
      s₁.events = s.events ++ rest ∧ Event.checks rest = [] ∧
      ∀ o ∈ Event.orders rest, o.1 ∉ drainage := by
  obtain ⟨o, ms, s₂, hx⟩ := afterExit_does g hp hb s
  obtain ⟨r₁, r₂, s₃, hc, he⟩ := conclude_enacts g (p.completed o) s₂
  have hclose : Event.Closes r₁.answer
      (Act.events (s.clock + ms) (closing (p.completed o) r₁ r₂)) := closes_closing ..
  exact ⟨(p.completed o).report, s₃, _, by simp only [afterWait, settle_of_ok hx, hc],
    (hx.enacts.trans he).plays.events, hclose.checks, hclose.not_mem_drainage⟩

/-- A run that was told to stop the server waits, and no command that drains a server follows. -/
theorem waits_of_settle (patience : Nat) (hp : p.phase = .awaitingExit) (hb : p.backup = none)
    (hu : g.settle (g.untilStopped trigger) {} s = (some pid, p, s₀)) :
    ∃ report s₁ es, g.drainWithin trigger patience s = (report, s₁) ∧
      g.Waits pid patience p s₀ report s₁ es ∧ ∀ o ∈ Event.orders es, o.1 ∉ drainage := by
  rcases awaitExit_enacts g pid patience s₀ with ⟨k, s₂, hk, hl, hw, he⟩ | ⟨s₂, ha, hw, he⟩
  · obtain ⟨hclock, hevents⟩ := he.waits
    obtain ⟨r, s₁, rest, hafter, hrest, hchecks, horders⟩ := afterWait_rest g hp hb s₂
    have hrun : g.drainWithin trigger patience s = g.afterWait p s₂ := by
      simp only [drainWithin, proceed, hu, hw, afterWait]
    refine ⟨some r, s₁, Event.wait pid g.timings.exitPollIntervalMillis s₀.clock k ++ rest,
      hrun.trans hafter, ⟨hp, ?_, fun n _ hn => ?_, fun ha => ?_⟩, ?_⟩
    · rw [hrest, hevents, List.append_assoc]
    · obtain rfl := hl.unique hn
      exact ⟨s₂, rest, hclock, hevents, hafter, rfl, hchecks⟩
    · cases (ha k hk).symm.trans hl.gone
    · rw [Event.orders_append, Event.orders_wait]
      exact horders
  · have hrun : g.drainWithin trigger patience s = (none, s₂) := by
      simp only [drainWithin, proceed, hu, hw]
    have hevents := he.plays.events
    rw [Act.events_watched] at hevents
    refine ⟨none, s₂, _, hrun, ⟨hp, hevents, fun n hn hl => ?_, fun _ => ⟨rfl, rfl⟩⟩, ?_⟩
    · cases (ha n hn).symm.trans hl.gone
    · rw [Event.orders_looks]
      intro o ho
      cases ho

/-- Nobody but the process that was located is looked at after a fault, and the server was not told
to stop. -/
theorem Course.faulted (h : Course g trigger located p as) (hp : p.phase = .failed)
    (r₁ r₂ : Reply) (t : Nat) :
    (∀ x ∈ Event.checks (Act.events t (as ++ closing p r₁ r₂)), located = .ok (some x.2.1)) ∧
      (.stop, .ok ()) ∉ Event.orders (Act.events t (as ++ closing p r₁ r₂)) := by
  have ha (t : Nat) : Event.Closes r₁.answer (Act.events t (closing p r₁ r₂)) :=
    closes_closing p r₁ r₂ t
  cases h with
  | lookupFailed f => simp [(ha _).checks, (ha _).orders]
  | absent o ms => simp [(ha _).checks, (ha _).orders]
  | alive h f ms =>
    rw [List.append_assoc, Act.events_append]
    refine ⟨?_, (h.opens t).stop_notMem (ha _).not_mem_drainage⟩
    simp [(h.opens t).checks, (ha _).checks, Act.ordered]
  | salvaged h f ms o bms =>
    rw [List.append_assoc, Act.events_append]
    refine ⟨?_, (h.opens t).stop_notMem (ha _).not_mem_drainage⟩
    simp [(h.opens t).checks, (ha _).checks, Act.ordered]
  | clean h ms looks o bms => cases hp

/-- What has been done where the wait begins. -/
theorem stopped_of_settle (hu : g.settle (g.untilStopped trigger) {} s = (some pid, p, s₀)) :
    (g.channel.locate s.world).1 = .ok (some pid) ∧ p.phase = .awaitingExit ∧ p.backup = none ∧
      ∃ before t, Event.Opens pid .stop before ∧
        s₀.events = s.events ++ (before ++ [.sent t ConsoleCommand.stop.text (.ok ())]) := by
  rcases settle_untilStopped g trigger s with
    ⟨p', as, s₁, -, -, hs, -⟩ | ⟨pid', p', as, ms, s₁, hl, hb, hs, he⟩
  · cases hu.symm.trans hs
  · cases hu.symm.trans hs
    refine ⟨hl, rfl, hb.draining.backup, _, s.clock + Act.total as, hb.opens s.clock, ?_⟩
    rw [he.plays.events, Act.events_append]
    rfl

theorem looked_of_settle (patience : Nat)
    (hu : g.settle (g.untilStopped trigger) {} s = (some pid, p, s₀)) :
    ∃ report s₁ es, g.drainWithin trigger patience s = (report, s₁) ∧
      s₁.events = s.events ++ es ∧ g.Looked trigger patience s report s₁ es := by
  obtain ⟨hl, hp, hb, before, t, ho, hs₀⟩ := stopped_of_settle hu
  obtain ⟨report, s₁, after, hr, hw, hafter⟩ := waits_of_settle patience hp hb hu
  have hchecks : Event.checks (before ++ [.sent t ConsoleCommand.stop.text (.ok ())] ++ after) =
      Event.checks after := by simp [ho.checks]
  have hstop : (.stop, .ok ()) ∈
      Event.orders (before ++ [.sent t ConsoleCommand.stop.text (.ok ())] ++ after) := by simp
  refine ⟨report, s₁, before ++ [.sent t ConsoleCommand.stop.text (.ok ())] ++ after, hr, ?_, ?_⟩
  · rw [hw.events, hs₀, List.append_assoc]
  constructor
  case only =>
    intro x hx
    rw [hchecks] at hx
    rw [hl, hw.mem_checks x hx]
  case absent => exact fun h => absurd hl (h pid)
  case fault =>
    intro c f rest hf
    rw [List.append_assoc, List.singleton_append, ho.fault?_stop hafter] at hf
    cases hf
  case ended => exact fun h => absurd hstop h
  case stopped =>
    refine fun _ => ⟨pid, p, s₀, before, t, after, hl, hu, hs₀, rfl, ho.checks, hw, ?_⟩
    intro k hk hlast
    obtain ⟨s₂, rest, -, -, -, rfl, hrest⟩ := hw.gone k hk hlast
    rw [hchecks, Event.checks_append, hrest, List.append_nil, Event.length_checks_wait]

theorem looked_of_fault {s₁ : Session σ} (patience : Nat)
    (hc : Course g trigger (g.channel.locate s.world).1 p as) (hp : p.phase = .failed)
    (hu : g.settle (g.untilStopped trigger) {} s = (none, p, s₁)) (he : g.Enacts s as s₁) :
    ∃ report s₂ es, g.drainWithin trigger patience s = (report, s₂) ∧
      s₂.events = s.events ++ es ∧ g.Looked trigger patience s report s₂ es := by
  obtain ⟨r₁, r₂, s₂, hd, hq⟩ := conclude_enacts g p s₁
  obtain ⟨honly, hstop⟩ := hc.faulted hp r₁ r₂ s.clock
  refine ⟨some p.report, s₂, _, ?_, (he.trans hq).plays.events, ?_⟩
  · simp only [drainWithin, proceed, hu, hd]
  constructor
  case only => exact honly
  case absent =>
    intro h
    exact List.eq_nil_iff_forall_not_mem.mpr fun x hx => h _ (honly x hx)
  case fault =>
    intro c f after hf
    obtain ⟨pid, t, alive, -, hx, hall⟩ := (hc.safeBackup r₁ r₂ s.clock).looked c f after hf
    rw [hall, hx]
    rfl
  case ended =>
    intro _ h
    cases h
  case stopped => exact fun h => absurd h hstop

/-! ## All runs -/

/-- A run that waits ends exactly if some answer is false. -/
theorem ends_iff_gone (hu : g.settle (g.untilStopped trigger) {} s = (some pid, p, s₀)) :
    (∃ n r, ∀ patience ≥ n, g.drain trigger patience s = some r) ↔
      ∃ i, g.answers pid s₀.world i = false := by
  obtain ⟨-, hp, hb, -⟩ := stopped_of_settle hu
  constructor
  · rintro ⟨n, r, hend⟩
    obtain ⟨report, s₁, es, hr, hw, -⟩ := waits_of_settle n hp hb hu
    rcases Lasts.exists_or_forall (g.answers pid s₀.world) n with ⟨k, -, hl⟩ | ha
    · exact ⟨k, hl.gone⟩
    · have hnone := hend n (Nat.le_refl n)
      simp only [drain, hr, (hw.alive ha).1] at hnone
      cases hnone
  · rintro ⟨i, hi⟩
    obtain ⟨k, -, hl⟩ := Lasts.exists_of_gone hi
    obtain ⟨report, s₁, es, hr, hw, -⟩ := waits_of_settle (k + 1) hp hb hu
    obtain ⟨s₂, rest, -, -, hafter, -⟩ := hw.gone k (Nat.lt_succ_self k) hl
    obtain ⟨r, s₃, -, hsome, -⟩ := afterWait_rest g hp hb s₂
    cases hafter.symm.trans hsome
    exact ⟨k + 1, (r, s₁), fun patience hle => drain_mono hle (by simp only [drain, hr])⟩

/-- A run looks at the process that was located only: not at all, once, or until it is gone. It ends
exactly if it has nothing to wait for or some answer is false. -/
theorem drainWithin_looked (g : Guard σ) (trigger : Trigger) (s : Session σ) :
    (∀ patience, ∃ report s₁ es, g.drainWithin trigger patience s = (report, s₁) ∧
      s₁.events = s.events ++ es ∧ g.Looked trigger patience s report s₁ es) ∧
    ((∃ n r, ∀ patience ≥ n, g.drain trigger patience s = some r) ↔
      ∀ pid p s₀, g.settle (g.untilStopped trigger) {} s = (some pid, p, s₀) →
        ∃ i, g.answers pid s₀.world i = false) := by
  rcases settle_untilStopped g trigger s with
    ⟨p, as, s₁, hc, hp, hu, he⟩ | ⟨pid, p, as, ms, s₁, -, -, hu, -⟩
  · refine ⟨fun patience => looked_of_fault patience hc hp hu he, iff_of_true ?_ ?_⟩
    · exact ⟨0, g.conclude p s₁, fun patience _ => by simp only [drain, drainWithin, proceed, hu]⟩
    · intro pid p' s₀ hs
      cases hu.symm.trans hs
  · refine ⟨fun patience => looked_of_settle patience hu, (ends_iff_gone hu).trans ?_⟩
    constructor
    · intro h pid' p' s₀ hs
      cases hu.symm.trans hs
      exact h
    · exact fun h => h _ _ _ hu

end Guard

end DrainGuard
