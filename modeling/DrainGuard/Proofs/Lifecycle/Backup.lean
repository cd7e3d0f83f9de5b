import DrainGuard.Proofs.Lifecycle.Log

/-!
# The backup of a shutdown

A shutdown never backs up a server that may be alive, and never strands one that is known to be
gone.

- **Rules** (`SafeBackup`): what the log and the report of a run say about its backup. They are
  rules over the log alone: where the one backup is (`OneBackup`), how the exit is watched
  (`ExitWatched`) and when a backup is due (`BackupDue`).
- **Courses** (`Course.safeBackup`, `Before.safeBackup_waiting`): every course keeps them, and so
  does a run that still waits for the exit.
- **All runs** (`drainWithin_safeBackup`): whatever the console, the agent and the process answer.
-/

namespace DrainGuard

/-- Where a log has its backup, if any, and what the report makes of it; `located` is what the
look-up answered. -/
structure OneBackup (located : Except Failure (Option Nat)) (report : Option Report)
    (es : List Event) : Prop where
  /-- At most one backup is made, the one before a shutdown. -/
  once : Event.backups es = [] ∨ Event.backups es = [.preShutdown]
  /-- Where it begins there is no session, or the last act was a look that found the located
  process gone. -/
  gone : ∀ before t t₁ mode o after, es = before ++ .archived t t₁ mode o :: after →
    located = .ok none ∨
      ∃ pid t₀, located = .ok (some pid) ∧ before.getLast? = some (.checked t₀ pid false)
  /-- The report has the outcome of the backup that was made, and nothing else. -/
  reported : ∀ r o, report = some r →
    (r.backup = some o ↔ ∃ t t₁ mode, .archived t t₁ mode o ∈ es)
  /-- The history shows as many backups as were made. -/
  attempts : ∀ r, report = some r → r.backupAttempts = (Event.backups es).length

/-- How a run watches for the exit of the process that was located. -/
structure ExitWatched (located : Except Failure (Option Nat)) (report : Option Report)
    (es : List Event) : Prop where
  /-- After a fault there is one look at the process, and there is no other. -/
  looked : ∀ c f after, Event.fault? es = some (c, f, after) → ∃ pid t alive,
    located = .ok (some pid) ∧ Event.checks after = [(t, pid, alive)] ∧
      Event.checks es = Event.checks after
  /-- A run that has drained the server does not end before the process has exited. -/
  exited : ∀ after, Event.StoppedAt es after → report ≠ none →
    ∃ pid t, located = .ok (some pid) ∧ (t, pid, false) ∈ Event.checks after
  /-- A run that has not ended has drained the server and found the process alive at every look. -/
  waiting : report = none → ∃ pid after, located = .ok (some pid) ∧ Event.StoppedAt es after ∧
    ∀ x ∈ Event.checks es, x.2 = (pid, true)

/-- There is no session; or the server was drained, and a look found the process gone; or a command
failed, and the one look after it found the process gone. -/
def BackupDue (located : Except Failure (Option Nat)) (es : List Event) : Prop :=
  located = .ok none ∨ ∃ pid t, located = .ok (some pid) ∧
    ((∃ after, Event.StoppedAt es after ∧ (t, pid, false) ∈ Event.checks after) ∨
      ∃ c f after, Event.fault? es = some (c, f, after) ∧ Event.checks after = [(t, pid, false)])

/-- What the log of a run and its report, if it has ended, say about its backup. -/
structure SafeBackup (located : Except Failure (Option Nat)) (report : Option Report)
    (es : List Event) : Prop extends OneBackup located report es,
    ExitWatched located report es where
  /-- The run begins with its look-up. -/
  lookup : ∃ t rest, es = .located t located :: rest
  /-- A backup is made exactly if it is due. -/
  made : Event.backups es ≠ [] ↔ BackupDue located es

/-! ## Where the backup is -/

section Place

variable {es before after before' after' : List Event} {t t₁ t' t₁' : Nat}
  {mode mode' : BackupMode} {o o' : BackupOutcome} {located : Except Failure (Option Nat)}
  {report : Option Report} {r : Report}

theorem Event.mem_backups : mode ∈ backups es ↔ ∃ t t₁ o, .archived t t₁ mode o ∈ es := by
  simp only [backups, List.mem_filterMap]
  constructor
  · rintro ⟨e, he, h⟩
    cases e with
    | archived t t₁ m o =>
      cases h
      exact ⟨t, t₁, o, he⟩
    | _ => cases h
  · rintro ⟨t, t₁, o, h⟩
    exact ⟨_, h, rfl⟩

theorem Event.not_mem_of_backups (h : backups es = []) : .archived t t₁ mode o ∉ es := by
  intro hm
  have hmode : mode ∈ backups es := mem_backups.mpr ⟨t, t₁, o, hm⟩
  rw [h] at hmode
  cases hmode

theorem OneBackup.of_none (h : Event.backups es = [])
    (hr : ∀ r, report = some r → r.backup = none ∧ r.backupAttempts = 0) :
    OneBackup located report es where
  once := .inl h
  gone before t t₁ mode o after he := by
    have hm : Event.archived t t₁ mode o ∈ es := by
      rw [he]
      exact List.mem_append_right _ List.mem_cons_self
    exact absurd hm (Event.not_mem_of_backups h)
  reported r o he := by
    rw [(hr r he).1]
    refine ⟨fun hn => ?_, fun ⟨t, t₁, mode, hm⟩ => absurd hm (Event.not_mem_of_backups h)⟩
    cases hn
  attempts r he := by rw [(hr r he).2, h, List.length_nil]

/-- A log with a backup in one place only. -/
theorem OneBackup.of_split (hb : Event.backups before = []) (ha : Event.backups after = [])
    (hg : located = .ok none ∨
      ∃ pid t₀, located = .ok (some pid) ∧ before.getLast? = some (.checked t₀ pid false))
    (hr : r.backup = some o) (hn : r.backupAttempts = 1) :
    OneBackup located (some r) (before ++ .archived t t₁ .preShutdown o :: after) where
  once := .inr (by simp [hb, ha])
  gone before' t' t₁' mode o' after' he := by
    obtain ⟨rfl, -⟩ := (List.append_cons_inj_of_notMem (Event.not_mem_of_backups hb)
      (Event.not_mem_of_backups ha)).mp he
    exact hg
  reported r' o' he := by
    cases he
    rw [hr]
    constructor
    · intro ho
      cases ho
      exact ⟨t, t₁, .preShutdown, List.mem_append_right _ List.mem_cons_self⟩
    · rintro ⟨t', t₁', mode, hm⟩
      rcases List.mem_append.mp hm with hm | hm
      · exact absurd hm (Event.not_mem_of_backups hb)
      · rcases List.mem_cons.mp hm with hm | hm
        · cases hm
          rfl
        · exact absurd hm (Event.not_mem_of_backups ha)
  attempts r' he := by
    cases he
    rw [hn]
    simp [hb, ha]

end Place

/-! ## How the exit is watched -/

section Watch

variable {es before after : List Event} {located : Except Failure (Option Nat)}
  {report : Option Report} {r : Report} {c : ConsoleCommand} {f : Failure} {pid t t₁ : Nat}
  {alive : Bool}

/-- Nothing drains a server that was not located. -/
theorem ExitWatched.of_unlocated (h : ∀ o ∈ Event.orders es, o.1 ∉ drainage) :
    ExitWatched located (some r) es where
  looked c f after hf := by
    rw [Event.fault?_eq_none fun o ho hc => absurd hc (h o ho)] at hf
    cases hf
  exited after hs _ := absurd (by decide) (h _ hs.mem_orders)
  waiting hn := by cases hn

theorem BackupDue.unlocated_iff (h : ∀ o ∈ Event.orders es, o.1 ∉ drainage) :
    BackupDue located es ↔ located = .ok none := by
  refine ⟨?_, .inl⟩
  rintro (hl | ⟨pid, t, -, ⟨after, hs, -⟩ | ⟨c, f, after, hf, -⟩⟩)
  · exact hl
  · exact absurd (by decide) (h _ hs.mem_orders)
  · rw [Event.fault?_eq_none fun o ho hc => absurd hc (h o ho)] at hf
    cases hf

section Fault

variable (h : Event.Opens pid c before) (ha : ∀ o ∈ Event.orders after, o.1 ∉ drainage)

include h ha

/-- A server that one of the commands did not reach was not told to stop. -/
theorem Event.Opens.stop_notMem :
    (.stop, .ok ()) ∉ Event.orders (before ++ .sent t c.text (.error f) :: after) := by
  have hlast : ∀ c ∈ drainage, .stop ∉ drainage.takeWhile (· ≠ c) := by decide
  intro hm
  rw [orders_split, List.mem_append, List.mem_cons, h.orders] at hm
  rcases hm with hm | hm | hm
  · exact hlast c h.mem (mem_delivered.mp hm).1
  · cases hm
  · exact ha _ hm (by decide)

theorem ExitWatched.of_fault (hx : Event.checks after = [(t₁, pid, alive)]) :
    ExitWatched (.ok (some pid)) (some r) (before ++ .sent t c.text (.error f) :: after) where
  looked c' f' after' hf := by
    rw [h.fault?_error] at hf
    cases hf
    exact ⟨pid, t₁, alive, rfl, hx, by simp [h.checks]⟩
  exited after' hs _ := absurd hs.mem_orders (h.stop_notMem ha)
  waiting hn := by cases hn

theorem BackupDue.fault_iff (hx : Event.checks after = [(t₁, pid, alive)]) :
    BackupDue (.ok (some pid)) (before ++ .sent t c.text (.error f) :: after) ↔ alive = false := by
  constructor
  · rintro (hl | ⟨pid', t', hl, ⟨after', hs, -⟩ | ⟨c', f', after', hf, hx'⟩⟩)
    · cases hl
    · exact absurd hs.mem_orders (h.stop_notMem ha)
    · rw [h.fault?_error] at hf
      cases hf
      rw [hx] at hx'
      cases hx'
      rfl
  · rintro rfl
    exact .inr ⟨pid, t₁, rfl, .inr ⟨c, f, after, h.fault?_error, hx⟩⟩

end Fault

section Drained

variable (h : Event.Opens pid .stop before) (ha : ∀ o ∈ Event.orders after, o.1 ∉ drainage)

include h ha

theorem Event.Opens.stoppedAt_iff {after' : List Event} :
    StoppedAt (before ++ .sent t ConsoleCommand.stop.text (.ok ()) :: after) after' ↔
      after' = after := by
  constructor
  · rintro ⟨before', t', he, -⟩
    refine eq_of_sent_split he (fun hm => ?_) fun hm => ha _ hm (by decide)
    rw [h.orders] at hm
    exact absurd (mem_delivered.mp hm).1 (by decide)
  · rintro rfl
    refine ⟨before, t, rfl, ?_, ?_⟩ <;> rw [h.orders] <;> exact mem_delivered.mpr ⟨by decide, rfl⟩

theorem ExitWatched.of_exit (hx : (t₁, pid, false) ∈ Event.checks after) :
    ExitWatched (.ok (some pid)) (some r)
      (before ++ .sent t ConsoleCommand.stop.text (.ok ()) :: after) where
  looked c f after' hf := by
    rw [h.fault?_stop ha] at hf
    cases hf
  exited after' hs _ := by
    rw [(h.stoppedAt_iff ha).mp hs]
    exact ⟨pid, t₁, rfl, hx⟩
  waiting hn := by cases hn

theorem ExitWatched.of_wait (hx : ∀ x ∈ Event.checks after, x.2 = (pid, true)) :
    ExitWatched (.ok (some pid)) none
      (before ++ .sent t ConsoleCommand.stop.text (.ok ()) :: after) where
  looked c f after' hf := by
    rw [h.fault?_stop ha] at hf
    cases hf
  exited after' _ hr := absurd rfl hr
  waiting _ := by
    refine ⟨pid, after, rfl, (h.stoppedAt_iff ha).mpr rfl, fun x hm => hx x ?_⟩
    simpa [h.checks] using hm

theorem BackupDue.drained_iff :
    BackupDue (.ok (some pid)) (before ++ .sent t ConsoleCommand.stop.text (.ok ()) :: after) ↔
      ∃ t, (t, pid, false) ∈ Event.checks after := by
  constructor
  · rintro (hl | ⟨pid', t', hl, ⟨after', hs, hx⟩ | ⟨c, f, after', hf, -⟩⟩)
    · cases hl
    · cases hl
      rw [(h.stoppedAt_iff ha).mp hs] at hx
      exact ⟨t', hx⟩
    · rw [h.fault?_stop ha] at hf
      cases hf
  · rintro ⟨t', hx⟩
    exact .inr ⟨pid, t', rfl, .inl ⟨after, (h.stoppedAt_iff ha).mpr rfl, hx⟩⟩

end Drained

end Watch

/-! ## The logs of the courses -/

namespace SafeBackup

variable {before after watch : List Event} {answer : Except Failure Unit} {c : ConsoleCommand}
  {f : Failure} {o : BackupOutcome} {pid t t₁ t₂ : Nat} {r : Report}

theorem of_lookupFailed (ha : Event.Closes answer after) (hr : r.backup = none)
    (hn : r.backupAttempts = 0) :
    SafeBackup (.error f) (some r) (.located t (.error f) :: after) := by
  have hb : Event.backups (.located t (.error f) :: after) = [] := by simp [ha.backups]
  have ho : ∀ o ∈ Event.orders (.located t (.error f) :: after), o.1 ∉ drainage :=
    ha.not_mem_drainage
  refine { OneBackup.of_none hb ?_, ExitWatched.of_unlocated ho with
    lookup := ⟨t, after, rfl⟩, made := ?_ }
  · rintro r ⟨⟩
    exact ⟨hr, hn⟩
  · rw [BackupDue.unlocated_iff ho, hb]
    simp

theorem of_absent (ha : Event.Closes answer after) (hr : r.backup = some o)
    (hn : r.backupAttempts = 1) :
    SafeBackup (.ok none) (some r)
      (.located t (.ok none) :: .archived t₁ t₂ .preShutdown o :: after) := by
  have ho : ∀ x ∈ Event.orders (.located t (.ok none) :: .archived t₁ t₂ .preShutdown o :: after),
      x.1 ∉ drainage := ha.not_mem_drainage
  have hone : OneBackup (.ok none) (some r)
      ([.located t (.ok none)] ++ .archived t₁ t₂ .preShutdown o :: after) :=
    .of_split rfl ha.backups (.inl rfl) hr hn
  refine { hone, ExitWatched.of_unlocated ho with lookup := ⟨t, _, rfl⟩, made := ?_ }
  rw [BackupDue.unlocated_iff ho]
  simp

theorem of_alive (ho : Event.Opens pid c before) (ha : Event.Closes answer after)
    (hr : r.backup = none) (hn : r.backupAttempts = 0) :
    SafeBackup (.ok (some pid)) (some r)
      (before ++ .sent t c.text (.error f) :: .checked t₁ pid true :: after) := by
  have hb : Event.backups (before ++ .sent t c.text (.error f) :: .checked t₁ pid true :: after) =
      [] := by simp [ho.backups, ha.backups]
  have hd : ∀ x ∈ Event.orders (.checked t₁ pid true :: after), x.1 ∉ drainage :=
    ha.not_mem_drainage
  have hx : Event.checks (.checked t₁ pid true :: after) = [(t₁, pid, true)] := by
    simp [ha.checks]
  refine { OneBackup.of_none hb ?_, ExitWatched.of_fault ho hd hx with
    lookup := ho.lookup_append, made := ?_ }
  · rintro r ⟨⟩
    exact ⟨hr, hn⟩
  · rw [BackupDue.fault_iff ho hd hx, hb]
    simp

theorem of_salvage (ho : Event.Opens pid c before) (ha : Event.Closes answer after)
    (hr : r.backup = some o) (hn : r.backupAttempts = 1) :
    SafeBackup (.ok (some pid)) (some r)
      (before ++ .sent t c.text (.error f) :: .checked t₁ pid false ::
        .archived t₁ t₂ .preShutdown o :: after) := by
  have hd : ∀ x ∈ Event.orders (.checked t₁ pid false :: .archived t₁ t₂ .preShutdown o :: after),
      x.1 ∉ drainage := ha.not_mem_drainage
  have hx : Event.checks (.checked t₁ pid false :: .archived t₁ t₂ .preShutdown o :: after) =
      [(t₁, pid, false)] := by simp [ha.checks]
  have hone : OneBackup (.ok (some pid)) (some r)
      ((before ++ [.sent t c.text (.error f), .checked t₁ pid false]) ++
        .archived t₁ t₂ .preShutdown o :: after) :=
    .of_split (by simp [ho.backups]) ha.backups (.inr ⟨pid, t₁, rfl, by simp⟩) hr hn
  rw [List.append_assoc] at hone
  refine { hone, ExitWatched.of_fault ho hd hx with lookup := ho.lookup_append, made := ?_ }
  rw [BackupDue.fault_iff ho hd hx]
  simp

theorem of_exit (ho : Event.Opens pid .stop before) (ha : Event.Closes answer after)
    (hw : Event.Watches pid watch) (hr : r.backup = some o) (hn : r.backupAttempts = 1) :
    SafeBackup (.ok (some pid)) (some r)
      (before ++ .sent t ConsoleCommand.stop.text (.ok ()) ::
        (watch ++ .checked t₁ pid false :: .archived t₁ t₂ .preShutdown o :: after)) := by
  have hd : ∀ x ∈ Event.orders
      (watch ++ .checked t₁ pid false :: .archived t₁ t₂ .preShutdown o :: after),
      x.1 ∉ drainage := by
    rw [Event.orders_append, hw.orders]
    exact ha.not_mem_drainage
  have hx : (t₁, pid, false) ∈ Event.checks
      (watch ++ .checked t₁ pid false :: .archived t₁ t₂ .preShutdown o :: after) := by simp
  have hone : OneBackup (.ok (some pid)) (some r)
      ((before ++ .sent t ConsoleCommand.stop.text (.ok ()) :: watch ++ [.checked t₁ pid false]) ++
        .archived t₁ t₂ .preShutdown o :: after) :=
    .of_split (by simp [ho.backups, hw.backups]) ha.backups
      (.inr ⟨pid, t₁, rfl, List.getLast?_concat⟩) hr hn
  rw [List.append_assoc, List.append_assoc, List.cons_append] at hone
  refine { hone, ExitWatched.of_exit ho hd hx with lookup := ho.lookup_append, made := ?_ }
  rw [BackupDue.drained_iff ho hd]
  exact iff_of_true (by simp) ⟨t₁, hx⟩

theorem of_wait (ho : Event.Opens pid .stop before) (hw : Event.Watches pid watch) :
    SafeBackup (.ok (some pid)) none
      (before ++ .sent t ConsoleCommand.stop.text (.ok ()) :: watch) := by
  have hb : Event.backups (before ++ .sent t ConsoleCommand.stop.text (.ok ()) :: watch) = [] := by
    simp [ho.backups, hw.backups]
  have hd : ∀ x ∈ Event.orders watch, x.1 ∉ drainage := by
    rw [hw.orders]
    exact fun x hx => nomatch hx
  refine { OneBackup.of_none hb ?_, ExitWatched.of_wait ho hd hw.checks with
    lookup := ho.lookup_append, made := ?_ }
  · rintro r ⟨⟩
  · rw [BackupDue.drained_iff ho hd, hb]
    refine iff_of_false (fun h => h rfl) ?_
    rintro ⟨t', hm⟩
    cases hw.checks _ hm

end SafeBackup

/-! ## All runs -/

namespace Guard

variable {σ : Type} {g : Guard σ} {trigger : Trigger} {pid : Nat} {c : ConsoleCommand}
  {p : Progress} {as : List Act} {located : Except Failure (Option Nat)}

/-- No phase before a fault is a backup. -/
theorem Before.count_backingUp (h : Before g trigger pid c p as) :
    p.history.count .backingUp = 0 := by
  rw [h.history_eq]
  split <;> rfl

theorem Before.attempts_failed (h : Before g trigger pid c p as) (f : Failure)
    (o : Option BackupOutcome) :
    (p.failed f o).report.backupAttempts = if o.isSome then 1 else 0 := by
  show (p.failed f o).history.count .backingUp = _
  rw [Progress.failed_history, List.count_append, List.count_append, h.count_backingUp]
  split <;> rfl

theorem Course.safeBackup (h : Course g trigger located p as) (r₁ r₂ : Reply) (t : Nat) :
    SafeBackup located (some p.report) (Act.events t (as ++ closing p r₁ r₂)) := by
  have ha (t : Nat) : Event.Closes r₁.answer (Act.events t (closing p r₁ r₂)) :=
    closes_closing p r₁ r₂ t
  cases h with
  | lookupFailed f => exact .of_lookupFailed (ha t) rfl rfl
  | absent o ms => exact .of_absent (ha _) rfl rfl
  | alive h f ms =>
    rw [List.append_assoc, Act.events_append]
    exact .of_alive (h.opens t) (ha _) h.draining.backup (h.attempts_failed f none)
  | salvaged h f ms o bms =>
    rw [List.append_assoc, Act.events_append]
    exact .of_salvage (h.opens t) (ha _) rfl (h.attempts_failed f (some o))
  | @clean pid p as h ms looks o bms =>
    have hn : ((p.enter .awaitingExit).completed o).report.backupAttempts = 1 := by
      show ((p.enter .awaitingExit).completed o).history.count .backingUp = 1
      rw [Progress.completed_history, Progress.enter, List.count_append, List.count_append,
        List.count_append, h.count_backingUp]
      rfl
    rw [List.append_assoc, List.append_assoc, events_stopped]
    exact .of_exit (h.opens t) (ha _) (watches_watched ..) rfl hn

theorem Before.safeBackup_waiting (h : Before g trigger pid .stop p as) (ms patience t : Nat) :
    SafeBackup (.ok (some pid)) none (Act.events t (as ++ stoppedActs g pid ms patience)) := by
  rw [Act.events_append]
  exact .of_wait (h.opens t) (watches_watched ..)

/-- A shutdown never backs up a server that may be alive and never strands one that is known to be
gone, however long it waits for the exit. -/
theorem drainWithin_safeBackup (g : Guard σ) (trigger : Trigger) (patience : Nat) (s : Session σ) :
    ∃ es, (g.drainWithin trigger patience s).2.events = s.events ++ es ∧
      SafeBackup (g.channel.locate s.world).1 (g.drainWithin trigger patience s).1 es := by
  rcases drainWithin_course g trigger patience s with
    ⟨p, as, r₁, r₂, s₁, hc, hr, hp⟩ | ⟨pid, p, as, ms, s₁, hl, hb, hr, hp⟩
  · rw [hr]
    exact ⟨_, hp.events, hc.safeBackup r₁ r₂ s.clock⟩
  · rw [hr, hl]
    exact ⟨_, hp.events, hb.safeBackup_waiting ms patience s.clock⟩

end Guard

end DrainGuard
