import DrainGuard.Host.Surroundings
import DrainGuard.Proofs.Lifecycle.Scheduled
import DrainGuard.Proofs.Lock.Release
import DrainGuard.Proofs.Watch.Ending

/-!
# What the exit code of a process says

A process ends with a code, and the code tells how far it came. What comes before the lock does not
touch the server; what comes after it gives the lock up.

- **Before the lock** (`Halts`, `Ready`): settings that cannot be used, logging that cannot be set
  up, or settings that are only to be checked.
- **With the lock** (`Works`, `Pending`): what the work of a guard comes to in each mode, and when
  it goes on.
- **Codes** (`Exits`, `CommandLine.run_exits`): every code, by what came of loading, logging, the
  checks, the lock and the work. A log file that cannot be opened has a code that no other failure
  of a start has (`CommandLine.run_log_directory`).
-/

namespace DrainGuard

/-- What the program is promised of the world around it: the locks of the machine, the interval that
is set, and that only the system keeps it from having a client. -/
structure Surroundings.Faithful (around : Surroundings Machine) : Prop where
  acquire (o : Options) (s : Settings) (mode : RunMode) (m : Machine) :
    (around.station o s).acquire mode m = m.acquire o.serverRoot mode
  release (o : Options) (s : Settings) (held : HeldLock) (m : Machine) :
    (around.station o s).release held m = m.release held
  interval (o : Options) (s : Settings) :
    (around.station o s).interval = s.metadata.pollInterval
  client (o : Options) (s : Settings) (f : Failure) :
    (around.station o s).client = .error f → ∃ text, f = .system text

theorem Machine.surroundings_faithful (environment : List (String × String)) :
    (Machine.surroundings environment).Faithful where
  acquire _ _ _ _ := rfl
  release _ _ _ _ := rfl
  interval _ _ := rfl
  client _ _ _ h := nomatch h

section Start

variable {σ : Type} {around : Surroundings σ} {o : Options} {w w₁ : σ} {code fuel patience : Nat}

/-- The program ends before a guard is at work: its code and the world that it leaves. -/
inductive Halts (around : Surroundings σ) (o : Options) (w : σ) : Nat → σ → Prop where
  | unloaded {f : Failure} (hload : around.load o w = .error f) : Halts around o w 3 w
  | unlogged {s : Settings} {f : LogFault} (hload : around.load o w = .ok s)
      (hlog : around.openLog o s w = .error f) (hf : ∀ e, f ≠ .noFile e) : Halts around o w 3 w
  | unopened {s : Settings} {e : FileError} (hload : around.load o w = .ok s)
      (hlog : around.openLog o s w = .error (.noFile e)) : Halts around o w 101 w
  | senseless {s : Settings} {w₁ : σ} {problem : String} (hload : around.load o w = .ok s)
      (hlog : around.openLog o s w = .ok w₁) (hs : s.problem? = some problem) :
      Halts around o w 3 w₁
  | validated {s : Settings} {w₁ : σ} (hload : around.load o w = .ok s)
      (hlog : around.openLog o s w = .ok w₁) (hs : s.problem? = none)
      (hv : o.validateConfig = true) : Halts around o w 0 w₁

/-- A guard goes to work with the settings `s` in the world `w₁`. -/
structure Ready (around : Surroundings σ) (o : Options) (w : σ) (s : Settings) (w₁ : σ) : Prop where
  load : around.load o w = .ok s
  log : around.openLog o s w = .ok w₁
  sense : s.problem? = none
  work : o.validateConfig = false

/-- What the work of a guard comes to in a mode: the report of its shutdown, if there was one, the
code, and the session that it leaves. -/
inductive Works (st : Station σ) (fuel patience : Nat) (w : σ) :
    RunMode → Option Report → Nat → Session σ → Prop where
  | drained {r : Report} {t : Session σ}
      (h : st.guard.drain .operator patience { world := w } = some (r, t)) :
      Works st fuel patience w .active (some r) r.exitCode t
  | archived {t : Session σ} (h : st.guard.archiveScheduled { world := w } = (.success, t)) :
      Works st fuel patience w .backup none 0 t
  | unarchived {reason : String} {t : Session σ}
      (h : st.guard.archiveScheduled { world := w } = (.failure reason, t)) :
      Works st fuel patience w .backup none 1 t
  | clientless {f : Failure} (hc : st.client = .error f) :
      Works st fuel patience w .daemon none 3 { world := w }
  | cancelled {fetch : Nat → Fetch} {watch : Watch} (hc : st.client = .ok fetch)
      (hw : Watch.run fetch st.interval st.cancel fuel = some watch) (hn : watch.notice = none)
      (hcancel : st.cancel = some watch.finish) :
      Works st fuel patience w .daemon none 0 { world := w, clock := watch.finish }
  | noticed {fetch : Nat → Fetch} {watch : Watch} {n : Notice} {r : Report} {t : Session σ}
      (hc : st.client = .ok fetch)
      (hw : Watch.run fetch st.interval st.cancel fuel = some watch) (hn : watch.notice = some n)
      (h : st.guard.drain (.notice n) patience { world := w, clock := watch.finish } =
        some (r, t)) : Works st fuel patience w .daemon (some r) r.exitCode t

/-- The work of a guard goes on: the server is still alive after all looks at it, or neither a
notice nor a cancellation came within the fetches of the watch. -/
inductive Pending (st : Station σ) (fuel patience : Nat) (w : σ) : RunMode → Prop where
  | draining (h : st.guard.drain .operator patience { world := w } = none) :
      Pending st fuel patience w .active
  | watching {fetch : Nat → Fetch} (hc : st.client = .ok fetch)
      (hw : Watch.run fetch st.interval st.cancel fuel = none) :
      Pending st fuel patience w .daemon
  | noticed {fetch : Nat → Fetch} {watch : Watch} {n : Notice} (hc : st.client = .ok fetch)
      (hw : Watch.run fetch st.interval st.cancel fuel = some watch) (hn : watch.notice = some n)
      (h : st.guard.drain (.notice n) patience { world := w, clock := watch.finish } = none) :
      Pending st fuel patience w .daemon

theorem halts_or_ready (around : Surroundings σ) (o : Options) (w : σ) :
    (∃ code w₁, Halts around o w code w₁) ∨ ∃ s w₁, Ready around o w s w₁ := by
  rcases hload : around.load o w with f | s
  · exact .inl ⟨_, _, .unloaded hload⟩
  rcases hlog : around.openLog o s w with f | w₁
  · cases f with
    | noFile e => exact .inl ⟨_, _, .unopened hload hlog⟩
    | noName path => exact .inl ⟨_, _, .unlogged hload hlog nofun⟩
    | noDirectory directory e => exact .inl ⟨_, _, .unlogged hload hlog nofun⟩
  rcases hs : s.problem? with _ | problem
  · cases hv : o.validateConfig with
    | true => exact .inl ⟨_, _, .validated hload hlog hs hv⟩
    | false => exact .inr ⟨s, w₁, hload, hlog, hs, hv⟩
  · exact .inl ⟨_, _, .senseless hload hlog hs⟩

/-- What ends before a guard is at work ends in the same way whatever the guard would work with. -/
theorem Halts.launch (h : Halts around o w code w₁) (hprint : o.printConfig = false) :
    ∃ e : Exit, e.code = code ∧ ∀ station fuel patience,
      o.launch { around with station } fuel patience w = some (e, { world := w₁ }) := by
  have hp : ¬o.printConfig = true := by simp [hprint]
  cases h with
  | @unloaded f hload =>
    refine ⟨Exit.ofLoading f, rfl, fun _ _ _ => ?_⟩
    simp only [Options.launch, if_neg hp, hload]
  | @unlogged s f hload hlog hf =>
    refine ⟨(Exit.ofLogging f).afterSaying o.formatWarning, ?_, fun _ _ _ => ?_⟩
    · cases f with
      | noFile e => exact absurd rfl (hf e)
      | noName path => rfl
      | noDirectory directory e => rfl
    · simp only [Options.launch, if_neg hp, hload, hlog, Option.map_some]
  | @unopened s e hload hlog =>
    refine ⟨(Exit.ofLogging (.noFile e)).afterSaying o.formatWarning, rfl, fun _ _ _ => ?_⟩
    simp only [Options.launch, if_neg hp, hload, hlog, Option.map_some]
  | @senseless s w₁ problem hload hlog hs =>
    refine ⟨(Exit.ofProblem o problem).afterSaying o.formatWarning, rfl, fun _ _ _ => ?_⟩
    simp only [Options.launch, if_neg hp, hload, hlog, Options.proceed, hs, Option.map_some]
  | validated hload hlog hs hv =>
    refine ⟨Exit.ofValidation.afterSaying o.formatWarning, rfl, fun _ _ _ => ?_⟩
    simp only [Options.launch, if_neg hp, hload, hlog, Options.proceed, hs, if_pos hv,
      Option.map_some]

/-- A guard that goes to work decides how the program ends. -/
theorem Ready.launch {s : Settings} (h : Ready around o w s w₁) (hprint : o.printConfig = false) :
    o.launch around fuel patience w =
      ((around.station o s).run o.mode fuel patience w₁).map fun (ending, session) =>
        ((Exit.ofEnding ending).afterSaying o.formatWarning, session) := by
  have hp : ¬o.printConfig = true := by simp [hprint]
  have hv : ¬o.validateConfig = true := by simp [h.work]
  simp only [Options.launch, if_neg hp, h.load, h.log, Options.proceed, h.sense, if_neg hv,
    Option.map_map]
  rfl

/-- Settings without a problem have an interval between two fetches. -/
theorem pollInterval_ne_zero {s : Settings} (h : s.problem? = none) :
    s.metadata.pollInterval ≠ 0 := by
  intro hzero
  have hsecs : s.metadata.pollIntervalSecs = 0 := by
    simpa [MetadataSettings.pollInterval] using hzero
  unfold Settings.problem? at h
  rw [if_pos hsecs] at h
  split at h <;> cases h

end Start

/-! ## The work of a guard -/

section Work

variable {σ : Type} {st : Station σ} {fuel patience code : Nat} {w : σ} {mode : RunMode}
  {report : Option Report} {t : Session σ}

theorem Works.work (h : Works st fuel patience w mode report code t) (hi : st.interval ≠ 0)
    (hclient : ∀ f, st.client = .error f → ∃ text, f = .system text) :
    ∃ ending, st.work mode fuel patience w = some (ending, t) ∧
      (Exit.ofEnding ending).code = code := by
  cases h with
  | @drained r t h =>
    refine ⟨.code r.exitCode, ?_, rfl⟩
    simp only [Station.work, h, Option.map_some]
  | archived h =>
    refine ⟨.code 0, ?_, rfl⟩
    simp only [Station.work, h]
    rfl
  | unarchived h =>
    refine ⟨.code 1, ?_, rfl⟩
    simp only [Station.work, h]
    rfl
  | @clientless f hc =>
    refine ⟨.failed f, ?_, ?_⟩
    · simp only [Station.work, hc]
    · obtain ⟨text, rfl⟩ := hclient f hc
      rfl
  | cancelled hc hw hn _ =>
    refine ⟨.code 0, ?_, rfl⟩
    simp only [Station.work, hc, if_neg hi, Guard.daemon, hw, Option.bind_eq_bind, Option.bind_some,
      hn]
    rfl
  | @noticed _ watch n r t hc hw hn h =>
    refine ⟨.code r.exitCode, ?_, rfl⟩
    simp only [Station.work, hc, if_neg hi, Guard.daemon, hw, Option.bind_eq_bind, Option.bind_some,
      hn, h]
    rfl

theorem Pending.work (h : Pending st fuel patience w mode) (hi : st.interval ≠ 0) :
    st.work mode fuel patience w = none := by
  cases h with
  | draining h => simp only [Station.work, h, Option.map_none]
  | watching hc hw =>
    simp only [Station.work, hc, if_neg hi, Guard.daemon, hw, Option.bind_eq_bind,
      Option.bind_none, Option.map_none]
  | noticed hc hw hn h =>
    simp only [Station.work, hc, if_neg hi, Guard.daemon, hw, hn, h, Option.bind_eq_bind,
      Option.bind_some, Option.bind_none, Option.map_none]

/-- The work of a guard comes to something or goes on. -/
theorem works_or_pending (st : Station σ) (hi : st.interval ≠ 0) (fuel patience : Nat) (w : σ)
    (mode : RunMode) :
    (∃ report code t, Works st fuel patience w mode report code t) ∨
      Pending st fuel patience w mode := by
  cases mode with
  | active =>
    rcases hd : st.guard.drain .operator patience { world := w } with _ | ⟨r, t⟩
    · exact .inr (.draining hd)
    · exact .inl ⟨_, _, _, .drained hd⟩
  | backup =>
    rcases ha : st.guard.archiveScheduled { world := w } with ⟨_ | reason, t⟩
    · exact .inl ⟨_, _, _, .archived ha⟩
    · exact .inl ⟨_, _, _, .unarchived ha⟩
  | daemon =>
    rcases hc : st.client with f | fetch
    · exact .inl ⟨_, _, _, .clientless hc⟩
    rcases hw : Watch.run fetch st.interval st.cancel fuel with _ | watch
    · exact .inr (.watching hc hw)
    rcases hn : watch.notice with _ | n
    · have hcancel : st.cancel = some watch.finish :=
        Watch.Ends.cancelled ⟨fuel, hw⟩ (Nat.pos_of_ne_zero hi) hn
      exact .inl ⟨_, _, _, .cancelled hc hw hn hcancel⟩
    rcases hd : st.guard.drain (.notice n) patience { world := w, clock := watch.finish }
      with _ | ⟨r, t⟩
    · exact .inr (.noticed hc hw hn hd)
    · exact .inl ⟨_, _, _, .noticed hc hw hn hd⟩

theorem work_iff (hi : st.interval ≠ 0)
    (hclient : ∀ f, st.client = .error f → ∃ text, f = .system text) :
    (∃ ending, st.work mode fuel patience w = some (ending, t) ∧
      (Exit.ofEnding ending).code = code) ↔
    ∃ report, Works st fuel patience w mode report code t := by
  constructor
  · rintro ⟨ending, h, rfl⟩
    rcases works_or_pending st hi fuel patience w mode with ⟨report, code, t', hworks⟩ | hpending
    · obtain ⟨ending', h', rfl⟩ := hworks.work hi hclient
      cases h.symm.trans h'
      exact ⟨report, hworks⟩
    · cases h.symm.trans (hpending.work hi)
  · rintro ⟨report, h⟩
    exact h.work hi hclient

theorem work_eq_none_iff (hi : st.interval ≠ 0)
    (hclient : ∀ f, st.client = .error f → ∃ text, f = .system text) :
    st.work mode fuel patience w = none ↔ Pending st fuel patience w mode := by
  constructor
  · intro h
    rcases works_or_pending st hi fuel patience w mode with ⟨report, code, t, hworks⟩ | hpending
    · obtain ⟨ending, h', -⟩ := hworks.work hi hclient
      cases h.symm.trans h'
    · exact hpending
  · exact fun h => h.work hi

/-- A shutdown with the code zero was completed, and its one backup succeeded. -/
theorem drain_clean {g : Guard σ} {trigger : Trigger} {s : Session σ} {r : Report}
    (h : g.drain trigger patience s = some (r, t)) (hs : s.events = []) (hr : r.exitCode = 0) :
    r.finalPhase = .completed ∧ r.backup = some .success ∧
      Event.outcomes t.events = [.success] := by
  obtain ⟨p, as, r₁, r₂, hc, rfl, hp⟩ := Guard.drain_course h
  have hacc := hc.accounted r₁ r₂ s.clock
  obtain ⟨hphase, hout⟩ := hacc.zero_iff.mp hr
  have hbackup : p.report.backup.toList = [.success] := hacc.backup.trans hout
  have hevents := hp.events
  rw [hs, List.nil_append] at hevents
  exact ⟨hphase, Option.toList_eq_singleton_iff.mp hbackup, hevents ▸ hout⟩

/-- A scheduled backup that succeeded is the only one of its session. -/
theorem archiveScheduled_clean {g : Guard σ}
    (h : g.archiveScheduled { world := w } = (.success, t)) :
    Event.outcomes t.events = [.success] := by
  obtain ⟨o, as, s₁, hr, hway, hacts⟩ := g.archiveScheduled_enacts { world := w }
  cases hr.symm.trans h
  have hevents : t.events = [] ++ Act.events 0 as := hacts.plays.events
  rw [hevents, List.nil_append, Act.outcomes_events]
  cases hway with
  | archived => rfl

/-- The code zero says that nothing was left undone. -/
theorem Works.clean (h : Works st fuel patience w mode report code t) (hcode : code = 0) :
    (∀ r ∈ report, r.finalPhase = .completed ∧ r.backup = some .success) ∧
    ∀ o ∈ Event.outcomes t.events, o = .success := by
  cases h with
  | drained h =>
    obtain ⟨hphase, hbackup, hout⟩ := drain_clean h rfl hcode
    simp [hphase, hbackup, hout]
  | archived h => simp [archiveScheduled_clean h]
  | unarchived _ => cases hcode
  | clientless _ => cases hcode
  | cancelled _ _ _ _ => exact ⟨nofun, nofun⟩
  | noticed _ _ _ h =>
    obtain ⟨hphase, hbackup, hout⟩ := drain_clean h rfl hcode
    simp [hphase, hbackup, hout]

theorem Report.exitCode_le (r : Report) : r.exitCode ≤ 2 := by
  unfold Report.exitCode
  split
  · split <;> decide
  · decide

/-- No work ends with the code of a guard that was refused. -/
theorem Works.code_le (h : Works st fuel patience w mode report code t) : code ≤ 3 := by
  cases h with
  | drained | noticed => exact (Report.exitCode_le _).trans (by decide)
  | archived | unarchived | clientless | cancelled => decide

end Work

/-! ## All exits -/

/-- Every way in which the program can end, once its command line has been read. -/
structure Exits (around : Surroundings Machine) (arguments : List String) (o : Options)
    (fuel patience : Nat) (m : Machine) : Prop where
  cases : (∃ code m₁, Halts around o m code m₁) ∨ ∃ s m₁, Ready around o m s m₁
  /-- What ends before a guard is at work ends so whatever the guard would work with, its lock
  included, and nothing is in its log. -/
  halted : ∀ code m₁, Halts around o m code m₁ → ∃ e : Exit, e.code = code ∧
    ∀ station, CommandLine.run { around with station } arguments fuel patience m =
      some (e, { world := m₁ })
  /-- A guard that does not get the lock does nothing. -/
  refused : ∀ s m₁ f m₂, Ready around o m s m₁ →
    m₁.acquire o.serverRoot o.mode = (.error f, m₂) →
    ∃ e : Exit, CommandLine.run around arguments fuel patience m = some (e, { world := m₂ }) ∧
      ((e.code = 4 ∧ ∃ path pid, f = .alreadyRunning path pid) ∨
        (e.code = 3 ∧ ∀ path pid, f ≠ .alreadyRunning path pid))
  /-- With the lock it does its work, and gives the lock up. -/
  worked : ∀ s m₁ held m₂, Ready around o m s m₁ →
    m₁.acquire o.serverRoot o.mode = (.ok held, m₂) → ∀ code t,
    (∃ e : Exit, CommandLine.run around arguments fuel patience m = some (e, t) ∧ e.code = code) ↔
    ∃ report t₀, Works (around.station o s) fuel patience m₂ o.mode report code t₀ ∧
      t = { t₀ with world := t₀.world.release held }
  /-- It comes to no end exactly if the server never exits, or if the watch goes on. -/
  pending : ∀ s m₁ held m₂, Ready around o m s m₁ →
    m₁.acquire o.serverRoot o.mode = (.ok held, m₂) →
    (CommandLine.run around arguments fuel patience m = none ↔
      Pending (around.station o s) fuel patience m₂ o.mode)
  /-- No file is locked for it any more, and the lock file is gone. -/
  released : ∀ s m₁ held m₂, Ready around o m s m₁ →
    m₁.acquire o.serverRoot o.mode = (.ok held, m₂) → ∀ e t,
    CommandLine.run around arguments fuel patience m = some (e, t) →
      (∀ n, t.world.locks n ≠ some held.holder) ∧ t.world.read? held.path = none
  /-- The code 4 is that of a guard that was refused, and of no other. -/
  running : (∃ e t, CommandLine.run around arguments fuel patience m = some (e, t) ∧ e.code = 4) ↔
    ∃ s m₁ path pid m₂, Ready around o m s m₁ ∧
      m₁.acquire o.serverRoot o.mode = (.error (.alreadyRunning path pid), m₂)
  /-- The code 0 is that of a sequence that was completed, and of no backup that failed. -/
  clean : ∀ s m₁ held m₂, Ready around o m s m₁ →
    m₁.acquire o.serverRoot o.mode = (.ok held, m₂) → ∀ report t₀,
    Works (around.station o s) fuel patience m₂ o.mode report 0 t₀ →
      (∀ r ∈ report, r.finalPhase = .completed ∧ r.backup = some .success) ∧
      ∀ outcome ∈ Event.outcomes t₀.events, outcome = .success

section Exits

variable {around : Surroundings Machine} {arguments : List String} {o : Options}
  {fuel patience : Nat} {m m₁ m₂ : Machine} {s : Settings}

theorem CommandLine.run_of_read (hread : CommandLine.read arguments = .ok o) :
    CommandLine.run around arguments fuel patience m = o.launch around fuel patience m := by
  unfold CommandLine.run
  rw [hread]

theorem Ready.run_refused (h : around.Faithful) (hready : Ready around o m s m₁)
    (hprint : o.printConfig = false) {f : Failure}
    (hlock : m₁.acquire o.serverRoot o.mode = (.error f, m₂)) :
    o.launch around fuel patience m =
      some ((Exit.ofEnding (.failed f)).afterSaying o.formatWarning, { world := m₂ }) := by
  rw [hready.launch hprint, Station.run, h.acquire, hlock]
  rfl

theorem Ready.run_worked (h : around.Faithful) (hready : Ready around o m s m₁)
    (hprint : o.printConfig = false) {held : HeldLock}
    (hlock : m₁.acquire o.serverRoot o.mode = (.ok held, m₂)) :
    o.launch around fuel patience m =
      ((around.station o s).work o.mode fuel patience m₂).map fun (ending, t) =>
        ((Exit.ofEnding ending).afterSaying o.formatWarning,
          { t with world := t.world.release held }) := by
  rw [hready.launch hprint, Station.run, h.acquire, hlock]
  simp only [Option.map_map, h.release]
  rfl

/-- The code where a guard that cannot go on tells why. -/
theorem code_failed (f : Failure) :
    ((Exit.ofEnding (.failed f)).code = 4 ∧ ∃ path pid, f = .alreadyRunning path pid) ∨
    ((Exit.ofEnding (.failed f)).code = 3 ∧ ∀ path pid, f ≠ .alreadyRunning path pid) := by
  cases f with
  | alreadyRunning path pid => exact .inl ⟨rfl, path, pid, rfl⟩
  | _ => exact .inr ⟨rfl, nofun⟩

theorem Ready.interval_ne_zero (h : around.Faithful) (hready : Ready around o m s m₁) :
    (around.station o s).interval ≠ 0 := by
  rw [h.interval]
  exact pollInterval_ne_zero hready.sense

theorem Ready.worked_iff (h : around.Faithful) (hready : Ready around o m s m₁)
    (hprint : o.printConfig = false) {held : HeldLock}
    (hlock : m₁.acquire o.serverRoot o.mode = (.ok held, m₂)) {code : Nat} {t : Session Machine} :
    (∃ e : Exit, o.launch around fuel patience m = some (e, t) ∧ e.code = code) ↔
    ∃ report t₀, Works (around.station o s) fuel patience m₂ o.mode report code t₀ ∧
      t = { t₀ with world := t₀.world.release held } := by
  have hi := hready.interval_ne_zero h
  rw [hready.run_worked h hprint hlock]
  constructor
  · rintro ⟨e, hrun, hcode⟩
    obtain ⟨⟨ending, t₀⟩, hw, he⟩ := Option.map_eq_some_iff.mp hrun
    cases he
    obtain ⟨report, hworks⟩ := (work_iff hi (h.client o s)).mp ⟨ending, hw, hcode⟩
    exact ⟨report, t₀, hworks, rfl⟩
  · rintro ⟨report, t₀, hworks, rfl⟩
    obtain ⟨ending, hw, hcode⟩ := (work_iff hi (h.client o s)).mpr ⟨report, hworks⟩
    refine ⟨(Exit.ofEnding ending).afterSaying o.formatWarning, ?_, hcode⟩
    rw [hw, Option.map_some]

theorem Ready.pending_iff (h : around.Faithful) (hready : Ready around o m s m₁)
    (hprint : o.printConfig = false) {held : HeldLock}
    (hlock : m₁.acquire o.serverRoot o.mode = (.ok held, m₂)) :
    o.launch around fuel patience m = none ↔
      Pending (around.station o s) fuel patience m₂ o.mode := by
  rw [hready.run_worked h hprint hlock, Option.map_eq_none_iff]
  exact work_eq_none_iff (hready.interval_ne_zero h) (h.client o s)

theorem Halts.code_ne {code : Nat} (h : Halts around o m code m₁) : code ≠ 4 := by
  cases h <;> decide

theorem running_iff (h : around.Faithful) (hprint : o.printConfig = false) :
    (∃ e t, o.launch around fuel patience m = some (e, t) ∧ e.code = 4) ↔
    ∃ s m₁ path pid m₂, Ready around o m s m₁ ∧
      m₁.acquire o.serverRoot o.mode = (.error (.alreadyRunning path pid), m₂) := by
  constructor
  · rintro ⟨e, t, hrun, hcode⟩
    rcases halts_or_ready around o m with ⟨code, m₁, hhalts⟩ | ⟨s, m₁, hready⟩
    · obtain ⟨e', rfl, hlaunch⟩ := hhalts.launch hprint
      cases (hlaunch around.station fuel patience).symm.trans hrun
      exact absurd hcode hhalts.code_ne
    · rcases hlock : m₁.acquire o.serverRoot o.mode with ⟨f | held, m₂⟩
      · cases (hready.run_refused h hprint hlock).symm.trans hrun
        rcases code_failed f with ⟨-, path, pid, rfl⟩ | ⟨hthree, -⟩
        · exact ⟨s, m₁, path, pid, m₂, hready, hlock⟩
        · exact absurd (hthree.symm.trans hcode) (by decide)
      · obtain ⟨report, t₀, hworks, -⟩ := (hready.worked_iff h hprint hlock).mp ⟨e, hrun, hcode⟩
        exact absurd hworks.code_le (by decide)
  · rintro ⟨s, m₁, path, pid, m₂, hready, hlock⟩
    exact ⟨_, _, hready.run_refused h hprint hlock, rfl⟩

/-- Every run of the program whose command line asks for a guard or a check ends with the code that
says how far it came. -/
theorem CommandLine.run_exits (h : around.Faithful) (hread : CommandLine.read arguments = .ok o)
    (hprint : o.printConfig = false) (fuel patience : Nat) (m : Machine) :
    Exits around arguments o fuel patience m := by
  constructor
  case cases => exact halts_or_ready around o m
  case halted =>
    intro code m₁ hhalts
    obtain ⟨e, hcode, hlaunch⟩ := hhalts.launch hprint
    refine ⟨e, hcode, fun station => ?_⟩
    rw [run_of_read hread]
    exact hlaunch station fuel patience
  case refused =>
    intro s m₁ f m₂ hready hlock
    rw [run_of_read hread]
    exact ⟨_, hready.run_refused h hprint hlock, code_failed f⟩
  case worked =>
    intro s m₁ held m₂ hready hlock code t
    rw [run_of_read hread]
    exact hready.worked_iff h hprint hlock
  case pending =>
    intro s m₁ held m₂ hready hlock
    rw [run_of_read hread]
    exact hready.pending_iff h hprint hlock
  case released =>
    intro s m₁ held m₂ hready hlock e t hrun
    rw [run_of_read hread] at hrun
    obtain ⟨report, t₀, -, rfl⟩ := (hready.worked_iff h hprint hlock).mp ⟨e, hrun, rfl⟩
    exact ⟨t₀.world.locks_release held, t₀.world.read?_release held⟩
  case running =>
    rw [run_of_read hread]
    exact running_iff h hprint
  case clean => exact fun s m₁ held m₂ _ _ report t₀ hworks => hworks.clean rfl

end Exits

/-- A guard that finds the lock of another process in its way. -/
theorem CommandLine.run_exits_refused :
    let held : LockRecord := ⟨42, .daemon, "2030-01-01T00:00:00+00:00"⟩
    let m : Machine :=
      { files := { entries := [([".spotguard.lock"], .file 0 held.encode 0o600)], nextNumber := 1 }
        locks := fun n => if n = 0 then some 5 else none }
    let o : Options := { serverRoot := ".", mode := .active }
    let around := Machine.surroundings []
    around.Faithful ∧ CommandLine.read [".", "--mode", "active"] = .ok o ∧ o.printConfig = false ∧
      Exits around [".", "--mode", "active"] o 0 3 m ∧
      ∃ e t, CommandLine.run around [".", "--mode", "active"] 0 3 m = some (e, t) ∧ e.code = 4 := by
  intro held m o around
  have h : around.Faithful := Machine.surroundings_faithful []
  have hread : CommandLine.read [".", "--mode", "active"] = .ok o := rfl
  have hexits := CommandLine.run_exits h hread rfl 0 3 m
  have hload : around.load o m = .ok {} := by decide +kernel
  have hready : Ready around o m {} m := ⟨hload, rfl, by decide +kernel, rfl⟩
  have hlock : (m.acquire "." .active).1 = .error (.alreadyRunning "./.spotguard.lock" 42) := by
    decide +kernel
  exact ⟨h, hread, rfl, hexits, hexits.running.mpr ⟨{}, m, _, 42, _, hready, Prod.ext hlock rfl⟩⟩

/-- The path of the log file is a directory, so logging cannot be set up, but the code is not 3. -/
theorem CommandLine.run_log_directory :
    let m : Machine := { files := { entries := [(["logs"], .directory)] } }
    let arguments := [".", "--validate-config", "--log-file", "logs"]
    let o : Options := { serverRoot := ".", validateConfig := true, logFile := some "logs" }
    let around := Machine.surroundings []
    CommandLine.read arguments = .ok o ∧ o.printConfig = false ∧ around.load o m = .ok {} ∧
      (∃ f, around.openLog o {} m = .error f) ∧
      ∃ e t, CommandLine.run around arguments 0 0 m = some (e, t) ∧ e.code ≠ 3 := by
  intro m arguments o around
  have hload : around.load o m = .ok {} := by decide +kernel
  have hfault : (around.openLog o {} m).map (fun _ => ()) = .error (.noFile .isDirectory) := by
    decide +kernel
  rcases hlog : around.openLog o {} m with f | m₁ <;> rw [hlog] at hfault <;> cases hfault
  obtain ⟨e, hcode, hrun⟩ := (Halts.unopened hload hlog).launch rfl
  refine ⟨rfl, rfl, hload, ⟨_, rfl⟩, e, _, hrun around.station 0 0, ?_⟩
  rw [hcode]
  decide

end DrainGuard
