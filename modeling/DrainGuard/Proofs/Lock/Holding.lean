import DrainGuard.Proofs.Lock.Refusal

/-!
# A lock that is held

A guard that holds the lock has its record in the file that the name stands for, whatever the file
held before. Other guards may have other files open and locked, empty them and write to them, or
give them up; none of that reaches the lock file.

- **The lock file** (`System.Intact`, `System.Reachable.intact`): the file of a guard that holds the
  lock. It stays as it is when another guard takes a step (`System.Reachable.intact_next`).
- **Going for the lock** (`System.acquire`, `System.acquire_alone`): a guard that goes for the lock
  while no other one does anything takes a run of steps of its own.
- **Answers** (`attempt_locked`, `attempt_free`): it is refused if the name's file is locked, and
  gets the lock if no file is.
- **All together** (`System.Reachable.holding_intact`).
-/

namespace DrainGuard.Lock

/-! ## Going for the lock -/

section Attempt

variable {b g : GuardId} {record : LockRecord} {s : Site} {f : FileId}

/-- A guard that finds the name's file locked changes nothing, and is told of the process that the
file names. -/
theorem attempt_locked (hc : s.current = some f) (ho : s.owner f = some g) :
    attempt b record s = (s, .refused s.named) := by
  simp [attempt, attemptSteps, advance, Stage.next?, perform, hc, ho]

/-- What a guard on its own makes of a site on its way from the file it has opened to the lock. -/
def Site.taken (s : Site) (f : FileId) (b : GuardId) (record : LockRecord) : Site :=
  ((s.lock f b).write f []).overwrite f record.encode

theorem Site.taken_content : (s.taken f b record).content f = record.encode := by
  simp [taken, overwrite, write]

theorem Site.taken_owner : (s.taken f b record).owner f = some b := by
  simp [taken, overwrite, write, lock]

/-- A guard that has opened the name's file gets the lock if no guard has the file locked. -/
theorem advance_opened (hc : s.current = some f) (ho : s.owner f = none) :
    advance b record 4 s (.opened f) = (s.taken f b record, .holding f) := by
  have hcur : (s.lock f b).isCurrent f = true := Site.isCurrent_iff.mpr ⟨f, hc, rfl⟩
  simp [advance, Stage.next?, perform, ho, hcur, Site.taken]

/-- A guard gets the lock if no file is locked. -/
theorem attempt_free (ho : ∀ f, s.owner f = none) : ∃ t f, attempt b record s = (t, .holding f) ∧
    t.current = some f ∧ t.content f = record.encode ∧ t.owner f = some b := by
  cases hc : s.current with
  | some f =>
    have hstart : attempt b record s = advance b record 4 s (.opened f) := by
      simp [attempt, attemptSteps, advance, Stage.next?, perform, hc]
    exact ⟨_, f, hstart.trans (advance_opened hc (ho f)), hc, Site.taken_content, Site.taken_owner⟩
  | none =>
    have hstart : attempt b record s = advance b record 4 s.make (.opened s.fresh) := by
      simp [attempt, attemptSteps, advance, Stage.next?, perform, hc]
    exact ⟨_, s.fresh, hstart.trans (advance_opened rfl (ho s.fresh)), rfl, Site.taken_content,
      Site.taken_owner⟩

end Attempt

namespace System

variable {records : GuardId → LockRecord} {y z : System} {b g h : GuardId} {a : Action}
  {f : FileId}

/-- The system after one guard has changed the site and has come to a stage. -/
def after (y : System) (b : GuardId) (r : Site × Stage) : System :=
  ⟨r.1, fun h => if h = b then r.2 else y.stage h⟩

/-- A guard goes for the lock while no other guard does anything. -/
def acquire (records : GuardId → LockRecord) (b : GuardId) (y : System) : System :=
  y.after b (attempt b (records b) y.site)

/-- One guard takes all steps from a system to another. -/
def Alone (records : GuardId → LockRecord) (b : GuardId) (y z : System) : Prop :=
  ∃ acts : List (GuardId × Action), (∀ act ∈ acts, act.1 = b) ∧ y.run records acts = some z

theorem after_self (y : System) (b : GuardId) : y.after b (y.site, y.stage b) = y :=
  congrArg (System.mk y.site) (funext fun h => by split <;> simp_all)

theorem after_after (y : System) (b : GuardId) (r r' : Site × Stage) :
    (y.after b r).after b r' = y.after b r' :=
  congrArg (System.mk r'.1) (funext fun h => by simp only [after]; split <;> rfl)

/-- What a guard does towards the lock is a run of steps of its own. -/
theorem advance_alone (fuel : Nat) (y : System) :
    Alone records b y (y.after b (advance b (records b) fuel y.site (y.stage b))) := by
  induction fuel generalizing y with
  | zero => exact ⟨[], (fun _ h => nomatch h), congrArg some (y.after_self b).symm⟩
  | succ fuel ih =>
    unfold advance
    split
    · next s stage hp =>
      obtain ⟨a, -, hp⟩ := Option.bind_eq_some_iff.mp hp
      have hs : y.step records b a = some (y.after b (s, stage)) := congrArg (Option.map _) hp
      have hstage : (y.after b (s, stage)).stage b = stage := if_pos rfl
      obtain ⟨acts, hall, hr⟩ := ih (y.after b (s, stage))
      rw [hstage, after_after] at hr
      refine ⟨(b, a) :: acts, List.forall_mem_cons.mpr ⟨rfl, hall⟩, ?_⟩
      rw [run, hs]
      exact hr
    · exact ⟨[], (fun _ h => nomatch h), congrArg some (y.after_self b).symm⟩

theorem acquire_alone (hb : y.stage b = .idle) : Alone records b y (y.acquire records b) := by
  have h : Alone records b y _ := advance_alone attemptSteps y
  rwa [hb] at h

/-! ## The lock file of a holder -/

/-- The lock file is the guard's: the name stands for it, it holds the guard's record and nothing
else, and the guard has it locked. -/
structure Intact (records : GuardId → LockRecord) (y : System) (g : GuardId) (f : FileId) :
    Prop where
  named : y.site.current = some f
  written : y.site.content f = (records g).encode
  locked : y.site.owner f = some g

theorem Reachable.intact (hy : Reachable records y) (hg : y.stage g = .holding f) :
    Intact records y g f where
  named := (hy.sound.fits g).confirmed f (by rw [hg]; rfl)
  written := hy.keeps g f _ (by rw [hg]; rfl)
  locked := ((hy.sound.fits g).owner f).mpr (by rw [hg]; rfl)

/-- A step of another guard leaves the lock file as it is. -/
theorem Reachable.intact_next (hy : Reachable records y) (hg : y.stage g = .holding f)
    (hn : h ≠ g) (hs : y.step records h a = some z) :
    z.stage g = .holding f ∧ Intact records z g f := by
  have hi := hy.intact hg
  obtain ⟨hp, hother⟩ := performs_of_step hs
  have hz : z.stage g = .holding f := (hother g hn.symm).trans hg
  have hfit : Fits y.site g (.holding f) := hg ▸ hy.sound.fits g
  -- the name stands for a file, so no new one is made
  have hfits : Fits z.site g (.holding f) :=
    hp.fits_other hn.symm (hy.sound.fits h) hfit fun _ hc => by
      rw [hi.named] at hc
      cases hc
  have hkeeps : Keeps z.site (records g) (.holding f) :=
    hp.keeps_other hn.symm (hy.sound.fits h) hfit (hg ▸ hy.keeps g)
  exact ⟨hz, hfits.confirmed f rfl, hkeeps f _ rfl, (hfits.owner f).mpr rfl⟩

/-- A guard that goes for the lock while another holds it is refused and told who does, and that is
all. -/
theorem Intact.acquire (hi : Intact records y g f) (hpid : (records g).pid < 0x100000000)
    (b : GuardId) :
    y.acquire records b = y.after b (y.site, .refused (records g).pid) := by
  have hnamed : y.site.named = (records g).pid := by
    rw [Site.named, hi.named]
    exact (congrArg LockRecord.pidIn hi.written).trans (LockRecord.pidIn_encode hpid)
  rw [System.acquire, attempt_locked hi.named hi.locked, hnamed]

/-- No file is locked if no guard has one open. -/
theorem Reachable.unlocked (hy : Reachable records y) (hno : ∀ h, (y.stage h).file? = none)
    (f : FileId) : y.site.owner f = none := by
  cases ho : y.site.owner f with
  | none => rfl
  | some g =>
    have hf := Stage.file?_of_locked? (((hy.sound.fits g).owner f).mp ho)
    rw [hno g] at hf
    cases hf

/-- A guard gets the lock if no guard has a file open. -/
theorem Reachable.acquire_free (hy : Reachable records y) (hno : ∀ h, (y.stage h).file? = none)
    (b : GuardId) : ∃ f, (y.acquire records b).stage b = .holding f ∧
      Intact records (y.acquire records b) b f := by
  obtain ⟨t, f, ht, hc, hw, ho⟩ := attempt_free (hy.unlocked hno)
  rw [acquire, ht]
  exact ⟨f, if_pos rfl, hc, hw, ho⟩

/-! ## All together -/

/-- The lock file of a guard that holds the lock is its own, and no step of another guard changes
that. A guard that goes for the lock without others in between is refused by the holder and changes
nothing; it gets the lock if no other guard is on its way to the lock or from it. -/
theorem Reachable.holding_intact (hpid : ∀ g, (records g).pid < 0x100000000)
    (hy : Reachable records y) :
    (∀ g f, y.stage g = .holding f → Intact records y g f ∧
      (∀ h a z, h ≠ g → y.step records h a = some z →
        z.stage g = .holding f ∧ Intact records z g f) ∧
      ∀ b, y.stage b = .idle → Alone records b y (y.acquire records b) ∧
        y.acquire records b = y.after b (y.site, .refused (records g).pid)) ∧
    ∀ b, y.stage b = .idle → (∀ h, h ≠ b → (y.stage h).file? = none) →
      Alone records b y (y.acquire records b) ∧
      ∃ f, (y.acquire records b).stage b = .holding f ∧
        Intact records (y.acquire records b) b f := by
  constructor
  · intro g f hg
    have hi := hy.intact hg
    exact ⟨hi, fun h a z hn hs => hy.intact_next hg hn hs,
      fun b hb => ⟨acquire_alone hb, hi.acquire (hpid g) b⟩⟩
  · intro b hb hothers
    have hno (h : GuardId) : (y.stage h).file? = none := by
      by_cases hh : h = b
      · rw [hh, hb]
        rfl
      · exact hothers h hh
    exact ⟨acquire_alone hb, hy.acquire_free hno b⟩

/-- Guard 1 gets the lock over the garbage in the file. Guard 0, which has got it instead, keeps it
when guard 1 comes, and guard 1 is told of guard 0. -/
theorem holding_intact_leftover : Intact pair (leftover.acquire pair 1) 1 0 ∧
    ∃ y, leftover.run pair [(0, .enter), (0, .lock), (0, .verify), (0, .empty), (0, .write)] =
        some y ∧ Intact pair y 0 0 ∧ y.acquire pair 1 = y.after 1 (y.site, .refused 811) := by
  have hi : leftover.Initial := ⟨fun _ => rfl, fun _ => rfl, fun _ h => by cases h; decide⟩
  obtain ⟨-, f, hst, hintact⟩ :=
    (Reachable.start hi).holding_intact pair_pid_lt |>.2 1 rfl fun _ _ => rfl
  have hf : (leftover.acquire pair 1).stage 1 = .holding 0 := rfl
  obtain rfl : f = 0 := Stage.holding.inj (hst.symm.trans hf)
  obtain ⟨y, hr, hy₀, hy₁⟩ : ∃ y, leftover.run pair [(0, .enter), (0, .lock), (0, .verify),
      (0, .empty), (0, .write)] = some y ∧ y.stage 0 = .holding 0 ∧ y.stage 1 = .idle :=
    ⟨_, rfl, rfl, rfl⟩
  have hy := (Reachable.start hi).run Function.injective_id hr
  obtain ⟨hown, -, hrefused⟩ := (hy.holding_intact pair_pid_lt).1 0 0 hy₀
  exact ⟨hintact, y, hr, hown, (hrefused 1 hy₁).2⟩

end System

end DrainGuard.Lock
