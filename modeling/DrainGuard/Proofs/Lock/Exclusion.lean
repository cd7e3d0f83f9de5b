import Mathlib.Logic.Function.Basic
import DrainGuard.Proofs.Lock.Step

/-!
# Only one guard holds the lock

The name of the lock file is taken away before the file is closed, so guards can have files open
and locked that no name stands for. What keeps two of them from holding the lock is that a guard
compares the file it has locked with the one the name stands for.

- **One guard** (`Fits`): what the site says of a guard agrees with where the guard is. A file that
  a guard has confirmed stays the one that the name stands for.
- **Steps** (`Performs.fits`, `Performs.fits_other`): a step keeps this of the guard that takes it,
  and of every other guard. Only the guard that holds the lock takes the name away, and then no
  other one has confirmed a file. A new file is not taken for one that is still open, as its number
  is another.
- **Systems** (`System.Sound`, `System.Reachable.sound`): it holds of all guards, after any steps.
- **Exclusion** (`System.Reachable.holder_unique`).
-/

namespace DrainGuard.Lock

/-- What the site says of a guard agrees with where the guard is. -/
structure Fits (s : Site) (g : GuardId) (stage : Stage) : Prop where
  owner : ∀ f, s.owner f = some g ↔ stage.locked? = some f
  /-- A file that was confirmed is the one that the name stands for. -/
  confirmed : ∀ f, stage.confirmed? = some f → s.current = some f
  /-- A file that is open is not taken for another. -/
  distinct : ∀ f c, stage.file? = some f → s.current = some c → s.inode c = s.inode f → c = f
  bounded : ∀ f, stage.file? = some f → f < s.fresh

section Steps

variable {guard g : GuardId} {record : LockRecord} {a : Action} {s s' : Site}
  {stage stage' other : Stage} {f : FileId}

/-- A guard without an open file, after all its files were closed. -/
theorem Fits.of_closed (h : stage.file? = none) : Fits (s.close guard) guard stage where
  owner f := by
    rw [Site.close_owner]
    refine iff_of_false (fun hc => hc.1 rfl) fun hl => ?_
    rw [Stage.file?_of_locked? hl] at h
    cases h
  confirmed f hc := by
    rw [Stage.file?_of_locked? (Stage.locked?_of_confirmed? hc)] at h
    cases h
  distinct f c hf := by
    rw [h] at hf
    cases hf
  bounded f hf := by
    rw [h] at hf
    cases hf

/-- A step that leaves the site as it is and confirms no file. -/
theorem Fits.of_stage (hf : Fits s g stage) (hl : stage'.locked? = stage.locked?)
    (hs : ∀ f, stage'.file? = some f → stage.file? = some f) (hc : stage'.confirmed? = none) :
    Fits s g stage' where
  owner f := by rw [hl, hf.owner]
  confirmed f h := by
    rw [hc] at h
    cases h
  distinct f c h := hf.distinct f c (hs f h)
  bounded f h := hf.bounded f (hs f h)

/-- The guard that takes a step. -/
theorem Performs.fits (h : Performs guard record s a stage s' stage') (hf : Fits s guard stage)
    (hb : ∀ c, s.current = some c → c < s.fresh) : Fits s' guard stage' := by
  cases h with
  | @find f hc =>
    refine ⟨hf.owner, (fun _ h => nomatch h), ?_, ?_⟩
    · rintro _ c ⟨⟩ hc' -
      rw [hc] at hc'
      exact (Option.some.inj hc').symm
    · rintro _ ⟨⟩
      exact hb f hc
  | make hc =>
    refine ⟨hf.owner, (fun _ h => nomatch h), ?_, ?_⟩
    · rintro _ c ⟨⟩ hc' -
      exact (Option.some.inj hc').symm
    · rintro _ ⟨⟩
      exact Nat.lt_succ_self _
  | @take f ho =>
    refine ⟨fun f' => ?_, (fun _ h => nomatch h), hf.distinct, hf.bounded⟩
    rw [Site.lock_owner ho, hf.owner]
    simp [Stage.locked?, eq_comm]
  | @confirm f hc =>
    refine ⟨hf.owner, ?_, hf.distinct, hf.bounded⟩
    rintro _ ⟨⟩
    obtain ⟨c, hcur, hi⟩ := Site.isCurrent_iff.mp hc
    rw [hcur, hf.distinct f c rfl hcur hi]
  | yield _ | miss _ | distrust | abandon => exact hf.of_stage rfl (fun _ h => h) rfl
  | refuse | misread => exact hf.of_stage rfl (fun _ h => nomatch h) rfl
  | empty | write => exact ⟨hf.owner, hf.confirmed, hf.distinct, hf.bounded⟩
  | unlink => exact ⟨hf.owner, (fun _ h => nomatch h), (fun _ _ _ h => nomatch h), hf.bounded⟩
  | retry | leave | tear n | fail _ | crash _ => exact .of_closed rfl

/-- A guard that does not take the step. -/
theorem Performs.fits_other (h : Performs guard record s a stage s' stage') (hn : g ≠ guard)
    (hf : Fits s guard stage) (hg : Fits s g other)
    (os : a = .enter → s.current = none → ∀ f, other.file? = some f → s.inode f ≠ s.inode s.fresh) :
    Fits s' g other := by
  have hclose (s : Site) (hg : Fits s g other) : Fits (s.close guard) g other := by
    refine ⟨fun f => ?_, hg.confirmed, hg.distinct, hg.bounded⟩
    rw [Site.close_owner, hg.owner]
    exact and_iff_right hn
  cases h with
  | make hc =>
    refine ⟨hg.owner, fun f h => ?_, ?_, fun f h => Nat.lt_succ_of_lt (hg.bounded f h)⟩
    · have hcur := hg.confirmed f h
      rw [hc] at hcur
      cases hcur
    · rintro f _ h ⟨⟩ hi
      exact absurd hi.symm (os rfl hc f h)
  | @take f ho =>
    refine ⟨fun f' => ?_, hg.confirmed, hg.distinct, hg.bounded⟩
    rw [Site.lock_owner ho, hg.owner]
    exact or_iff_right fun h => hn h.2
  | @unlink f =>
    -- whoever takes the name away has the name's file locked, so no other guard has confirmed it
    refine ⟨hg.owner, fun f' h => ?_, (fun _ _ _ h => nomatch h), hg.bounded⟩
    have hcur : some f' = some f := (hg.confirmed f' h).symm.trans (hf.confirmed f rfl)
    have hown := (hg.owner f').mpr (Stage.locked?_of_confirmed? h)
    rw [Option.some.inj hcur, (hf.owner f).mpr rfl] at hown
    exact absurd (Option.some.inj hown).symm hn
  | find _ | yield _ | confirm _ | miss _ | refuse | distrust | misread | abandon => exact hg
  | empty | write => exact ⟨hg.owner, hg.confirmed, hg.distinct, hg.bounded⟩
  | tear n => exact hclose _ ⟨hg.owner, hg.confirmed, hg.distinct, hg.bounded⟩
  | retry | leave | fail _ | crash _ => exact hclose s hg

theorem Performs.inode_eq (h : Performs guard record s a stage s' stage') : s'.inode = s.inode := by
  cases h <;> rfl

/-- The name never stands for a file that is still to be made. -/
theorem Performs.current_lt (h : Performs guard record s a stage s' stage')
    (hb : ∀ c, s.current = some c → c < s.fresh) : ∀ c, s'.current = some c → c < s'.fresh := by
  cases h with
  | make hc =>
    rintro _ ⟨⟩
    exact Nat.lt_succ_self _
  | unlink => exact fun _ h => nomatch h
  | _ => exact hb

end Steps

namespace System

variable {records : GuardId → LockRecord} {y z : System} {g h : GuardId} {a : Action}
  {f f' : FileId}

/-- The site agrees with where all guards are. -/
structure Sound (y : System) : Prop where
  fits : ∀ g, Fits y.site g (y.stage g)
  bounded : ∀ c, y.site.current = some c → c < y.site.fresh

theorem Initial.sound (hy : y.Initial) : y.Sound where
  fits g := by
    rw [hy.1 g]
    refine ⟨fun f => ?_, (fun _ h => nomatch h), (fun _ _ h => nomatch h), (fun _ h => nomatch h)⟩
    rw [hy.2.1 f]
    exact iff_of_false (fun h => nomatch h) fun h => nomatch h
  bounded := hy.2.2

/-- What a step of a system does. -/
theorem step_eq_some (hs : y.step records g a = some z) :
    ∃ s stage, Performs g (records g) y.site a (y.stage g) s stage ∧
      z = ⟨s, fun h => if h = g then stage else y.stage h⟩ := by
  obtain ⟨⟨s, stage⟩, hp, rfl⟩ := Option.map_eq_some_iff.mp hs
  exact ⟨s, stage, perform_eq_some.mp hp, rfl⟩

theorem Sound.next (hy : y.Sound) (os : y.Admits a) (hs : y.step records g a = some z) :
    z.Sound := by
  obtain ⟨s, stage, hp, rfl⟩ := step_eq_some hs
  refine ⟨fun h => ?_, hp.current_lt hy.bounded⟩
  by_cases hg : h = g
  · simp only [hg, ↓reduceIte]
    exact hp.fits (hy.fits g) hy.bounded
  · simp only [hg, ↓reduceIte]
    exact hp.fits_other hg (hy.fits g) (hy.fits h) fun ha hc f => os ha hc h f

theorem Reachable.sound (hy : Reachable records y) : y.Sound := by
  induction hy with
  | start hi => exact hi.sound
  | next _ os hs ih => exact ih.next os hs

/-- A system in which no two files ever have the same number keeps the promise. -/
theorem Sound.admits (hy : y.Sound) (hi : Function.Injective y.site.inode) (a : Action) :
    y.Admits a :=
  fun _ _ g f hf he => absurd (hi he) (Nat.ne_of_lt ((hy.fits g).bounded f hf))

/-- Steps in any order lead from a reachable system to a reachable one, if no two files ever have
the same number. -/
theorem Reachable.run {acts : List (GuardId × Action)} (hy : Reachable records y)
    (hi : Function.Injective y.site.inode) (hr : y.run records acts = some z) :
    Reachable records z := by
  induction acts generalizing y with
  | nil =>
    cases hr
    exact hy
  | cons act acts ih =>
    obtain ⟨x, hx, hr⟩ := Option.bind_eq_some_iff.mp hr
    refine ih (hy.next (hy.sound.admits hi act.2) hx) ?_ hr
    obtain ⟨s, stage, hp, rfl⟩ := step_eq_some hx
    rw [hp.inode_eq]
    exact hi

/-- Only one guard holds the lock, in whatever order guards take their steps. -/
theorem Reachable.holder_unique (hy : Reachable records y) (hg : y.stage g = .holding f)
    (hh : y.stage h = .holding f') : g = h := by
  have fits := hy.sound.fits
  have hf : some f = some f' :=
    ((fits g).confirmed f (by rw [hg]; rfl)).symm.trans ((fits h).confirmed f' (by rw [hh]; rfl))
  have hog : y.site.owner f = some g := ((fits g).owner f).mpr (by rw [hg]; rfl)
  have hoh : y.site.owner f' = some h := ((fits h).owner f').mpr (by rw [hh]; rfl)
  rw [Option.some.inj hf, hoh] at hog
  exact (Option.some.inj hog).symm

/-- A lock file that some other program has left behind. -/
def leftover : System where
  site :=
    { current := some 0, content := fun _ => [0x3f], owner := fun _ => none, fresh := 1
      inode := id }
  stage _ := .idle

/-- Guard 1 opens the file of guard 0 and locks it only after the name has been taken away, while
guard 2 makes a file of its own. -/
def handover : List (GuardId × Action) :=
  [(0, .enter), (1, .enter), (0, .lock), (0, .verify), (0, .empty), (0, .write), (0, .unlink),
    (2, .enter), (0, .close), (1, .lock), (2, .lock), (2, .verify), (2, .empty), (1, .verify),
    (2, .write)]

theorem holder_unique_handover :
    ∃ y, leftover.run (fun g => ⟨g, .daemon, ""⟩) handover = some y ∧ y.stage 1 = .stale 0 ∧
      y.stage 2 = .holding 1 ∧ ∀ g f, y.stage g = .holding f → g = 2 := by
  have hi : leftover.Initial := ⟨fun _ => rfl, fun _ => rfl, fun _ h => by cases h; decide⟩
  obtain ⟨y, hr, h₁, h₂⟩ : ∃ y, leftover.run (fun g => ⟨g, .daemon, ""⟩) handover = some y ∧
      y.stage 1 = .stale 0 ∧ y.stage 2 = .holding 1 := ⟨_, rfl, rfl, rfl⟩
  have hy := (Reachable.start hi).run Function.injective_id hr
  exact ⟨y, hr, h₁, h₂, fun g f hg => hy.holder_unique hg h₂⟩

end System

end DrainGuard.Lock
