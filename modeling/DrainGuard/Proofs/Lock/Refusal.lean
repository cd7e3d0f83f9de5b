import DrainGuard.Proofs.Lock.Exclusion
import DrainGuard.Proofs.Lock.Record

/-!
# Who a refused guard is told of

A guard that finds the file locked reads who has it. It reads by the name, and later than it tried;
meanwhile the owner may have written its record, given the lock up, or left to another one.

- **Records** (`Keeps`, `System.Reachable.keeps`): a guard that has written its record finds it in
  its file, whatever the others do.
- **Ways** (`System.Path`): the systems that steps lead through.
- **Names** (`Met`, `Path.names`): at the end of a way, the lock file names no process, or one of a
  guard that had a file locked on the way, or it is still as it was in the beginning.
- **Refusals** (`Path.refused`): so a guard is told of no process, of such a guard, or of the one
  that was written down before the owner came to empty the file (`Leftover`). The last of these may
  be a stranger (`refused_stranger`).
-/

namespace DrainGuard.Lock

/-- The file that a guard has locked and not emptied yet. -/
def Stage.unwritten? : Stage → Option FileId
  | .locked f | .stale f | .verified f => some f
  | _ => none

/-- What a guard that has emptied its file left in it. -/
def Stage.body? (record : LockRecord) : Stage → Option (FileId × List UInt8)
  | .emptied f => some (f, [])
  | .holding f | .unlinked f => some (f, record.encode)
  | _ => none

theorem Stage.locked?_of_body? {record : LockRecord} {stage : Stage} {f : FileId}
    {bytes : List UInt8} (h : stage.body? record = some (f, bytes)) : stage.locked? = some f := by
  cases stage <;> cases h <;> rfl

/-- A locked file is as it was, or its guard has left something in it. -/
theorem Stage.unwritten?_or_body? (record : LockRecord) {stage : Stage} {f : FileId}
    (h : stage.locked? = some f) :
    stage.unwritten? = some f ∨ stage.body? record = some (f, []) ∨
      stage.body? record = some (f, record.encode) := by
  cases stage <;> cases h <;> simp [unwritten?, body?]

/-! ## Records -/

section Steps

variable {guard g : GuardId} {record : LockRecord} {a : Action} {s s' : Site}
  {stage stage' other : Stage} {f : FileId}

/-- A step changes no file but the one that its guard has locked. -/
theorem Performs.content_eq (h : Performs guard record s a stage s' stage')
    (hf : stage.locked? ≠ some f) (hb : f < s.fresh) : s'.content f = s.content f := by
  have hwrite (file : FileId) (bytes : List UInt8) (hne : some file ≠ some f) :
      (s.write file bytes).content f = s.content f :=
    if_neg fun he => hne (congrArg some he.symm)
  cases h with
  | make _ => exact if_neg (Nat.ne_of_lt hb)
  | empty | write | tear _ => exact hwrite _ _ hf
  | _ => rfl

/-- What a guard has left in its file is there. -/
def Keeps (s : Site) (record : LockRecord) (stage : Stage) : Prop :=
  ∀ f bytes, stage.body? record = some (f, bytes) → s.content f = bytes

/-- What is written into an emptied file is all that it holds. -/
theorem Keeps.overwrite {bytes : List UInt8} (hk : Keeps s record (.emptied f)) :
    s.overwrite f bytes = s.write f bytes := by
  rw [Site.overwrite, hk f [] rfl, List.drop_nil, List.append_nil]

theorem Performs.keeps (h : Performs guard record s a stage s' stage') (hk : Keeps s record stage) :
    Keeps s' record stage' := by
  cases h with
  | empty =>
    rintro _ _ ⟨⟩
    exact if_pos rfl
  | write =>
    rw [hk.overwrite]
    rintro _ _ ⟨⟩
    exact if_pos rfl
  | unlink | abandon =>
    rintro _ _ ⟨⟩
    exact hk _ _ rfl
  | _ => rintro _ _ ⟨⟩

theorem Performs.keeps_other (h : Performs guard record s a stage s' stage') (hn : g ≠ guard)
    (hf : Fits s guard stage) (hg : Fits s g other) {record' : LockRecord}
    (hk : Keeps s record' other) : Keeps s' record' other := by
  intro f bytes hbody
  have hl := Stage.locked?_of_body? hbody
  -- no other guard has the file locked
  have hne : stage.locked? ≠ some f := by
    intro hlocked
    have hown := (hf.owner f).mpr hlocked
    rw [(hg.owner f).mpr hl] at hown
    exact hn (Option.some.inj hown)
  rw [h.content_eq hne (hg.bounded f (Stage.file?_of_locked? hl))]
  exact hk f bytes hbody

/-- A file that a guard has open was open before, or is the one that the name stands for. -/
theorem Performs.file?_cases (h : Performs guard record s a stage s' stage')
    (hf : stage'.file? = some f) : stage.file? = some f ∨ s'.current = some f := by
  cases h with
  | find hc =>
    cases hf
    exact .inr hc
  | make _ =>
    cases hf
    exact .inr rfl
  | _ => first | exact .inl hf | cases hf

/-- A guard that finds its file locked has just tried to lock it, and another guard had it. -/
theorem Performs.owner_of_contended (h : Performs guard record s a stage s' stage')
    (hf : stage' = .contended f) : stage = .opened f ∧ ∃ g, s.owner f = some g := by
  cases h with
  | yield hown =>
    cases hf
    exact ⟨rfl, _, hown⟩
  | _ => cases hf

/-- What a refused guard is told of: no process if it cannot read the lock file. -/
theorem Performs.refused_cases {p : Nat} (h : Performs guard record s a stage s' stage')
    (hp : stage' = .refused p) : p = 0 ∨ p = s.named ∧ ∃ f, stage = .contended f := by
  cases h with
  | refuse =>
    cases hp
    exact .inr ⟨rfl, _, rfl⟩
  | misread =>
    cases hp
    exact .inl rfl
  | _ => cases hp

/-- A step leaves the lock file as it is, or lets it name no process or the one of its guard. -/
theorem Performs.named_cases (h : Performs guard record s a stage s' stage')
    (hf : Fits s guard stage) (hk : Keeps s record stage) (hpid : record.pid < 0x100000000) :
    (s'.current = s.current ∧ ∀ f, s.current = some f → s'.content f = s.content f) ∨
      s'.named = 0 ∨ s'.named = record.pid ∧ ∃ f, s.owner f = some guard := by
  have hwrite {file : FileId} (bytes : List UInt8) (hc : stage.confirmed? = some file) :
      (s.write file bytes).named = LockRecord.pidIn bytes := by
    have hcur : (s.write file bytes).current = some file := hf.confirmed file hc
    rw [Site.named, hcur]
    exact congrArg LockRecord.pidIn (if_pos rfl)
  cases h with
  | make _ =>
    refine .inr (.inl ?_)
    show LockRecord.pidIn (if s.fresh = s.fresh then [] else s.content s.fresh) = 0
    rw [if_pos rfl, LockRecord.pidIn_nil]
  | empty => exact .inr (.inl ((hwrite [] rfl).trans LockRecord.pidIn_nil))
  | @write f =>
    rw [hk.overwrite]
    exact .inr (.inr ⟨(hwrite _ rfl).trans (LockRecord.pidIn_encode hpid), f, (hf.owner f).mpr rfl⟩)
  | @tear f n =>
    rw [hk.overwrite]
    rcases Nat.lt_or_ge n record.encode.length with hn | hn
    · exact .inr (.inl ((hwrite _ rfl).trans (LockRecord.pidIn_take hpid hn)))
    · rw [List.take_of_length_le hn]
      exact .inr (.inr ⟨(hwrite _ rfl).trans (LockRecord.pidIn_encode hpid), f,
        (hf.owner f).mpr rfl⟩)
  | unlink => exact .inr (.inl rfl)
  | _ => exact .inl ⟨rfl, fun _ _ => rfl⟩

end Steps

namespace System

variable {records : GuardId → LockRecord} {y₀ y z : System} {b g : GuardId} {a : Action}
  {f : FileId} {ms : List System} {p : Nat}

/-- A step of a system is a step of one guard; the others stay where they are. -/
theorem performs_of_step (hs : y.step records g a = some z) :
    Performs g (records g) y.site a (y.stage g) z.site (z.stage g) ∧
      ∀ h, h ≠ g → z.stage h = y.stage h := by
  obtain ⟨s, stage, hp, rfl⟩ := step_eq_some hs
  exact ⟨by simpa only [↓reduceIte] using hp, fun h hg => if_neg hg⟩

/-- A guard that has emptied its file, or has written its record, finds it so. -/
theorem Reachable.keeps (hy : Reachable records y) :
    ∀ g, Keeps y.site (records g) (y.stage g) := by
  induction hy with
  | start hi =>
    intro g f bytes h
    rw [hi.1 g] at h
    cases h
  | @next y z guard a hy os hs ih =>
    obtain ⟨hp, hother⟩ := performs_of_step hs
    intro g
    by_cases hg : g = guard
    · rw [hg]
      exact hp.keeps (ih guard)
    · rw [hother g hg]
      exact hp.keeps_other hg (hy.sound.fits guard) (hy.sound.fits g) (ih g)

/-! ## Ways -/

/-- The systems that steps lead through, from the first to the last. -/
inductive Path (records : GuardId → LockRecord) (y₀ : System) : List System → System → Prop where
  | start : Path records y₀ [y₀] y₀
  | next {ms : List System} {y z : System} {g : GuardId} {a : Action}
      (h : Path records y₀ ms y) (os : y.Admits a) (step : y.step records g a = some z) :
      Path records y₀ (ms ++ [z]) z

theorem Path.last_mem (h : Path records y₀ ms y) : y ∈ ms := by
  cases h with
  | start => exact List.mem_singleton_self y₀
  | next _ _ _ => exact List.mem_append_right _ (List.mem_singleton_self y)

theorem Path.reachable (h : Path records y₀ ms y) (hy : Reachable records y₀) :
    ∀ x ∈ ms, Reachable records x := by
  induction h with
  | start =>
    intro x hx
    rwa [List.mem_singleton.mp hx]
  | next h os step ih =>
    intro x hx
    rcases List.mem_append.mp hx with hx | hx
    · exact ih x hx
    · rw [List.mem_singleton.mp hx]
      exact (ih _ h.last_mem).next os step

/-- Steps in any order lead along a way, if no two files ever have the same number. -/
theorem Path.run {acts : List (GuardId × Action)} (h : Path records y₀ ms y)
    (hy : Reachable records y₀) (hi : Function.Injective y.site.inode)
    (hr : y.run records acts = some z) : ∃ ms', Path records y₀ ms' z := by
  induction acts generalizing ms y with
  | nil =>
    cases hr
    exact ⟨ms, h⟩
  | cons act acts ih =>
    obtain ⟨x, hx, hr⟩ := Option.bind_eq_some_iff.mp hr
    have hadmits := (h.reachable hy y h.last_mem).sound.admits hi act.2
    refine ih (h.next hadmits hx) ?_ hr
    rw [(performs_of_step hx).1.inode_eq]
    exact hi

/-- A process that a refused guard may be told of: none, or that of a guard that had a file locked
on the way. -/
def Met (records : GuardId → LockRecord) (ms : List System) (p : Nat) : Prop :=
  p = 0 ∨ ∃ x ∈ ms, ∃ g f, x.site.owner f = some g ∧ (records g).pid = p

theorem Met.append (h : Met records ms p) (ms' : List System) : Met records (ms ++ ms') p :=
  h.imp_right fun ⟨x, hx, hg⟩ => ⟨x, List.mem_append_left ms' hx, hg⟩

/-- The name stands for the same file on the whole way, and the file stays as it is. -/
def Untouched (y₀ : System) (ms : List System) (f : FileId) : Prop :=
  ∀ x ∈ ms, x.site.current = some f ∧ x.site.content f = y₀.site.content f

theorem Untouched.named (h : Untouched y₀ ms f) {x : System} (hx : x ∈ ms) :
    x.site.named = LockRecord.pidIn (y₀.site.content f) := by
  rw [Site.named, (h x hx).1]
  exact congrArg LockRecord.pidIn (h x hx).2

/-- At the end of a way the lock file names a process that was met, or is as it was at first. -/
theorem Path.names (h : Path records y₀ ms y) (hy : Reachable records y₀)
    (hpid : ∀ g, (records g).pid < 0x100000000) :
    Met records ms y.site.named ∨ ∃ f, Untouched y₀ ms f := by
  induction h with
  | start =>
    cases hc : y₀.site.current with
    | none => exact .inl (.inl (by rw [Site.named, hc]))
    | some f =>
      refine .inr ⟨f, fun x hx => ?_⟩
      rw [List.mem_singleton.mp hx]
      exact ⟨hc, rfl⟩
  | @next ms y z g a h os hs ih =>
    have hreach := h.reachable hy y h.last_mem
    have hp := (performs_of_step hs).1
    rcases hp.named_cases (hreach.sound.fits g) (hreach.keeps g) (hpid g) with
      ⟨hcur, hcont⟩ | h0 | ⟨hg, f, hown⟩
    · rcases ih with hmet | ⟨f, hf⟩
      · refine .inl ?_
        have hnamed : z.site.named = y.site.named := by
          rw [Site.named, Site.named, hcur]
          cases hc : y.site.current with
          | none => rfl
          | some f => exact congrArg LockRecord.pidIn (hcont f hc)
        rw [hnamed]
        exact hmet.append _
      · refine .inr ⟨f, fun x hx => ?_⟩
        rcases List.mem_append.mp hx with hx | hx
        · exact hf x hx
        · obtain ⟨hc, hcf⟩ := hf y h.last_mem
          rw [List.mem_singleton.mp hx]
          exact ⟨hcur.trans hc, (hcont f hc).trans hcf⟩
    · exact .inl (.inl h0)
    · exact .inl (.inr ⟨y, List.mem_append_left _ h.last_mem, g, f, hown, hg.symm⟩)

/-- A guard that began on the way opened the file that the name stands for all the time. -/
theorem Path.opened_eq (h : Path records y₀ ms y) (hb : y₀.stage b = .idle)
    (hu : Untouched y₀ ms f) {f' : FileId} (hf : (y.stage b).file? = some f') : f' = f := by
  induction h with
  | start =>
    rw [hb] at hf
    cases hf
  | @next ms y z g a h os hs ih =>
    have hlast := (hu z (List.mem_append_right _ (List.mem_singleton_self z))).1
    have hrest : Untouched y₀ ms f := fun x hx => hu x (List.mem_append_left _ hx)
    obtain ⟨hp, hother⟩ := performs_of_step hs
    by_cases hg : b = g
    · subst hg
      rcases hp.file?_cases hf with hf | hc
      · exact ih hrest hf
      · exact Option.some.inj (hc.symm.trans hlast)
    · exact ih hrest (hother b hg ▸ hf)

/-- A guard that began on the way and found its file locked met the owner of the file. -/
theorem Path.contended (h : Path records y₀ ms y) (hb : y₀.stage b = .idle)
    (hf : y.stage b = .contended f) :
    ∃ x ∈ ms, x.stage b = .opened f ∧ ∃ g, x.site.owner f = some g := by
  induction h with
  | start =>
    rw [hb] at hf
    cases hf
  | @next ms y z g a h os hs ih =>
    obtain ⟨hp, hother⟩ := performs_of_step hs
    by_cases hg : b = g
    · subst hg
      obtain ⟨hst, hown⟩ := hp.owner_of_contended hf
      exact ⟨y, List.mem_append_left _ h.last_mem, hst, hown⟩
    · obtain ⟨x, hx, hopened⟩ := ih (hother b hg ▸ hf)
      exact ⟨x, List.mem_append_left _ hx, hopened⟩

/-! ## Refusals -/

/-- The lock file still is as it was when a guard began, and the guard came upon an owner that had
not emptied it yet. -/
def Leftover (y₀ : System) (ms : List System) (b : GuardId) (p : Nat) : Prop :=
  ∃ f, Untouched y₀ ms f ∧ p = LockRecord.pidIn (y₀.site.content f) ∧
    ∃ x ∈ ms, x.stage b = .opened f ∧ ∃ g, x.site.owner f = some g ∧
      (x.stage g).unwritten? = some f

/-- A guard that finds its file locked is told of the process that the lock file names then. -/
theorem step_report (h : y.stage b = .contended f) :
    ∃ z, y.step records b .report = some z ∧ z.stage b = .refused y.site.named := by
  refine ⟨⟨y.site, fun g => if g = b then .refused y.site.named else y.stage g⟩, ?_, if_pos rfl⟩
  simp only [step, h, perform, Option.map_some]

/-- Guard 0 and the others. -/
def pair (g : GuardId) : LockRecord := ⟨if g = 0 then 811 else 812, .daemon, ""⟩

theorem pair_pid (g : GuardId) : (pair g).pid = 811 ∨ (pair g).pid = 812 := by
  show (if g = 0 then 811 else 812) = 811 ∨ (if g = 0 then 811 else 812) = 812
  split <;> simp

theorem pair_pid_lt (g : GuardId) : (pair g).pid < 0x100000000 := by
  rcases pair_pid g with h | h <;> rw [h] <;> decide

/-- A guard that is refused is told of no process, or of one whose guard had the file locked since
it began, or of the one that the file held before its owner came to empty it. -/
theorem Path.refused (hpid : ∀ g, (records g).pid < 0x100000000) (hy : Reachable records y₀)
    (hb : y₀.stage b = .idle) (h : Path records y₀ ms y) (hs : y.step records b a = some z)
    (hz : z.stage b = .refused p) : Met records ms p ∨ Leftover y₀ ms b p := by
  rcases (performs_of_step hs).1.refused_cases hz with rfl | ⟨rfl, f, hst⟩
  · exact .inl (.inl rfl)
  rcases h.names hy hpid with hmet | ⟨f', hu⟩
  · exact .inl hmet
  obtain ⟨x, hx, hopened, g, hown⟩ := h.contended hb hst
  obtain rfl : f = f' := h.opened_eq hb hu (by rw [hst]; rfl)
  have hnamed := hu.named h.last_mem
  have hreach := h.reachable hy x hx
  have hkeeps {bytes : List UInt8} (hbody : (x.stage g).body? (records g) = some (f, bytes)) :
      y.site.named = LockRecord.pidIn bytes := by
    rw [hnamed, ← hreach.keeps g f bytes hbody, (hu x hx).2]
  -- nobody has written to the file since, so it tells how far the owner had come
  rcases Stage.unwritten?_or_body? (records g) (((hreach.sound.fits g).owner f).mp hown) with
    hlate | hempty | hfull
  · exact .inr ⟨f, hu, hnamed, x, hx, hopened, g, hown, hlate⟩
  · exact .inl (.inl ((hkeeps hempty).trans LockRecord.pidIn_nil))
  · exact .inl (.inr ⟨x, hx, g, f, hown,
      ((hkeeps hfull).trans (LockRecord.pidIn_encode (hpid g))).symm⟩)

/-- Guard 1 opens the file of guard 0, finds it locked, and reads it after guard 0 has written its
record. -/
theorem refused_holder : ∃ ms y z, Path pair leftover ms y ∧ y.step pair 1 .report = some z ∧
    z.stage 1 = .refused 811 ∧ (Met pair ms 811 ∨ Leftover leftover ms 1 811) := by
  have hi : leftover.Initial := ⟨fun _ => rfl, fun _ => rfl, fun _ h => by cases h; decide⟩
  have hy : Reachable pair leftover := .start hi
  obtain ⟨y, hr, hst, hnamed⟩ : ∃ y, leftover.run pair [(0, .enter), (0, .lock), (1, .enter),
      (1, .lock), (0, .verify), (0, .empty), (0, .write)] = some y ∧ y.stage 1 = .contended 0 ∧
      y.site.named = LockRecord.pidIn (pair 0).encode := ⟨_, rfl, rfl, rfl⟩
  obtain ⟨ms, h⟩ := Path.start.run hy Function.injective_id hr
  obtain ⟨z, hs, hz⟩ := step_report hst
  rw [hnamed, LockRecord.pidIn_encode (pair_pid_lt 0)] at hz
  exact ⟨ms, y, z, h, hs, hz, h.refused pair_pid_lt hy rfl hs hz⟩

/-- The record that a guard left behind when it stopped. -/
def wrecked : System where
  site :=
    { current := some 0
      content := fun _ => LockRecord.encode ⟨4190711, .active, "2024-05-01T00:00:00+00:00"⟩
      owner := fun _ => none, fresh := 1, inode := id }
  stage _ := .idle

/-- Guard 1 reads the lock file after guard 0 has locked it and before it empties it, and is told of
a process that neither of them is. -/
theorem refused_stranger : wrecked.Initial ∧ ∃ ms y z, Path pair wrecked ms y ∧
    y.step pair 1 .report = some z ∧ z.stage 1 = .refused 4190711 ∧ ¬Met pair ms 4190711 := by
  have hi : wrecked.Initial := ⟨fun _ => rfl, fun _ => rfl, fun _ h => by cases h; decide⟩
  have hy : Reachable pair wrecked := .start hi
  obtain ⟨y, hr, hst, hnamed⟩ : ∃ y, wrecked.run pair [(0, .enter), (0, .lock), (1, .enter),
      (1, .lock)] = some y ∧ y.stage 1 = .contended 0 ∧ y.site.named =
      LockRecord.pidIn (LockRecord.encode ⟨4190711, .active, "2024-05-01T00:00:00+00:00"⟩) :=
    ⟨_, rfl, rfl, rfl⟩
  obtain ⟨ms, h⟩ := Path.start.run hy Function.injective_id hr
  obtain ⟨z, hs, hz⟩ := step_report hst
  rw [hnamed, LockRecord.pidIn_encode (by decide)] at hz
  refine ⟨hi, ms, y, z, h, hs, hz, ?_⟩
  rintro (h0 | ⟨x, -, g, f, -, hpid⟩)
  · cases h0
  · rcases pair_pid g with h | h <;> rw [h] at hpid <;> cases hpid

end System

end DrainGuard.Lock
