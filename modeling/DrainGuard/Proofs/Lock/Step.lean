import DrainGuard.Lock.Protocol

/-!
# The steps of a guard on its lock

- **Steps** (`Performs`): what a guard may do, one constructor for each way that a call of the
  operating system may end. A step of `perform` is one of these (`perform_eq_some`).
- **What is locked** (`Stage.locked?`, `Stage.confirmed?`): the file that a guard has locked, and
  the one that it has found to be the lock file.
- **Owners** (`Site.close_owner`, `Site.lock_owner`): whose a file is after it was closed or locked.
-/

namespace DrainGuard.Lock

/-- The file that a guard has locked. -/
def Stage.locked? : Stage → Option FileId
  | .locked f | .stale f | .verified f | .emptied f | .holding f | .unlinked f => some f
  | _ => none

/-- The file that a guard has locked and found to be the one that the name stands for. -/
def Stage.confirmed? : Stage → Option FileId
  | .verified f | .emptied f | .holding f => some f
  | _ => none

/-- The stages in which an error of the system ends an attempt. -/
def Stage.fails : Stage → Prop
  | .idle | .opened _ | .verified _ | .emptied _ => True
  | _ => False

/-- One step of a guard, from a site and a stage to others. -/
inductive Performs (guard : GuardId) (record : LockRecord) (s : Site) :
    Action → Stage → Site → Stage → Prop where
  | find {f : FileId} (h : s.current = some f) : Performs guard record s .enter .idle s (.opened f)
  | make (h : s.current = none) : Performs guard record s .enter .idle s.make (.opened s.fresh)
  | take {f : FileId} (h : s.owner f = none) :
      Performs guard record s .lock (.opened f) (s.lock f guard) (.locked f)
  | yield {f : FileId} {g : GuardId} (h : s.owner f = some g) :
      Performs guard record s .lock (.opened f) s (.contended f)
  | confirm {f : FileId} (h : s.isCurrent f = true) :
      Performs guard record s .verify (.locked f) s (.verified f)
  | miss {f : FileId} (h : s.isCurrent f = false) :
      Performs guard record s .verify (.locked f) s (.stale f)
  | retry {f : FileId} : Performs guard record s .close (.stale f) (s.close guard) .idle
  | empty {f : FileId} : Performs guard record s .empty (.verified f) (s.write f []) (.emptied f)
  | write {f : FileId} :
      Performs guard record s .write (.emptied f) (s.overwrite f record.encode) (.holding f)
  | tear {f : FileId} (n : Nat) : Performs guard record s (.tear n) (.emptied f)
      ((s.overwrite f (record.encode.take n)).close guard) .failed
  | refuse {f : FileId} :
      Performs guard record s .report (.contended f) s (.refused s.named)
  | unlink {f : FileId} :
      Performs guard record s .unlink (.holding f) { s with current := none } (.unlinked f)
  | leave {f : FileId} : Performs guard record s .close (.unlinked f) (s.close guard) .idle
  | fail {stage : Stage} (h : stage.fails) :
      Performs guard record s .fail stage (s.close guard) .failed
  | distrust {f : FileId} : Performs guard record s .fail (.locked f) s (.stale f)
  | misread {f : FileId} : Performs guard record s .fail (.contended f) s (.refused 0)
  | abandon {f : FileId} : Performs guard record s .fail (.holding f) s (.unlinked f)
  | crash {stage : Stage} (h : stage ≠ .crashed) :
      Performs guard record s .crash stage (s.close guard) .crashed

variable {guard g : GuardId} {record : LockRecord} {a : Action} {s s' : Site}
  {stage stage' : Stage} {f : FileId}

/-- The steps of `perform` are these and no others. -/
theorem perform_eq_some : perform guard record a s stage = some (s', stage') ↔
    Performs guard record s a stage s' stage' := by
  constructor
  · intro h
    unfold perform at h
    split at h
    case h_1 =>
      split at h <;> cases h
      · exact .find ‹_›
      · exact .make ‹_›
    case h_2 f =>
      cases ho : s.owner f <;> rw [ho] at h <;> cases h
      · exact .take ho
      · exact .yield ho
    case h_3 f =>
      cases hc : s.isCurrent f <;> rw [hc] at h <;> cases h
      · exact .miss hc
      · exact .confirm hc
    all_goals cases h
    case h_11 | h_12 | h_13 | h_14 => exact .fail trivial
    case h_19 hc => exact .crash hc
    all_goals constructor
  · intro h
    cases h with
    | find h | make h => simp [perform, h]
    | take h | yield h => simp [perform, h]
    | confirm h | miss h => simp [perform, h]
    | fail h => cases stage <;> first | rfl | cases h
    | crash h => cases stage <;> first | rfl | exact absurd rfl h
    | _ => rfl

/-! ## Files of a stage -/

theorem Stage.locked?_of_confirmed? (h : stage.confirmed? = some f) : stage.locked? = some f := by
  cases stage <;> first | exact h | cases h

theorem Stage.file?_of_locked? (h : stage.locked? = some f) : stage.file? = some f := by
  cases stage <;> first | exact h | cases h

/-! ## Owners -/

/-- A guard that closes its files has none locked; those of others stay as they are. -/
theorem Site.close_owner : (s.close guard).owner f = some g ↔ g ≠ guard ∧ s.owner f = some g := by
  show (if s.owner f = some guard then none else s.owner f) = some g ↔ _
  split
  · next h =>
    rw [h]
    constructor
    · intro hn
      cases hn
    · rintro ⟨hne, he⟩
      exact absurd (Option.some.inj he).symm hne
  · next h =>
    refine ⟨fun he => ⟨?_, he⟩, And.right⟩
    rintro rfl
    exact h he

/-- A guard that locks a free file has it; all other files stay as they are. -/
theorem Site.lock_owner {file : FileId} (h : s.owner file = none) :
    (s.lock file guard).owner f = some g ↔ (f = file ∧ g = guard) ∨ s.owner f = some g := by
  show (if f = file then some guard else s.owner f) = some g ↔ _
  split
  · next hf =>
    rw [hf, h]
    simp [eq_comm]
  · next hf => simp [hf]

/-- The number of the name's file tells which file it is. -/
theorem Site.isCurrent_iff :
    s.isCurrent f = true ↔ ∃ c, s.current = some c ∧ s.inode c = s.inode f := by
  rw [isCurrent, beq_iff_eq, Option.map_eq_some_iff]

end DrainGuard.Lock
