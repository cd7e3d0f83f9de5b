import DrainGuard.Host.Locks

/-!
# A lock that was given up

Whatever a guard has done in the meantime, the machine on which it gives its lock up has no file
locked for it and no lock file.

- **Paths** (`Files.follow_erase`): a path to a file that is taken away leads where it led.
- **Locks** (`Machine.locks_release`) and **lock files** (`Machine.read?_release`).
-/

namespace DrainGuard

namespace Files

variable {fs : Files} {place q : Place}

theorem lookup_filter_ne {α : Type} (es : List (Place × α)) (place q : Place) :
    (es.filter fun e => e.1 ≠ place).lookup q = if q = place then none else es.lookup q := by
  induction es with
  | nil => simp
  | cons e es ih =>
    obtain ⟨p, a⟩ := e
    by_cases hp : p = place
    · subst hp
      rw [List.filter_cons_of_neg (by simp), ih, List.lookup_cons]
      split
      · rfl
      · next hq => rw [beq_false_of_ne hq]
    · rw [List.filter_cons_of_pos (by simpa using hp), List.lookup_cons, ih, List.lookup_cons]
      by_cases hq : q = p
      · subst hq
        simp [hp]
      · simp [beq_false_of_ne hq]

theorem erase_entry (hroot : place ≠ []) :
    Files.entry? (fs.erase place) q = if q = place then none else fs.entry? q := by
  unfold entry? erase
  by_cases hq : q = []
  · subst hq
    rw [if_neg (Ne.symm hroot)]
    rfl
  · simp only [if_neg hq, lookup_filter_ne]

/-- Only a file can be where an entry is that is no directory, so the root is not taken away. -/
theorem ne_root_of_file {number mode : Nat} {content : List UInt8}
    (h : fs.entry? place = some (.file number content mode)) : place ≠ [] := by
  rintro rfl
  cases h

/-- A path to a file that is taken away leads where it led. -/
theorem follow_erase {number mode : Nat} {content : List UInt8} {here : Place} {parts : List String}
    (hfile : fs.entry? place = some (.file number content mode))
    (h : fs.follow here parts = .ok q) : (fs.erase place).follow here parts = .ok q := by
  induction parts generalizing here with
  | nil => exact h
  | cons part rest ih =>
    rw [follow] at h ⊢
    split at h
    · next hup => rw [if_pos hup, ih h]
    next hup =>
    rw [if_neg hup]
    split at h
    · cases h
    next hlong =>
    rw [if_neg hlong]
    simp only [erase_entry (ne_root_of_file hfile)] at h ⊢
    by_cases hp : here ++ [part] = place
    · -- nothing is below a file, so the path ends here
      rw [hp] at h ⊢
      simp only [hfile] at h
      rw [if_pos rfl]
      split at h
      · next hrest => simpa only [hrest, if_pos] using h
      · cases h
    · rw [if_neg hp]
      split at h
      · next hdir => exact ih h
      · next hf => simpa only [hf] using h
      · next hnone => simpa only [hnone] using h

theorem resolve_eq_ok {here : Place} {path : String} (h : fs.resolve here path = .ok place) :
    ¬path.toList.contains (Char.ofNat 0) ∧ ¬path.isEmpty ∧
      fs.follow (if (Route.ofString path).absolute then [] else here) (Route.ofString path).parts =
        .ok place := by
  unfold resolve at h
  split at h
  · cases h
  next hzero =>
  split at h
  · cases h
  next hempty =>
  refine ⟨hzero, hempty, ?_⟩
  rcases hfollow : fs.follow (if (Route.ofString path).absolute then [] else here)
    (Route.ofString path).parts with e | q
  · simp only [hfollow] at h
    cases h
  · simp only [hfollow, bind, Except.bind] at h
    split at h
    · split at h
      · cases h
      · exact h
    · exact h

/-- A path that led to a file leads to nothing once the file is taken away. -/
theorem read_erase {number mode : Nat} {content : List UInt8} {here : Place} {path : String}
    (hpath : fs.resolve here path = .ok place)
    (hfile : fs.entry? place = some (.file number content mode)) :
    (fs.erase place).read here path = .error .missing := by
  obtain ⟨hzero, hempty, hfollow⟩ := resolve_eq_ok hpath
  have hgone : Files.entry? (fs.erase place) place = none := by
    rw [erase_entry (ne_root_of_file hfile), if_pos rfl]
  have hpath' : (fs.erase place).resolve here path = .ok place := by
    unfold resolve
    rw [if_neg hzero, if_neg hempty]
    simp only [follow_erase hfile hfollow, bind, Except.bind, hgone]
    rfl
  unfold read
  simp only [hpath', bind, Except.bind, hgone]

end Files

namespace Machine

variable (m : Machine) (l : HeldLock)

/-- No file is locked for a guard that has given its lock up. -/
theorem locks_release (n : Nat) : (m.release l).locks n ≠ some l.holder := by
  unfold release
  split
  · show (if (m.site _).owner n = some l.holder then none else (m.site _).owner n) ≠ _
    split
    · exact nofun
    · assumption
  · show (if m.locks n = some l.holder then none else m.locks n) ≠ _
    split
    · exact nofun
    · assumption

theorem withSite_giveUp_files (place : Place) (holder : Lock.GuardId) :
    (m.withSite place (Lock.giveUp holder (m.site place))).files =
      match m.files.entry? place with
      | some (.file ..) => m.files.erase place
      | _ => m.files := by
  unfold withSite site
  rcases m.files.entry? place with _ | ⟨number, content, mode⟩ | _ <;> rfl

/-- There is no lock file where a guard has given its lock up. -/
theorem read?_release : (m.release l).read? l.path = none := by
  cases hpath : m.files.resolve m.here l.path with
  | error e =>
    have hread : m.files.read m.here l.path = .error e := by
      unfold Files.read
      rw [hpath]
      rfl
    simp only [release, hpath, read?, Files.read?, hread]
    rfl
  | ok place =>
    have hread {e : FileError}
        (h : (m.withSite place (Lock.giveUp l.holder (m.site place))).files.read m.here l.path =
          .error e) : (m.release l).read? l.path = none := by
      simp only [release, hpath]
      show (Files.read _ m.here l.path).toOption = none
      rw [h]
      rfl
    rw [withSite_giveUp_files] at hread
    rcases hentry : m.files.entry? place with _ | ⟨number, content, mode⟩ | _ <;>
      simp only [hentry] at hread
    · refine hread (e := .missing) ?_
      simp only [Files.read, hpath, bind, Except.bind, hentry]
    · exact hread (Files.read_erase hpath hentry)
    · refine hread (e := .isDirectory) ?_
      simp only [Files.read, hpath, bind, Except.bind, hentry]

end Machine

end DrainGuard
