import Mathlib.Data.List.Induction
import Mathlib.Data.List.Nodup
import Mathlib.Data.List.Perm.Subperm
import Mathlib.Data.Set.Operations
import DrainGuard.Proofs.Lock.Refusal

/-!
# How often a guard starts anew

A guard that has locked a file for which the name no longer stands closes it and starts anew. Nothing
bounds how often it does. But only a guard that gives the lock up takes a name away, so each new start
is the doing of another guard.

- **Trails** (`Deed`, `System.Trail`): the steps that lead from one system to another, and where each
  of them leaves its guard. Every run is one (`Trail.of_run`).
- **What has happened meanwhile** (`Waiting`, `Trail.waiting`): a file that a guard has opened and not
  checked yet is the one that the name stands for, unless another guard has taken the name away since.
- **Charges** (`ChargedTo`, `Trail.exists_charge`, `ChargedTo.unique`): so each check that fails can
  be charged to such a deed, and no two of them to the same one. There are no more of the former than
  of the latter (`countP_le_of_injOn`).
- **Steps** (`Stage.Spent`, `Trail.spent`): how many steps a guard has taken towards the lock, by
  where it is and how many checks have failed. Until it is answered it can go on
  (`Stage.Spent.answered_or_step`).
- **All together** (`Trail.retries_charged`).
-/

namespace DrainGuard.Lock

/-- A step that was taken, and where it left its guard. -/
structure Deed where
  /-- The guard. -/
  guard : GuardId
  /-- The step. -/
  action : Action
  /-- Where the guard is after it. -/
  stage : Stage
  deriving DecidableEq

/-- The name no longer stands for the file that the guard has locked. -/
def Stage.isStale : Stage → Bool
  | .stale _ => true
  | _ => false

namespace Deed

variable (b : GuardId) (e : Deed)

/-- The guard did it. -/
def takenBy : Bool := e.guard = b

/-- The guard opened the lock file. -/
def opens : Bool := e.guard = b ∧ e.action = .enter

/-- The guard found that the name no longer stands for the file that it has locked. -/
def misses : Bool := e.guard = b ∧ e.action = .verify ∧ e.stage.isStale

/-- Another guard took the name away, to give the lock up. -/
def releases : Bool := e.guard ≠ b ∧ e.action = .unlink

end Deed

/-- The steps that a guard takes to get the lock, as long as it meets no error. -/
def towards : List Action := [.enter, .lock, .verify, .close, .empty, .write, .report]

/-! ## What has happened meanwhile -/

/-- The file that a guard has opened, and maybe locked, but not checked. -/
def Stage.unchecked? : Stage → Option FileId
  | .opened f | .locked f => some f
  | _ => none

section Steps

variable {guard : GuardId} {record : LockRecord} {a : Action} {s s' : Site} {stage stage' : Stage}
  {f : FileId}

/-- A name stands for its file until it is taken away. -/
theorem Performs.current_cases (h : Performs guard record s a stage s' stage') :
    s'.current = s.current ∨ s.current = none ∨ a = .unlink := by
  cases h with
  | make hc => exact .inr (.inl hc)
  | unlink => exact .inr (.inr rfl)
  | _ => exact .inl rfl

/-- A guard has an unchecked file when it has just opened the one that the name stands for, or has
locked it. -/
theorem Performs.unchecked_cases (h : Performs guard record s a stage s' stage')
    (hf : stage'.unchecked? = some f) : a = .enter ∧ s'.current = some f ∨
      a = .lock ∧ stage.unchecked? = some f ∧ s'.current = s.current := by
  cases h with
  | find hc =>
    cases hf
    exact .inl ⟨rfl, hc⟩
  | make _ =>
    cases hf
    exact .inl ⟨rfl, rfl⟩
  | take _ =>
    cases hf
    exact .inr ⟨rfl, rfl, rfl⟩
  | fail _ | crash _ => cases hf
  | _ => cases hf

/-- A check fails if the name does not stand for the file. -/
theorem Performs.of_miss (h : Performs guard record s a stage s' stage') (ha : a = .verify)
    (hs : stage'.isStale = true) : ∃ f, stage.unchecked? = some f ∧ s.current ≠ some f := by
  cases h with
  | @miss f hc =>
    refine ⟨f, rfl, ?_⟩
    intro hcur
    rw [Site.isCurrent_iff.mpr ⟨f, hcur, rfl⟩] at hc
    cases hc
  | confirm _ => cases hs
  | _ => cases ha

end Steps

/-- Since a guard opened a file it has at most locked it; the name still stands for the file, unless
another guard has taken it away meanwhile. -/
def Waiting (es : List Deed) (b : GuardId) (s : Site) (f : FileId) : Prop :=
  ∃ before e since, es = before ++ e :: since ∧ e.opens b = true ∧
    (∀ d ∈ since, d.guard = b → d.action = .lock) ∧
    (s.current = some f ∨ ∃ d ∈ since, d.releases b = true)

namespace System

variable {records : GuardId → LockRecord} {y₀ y z : System} {es : List Deed} {b g : GuardId}
  {a : Action} {f : FileId} {i i' k : Nat}

/-- The steps that lead from a system to another, the first one first. -/
inductive Trail (records : GuardId → LockRecord) (y₀ : System) : List Deed → System → Prop where
  | start : Trail records y₀ [] y₀
  | next {es : List Deed} {y z : System} {g : GuardId} {a : Action} (h : Trail records y₀ es y)
      (step : y.step records g a = some z) : Trail records y₀ (es ++ [⟨g, a, z.stage g⟩]) z

theorem Trail.waiting (h : Trail records y₀ es y) (hb : y₀.stage b = .idle)
    (hf : (y.stage b).unchecked? = some f) : Waiting es b y.site f := by
  induction h with
  | start =>
    rw [hb] at hf
    cases hf
  | @next es y z g a h step ih =>
    obtain ⟨hp, hother⟩ := performs_of_step step
    by_cases hg : b = g
    · subst hg
      rcases hp.unchecked_cases hf with ⟨rfl, hc⟩ | ⟨rfl, hf, hc⟩
      · exact ⟨es, _, [], rfl, by simp [Deed.opens], by simp, .inl hc⟩
      · obtain ⟨before, e, since, rfl, he, hsince, hcur⟩ := ih hf
        refine ⟨before, e, since ++ [⟨b, .lock, z.stage b⟩], by simp, he, ?_, ?_⟩
        · intro d hd
          rcases List.mem_append.mp hd with hd | hd
          · exact hsince d hd
          · simp [List.mem_singleton.mp hd]
        · rw [hc]
          exact hcur.imp_right fun ⟨d, hd, hr⟩ => ⟨d, List.mem_append_left _ hd, hr⟩
    · obtain ⟨before, e, since, rfl, he, hsince, hcur⟩ := ih (hother b hg ▸ hf)
      refine ⟨before, e, since ++ [⟨g, a, z.stage g⟩], by simp, he, ?_, ?_⟩
      · intro d hd hdb
        rcases List.mem_append.mp hd with hd | hd
        · exact hsince d hd hdb
        · rw [List.mem_singleton.mp hd] at hdb
          exact absurd hdb.symm hg
      · have hkeep (hr : ∃ d ∈ since, d.releases b = true) :
            ∃ d ∈ since ++ [⟨g, a, z.stage g⟩], d.releases b = true :=
          hr.imp fun d hd => ⟨List.mem_append_left _ hd.1, hd.2⟩
        rcases hcur with hcur | hr
        · rcases hp.current_cases with hsame | hnone | rfl
          · exact .inl (hsame.trans hcur)
          · rw [hcur] at hnone
            cases hnone
          · refine .inr ⟨⟨g, .unlink, z.stage g⟩, by simp, ?_⟩
            simp [Deed.releases, Ne.symm hg]
        · exact .inr (hkeep hr)

/-! ## Charges -/

/-- The check at a position failed. -/
def MissedAt (es : List Deed) (b : GuardId) (i : Nat) : Prop :=
  ∃ e, es[i]? = some e ∧ e.misses b = true

/-- The deed at `k` is to blame for the check that failed at `i`: another guard took the name away
between the check and the last time that the guard had opened the lock file before. Since then the
guard itself has done nothing but lock the file. -/
structure ChargedTo (es : List Deed) (b : GuardId) (i k : Nat) : Prop where
  released : ∃ e, es[k]? = some e ∧ e.releases b = true
  before : k < i
  opened : ∃ j, j < k ∧ (∃ e, es[j]? = some e ∧ e.opens b = true) ∧
    ∀ m e, j < m → m < i → es[m]? = some e → e.guard = b → e.action = .lock

theorem ChargedTo.append (h : ChargedTo es b i k) (hi : i ≤ es.length) (ds : List Deed) :
    ChargedTo (es ++ ds) b i k := by
  have hk := h.before
  obtain ⟨j, hj, hopen, hsince⟩ := h.opened
  refine ⟨?_, hk, j, hj, ?_, ?_⟩
  · rw [List.getElem?_append_left (by omega)]
    exact h.released
  · rw [List.getElem?_append_left (by omega)]
    exact hopen
  · intro m e hjm hmi
    rw [List.getElem?_append_left (by omega)]
    exact hsince m e hjm hmi

/-- A check that fails while no name stands for the file is the fault of whoever took it away. -/
theorem exists_charge_of_waiting {s : Site} (h : Waiting es b s f) (hc : s.current ≠ some f)
    (e : Deed) : ∃ k, ChargedTo (es ++ [e]) b es.length k := by
  obtain ⟨before, e₀, since, rfl, hopen, hsince, hcur | ⟨d, hd, hr⟩⟩ := h
  · exact absurd hcur hc
  obtain ⟨front, rest, rfl⟩ := List.append_of_mem hd
  refine ⟨before.length + 1 + front.length, ⟨d, ?_, hr⟩, ?_, before.length, by omega,
    ⟨e₀, ?_, hopen⟩, ?_⟩
  · rw [List.append_assoc, List.getElem?_append_right (by omega)]
    have hpos : before.length + 1 + front.length - before.length = front.length + 1 := by omega
    rw [hpos, List.cons_append, List.getElem?_cons_succ]
    simp
  · simp only [List.length_append, List.length_cons]
    omega
  · simp
  · intro m e' hm hlt he' hguard
    refine hsince e' ?_ hguard
    obtain ⟨n, rfl⟩ := Nat.exists_eq_add_of_lt hm
    rw [List.getElem?_append_left hlt, List.getElem?_append_right (by omega)] at he'
    have hpos : before.length + n + 1 - before.length = n + 1 := by omega
    rw [hpos, List.getElem?_cons_succ] at he'
    exact List.mem_of_getElem? he'

/-- Each check that failed can be charged to a deed of another guard. -/
theorem Trail.exists_charge (h : Trail records y₀ es y) (hb : y₀.stage b = .idle)
    (hi : MissedAt es b i) : ∃ k, ChargedTo es b i k := by
  induction h with
  | start =>
    obtain ⟨e, he, -⟩ := hi
    cases he
  | @next es y z g a h step ih =>
    obtain ⟨e, he, hmiss⟩ := hi
    by_cases hlt : i < es.length
    · rw [List.getElem?_append_left hlt] at he
      obtain ⟨k, hk⟩ := ih ⟨e, he, hmiss⟩
      exact ⟨k, hk.append (by omega) _⟩
    · have hlen := (List.getElem?_eq_some_iff.mp he).1
      simp only [List.length_append, List.length_singleton] at hlen
      obtain rfl : i = es.length := by omega
      obtain rfl : _ = e := by simpa using he
      simp only [Deed.misses, decide_eq_true_eq] at hmiss
      obtain ⟨rfl, hverify, hstale⟩ := hmiss
      obtain ⟨f, hf, hc⟩ := (performs_of_step step).1.of_miss hverify hstale
      exact exists_charge_of_waiting (h.waiting hb hf) hc _

/-- Two checks that failed are not charged to the same deed: after the first of them the guard has
opened the lock file again. -/
theorem ChargedTo.unique (hi : MissedAt es b i) (hi' : MissedAt es b i') (h : ChargedTo es b i k)
    (h' : ChargedTo es b i' k) : i = i' := by
  have hlater {i i' : Nat} (hi : MissedAt es b i) (h : ChargedTo es b i k)
      (h' : ChargedTo es b i' k) : ¬i < i' := by
    intro hlt
    obtain ⟨e, he, hmiss⟩ := hi
    obtain ⟨j, hj, -, hsince⟩ := h'.opened
    have hk := h.before
    simp only [Deed.misses, decide_eq_true_eq] at hmiss
    have hlock := hsince i e (by omega) hlt he hmiss.1
    rw [hmiss.2.1] at hlock
    cases hlock
  have hle := hlater hi h h'
  have hge := hlater hi' h' h
  omega

end System

/-! ## Numbers -/

/-- The positions of the entries that pass a test. -/
def positions {α : Type} (p : α → Bool) (es : List α) : List Nat :=
  (List.range es.length).filter fun i => es[i]?.any p

section Positions

variable {α : Type} {p q : α → Bool} {es : List α}

theorem mem_positions {i : Nat} : i ∈ positions p es ↔ ∃ e, es[i]? = some e ∧ p e = true := by
  rw [positions, List.mem_filter, Option.any_eq_true, List.mem_range]
  constructor
  · exact And.right
  · rintro ⟨e, he, hp⟩
    exact ⟨(List.getElem?_eq_some_iff.mp he).1, e, he, hp⟩

theorem length_positions : (positions p es).length = es.countP p := by
  induction es using List.reverseRecOn with
  | nil => rfl
  | append_singleton es e ih =>
    have hsame : positions p (es ++ [e]) = positions p es ++ if p e then [es.length] else [] := by
      rw [positions, List.length_append, List.length_singleton, List.range_succ, List.filter_append]
      congr 1
      · apply List.filter_congr
        intro i hi
        rw [List.getElem?_append_left (List.mem_range.mp hi)]
      · by_cases he : p e = true <;> simp [he]
    rw [hsame, List.length_append, ih, List.countP_append]
    by_cases he : p e = true <;> simp [he]

/-- If the entries that pass one test are charged to different ones that pass another, there are no
more of the former. -/
theorem countP_le_of_injOn (charge : Nat → Nat)
    (hmaps : ∀ i, (∃ e, es[i]? = some e ∧ p e = true) →
      ∃ e, es[charge i]? = some e ∧ q e = true)
    (hinj : Set.InjOn charge {i | ∃ e, es[i]? = some e ∧ p e = true}) :
    es.countP p ≤ es.countP q := by
  have hnodup : ((positions p es).map charge).Nodup := by
    apply List.Nodup.map_on
    · intro i hi i' hi' h
      exact hinj (mem_positions.mp hi) (mem_positions.mp hi') h
    · exact List.nodup_range.filter _
  have hsub : (positions p es).map charge ⊆ positions q es := by
    intro k hk
    obtain ⟨i, hi, rfl⟩ := List.mem_map.mp hk
    exact mem_positions.mpr (hmaps i (mem_positions.mp hi))
  have hle := (List.subperm_of_subset hnodup hsub).length_le
  rwa [List.length_map, length_positions, length_positions] at hle

end Positions

/-! ## Steps -/

/-- How many steps a guard has taken towards the lock and how often it has opened the lock file, by
where it is and how many checks have failed. An attempt in vain takes four steps. -/
def Stage.Spent (steps opens misses : Nat) : Stage → Prop
  | .idle => steps = 4 * misses ∧ opens = misses
  | .opened _ => steps = 4 * misses + 1 ∧ opens = misses + 1
  | .locked _ | .contended _ => steps = 4 * misses + 2 ∧ opens = misses + 1
  | .stale _ => steps + 1 = 4 * misses ∧ opens = misses
  | .verified _ | .refused _ => steps = 4 * misses + 3 ∧ opens = misses + 1
  | .emptied _ => steps = 4 * misses + 4 ∧ opens = misses + 1
  | .holding _ => steps = 4 * misses + 5 ∧ opens = misses + 1
  | .failed | .unlinked _ | .crashed => False

/-- The guard has the lock or has been refused. -/
def Stage.Answered (stage : Stage) : Prop :=
  (∃ f, stage = .holding f) ∨ ∃ p, stage = .refused p

section Steps

variable {b : GuardId} {record : LockRecord} {a : Action} {s s' : Site} {stage stage' : Stage}
  {steps opens misses : Nat}

theorem Stage.Spent.bounds (h : stage.Spent steps opens misses) :
    steps ≤ 4 * misses + 5 ∧ opens ≤ misses + 1 := by
  cases stage <;> simp only [Spent] at h <;> omega

theorem Performs.spent (h : Performs b record s a stage s' stage') (ha : a ∈ towards)
    (hs : stage.Spent steps opens misses) :
    stage'.Spent (steps + 1) (opens + if a = .enter then 1 else 0)
      (misses + if a = .verify ∧ stage'.isStale = true then 1 else 0) := by
  cases h with
  | tear _ | unlink | fail _ | distrust | misread | abandon | crash _ => simp [towards] at ha
  | leave => exact hs.elim
  | _ =>
    simp only [Stage.Spent] at hs
    simp [Stage.Spent, Stage.isStale]
    omega

/-- A guard that has taken only steps towards the lock is answered, after one attempt more than have
failed, or can go on. -/
theorem Stage.Spent.answered_or_step (h : stage.Spent steps opens misses) (b : GuardId)
    (record : LockRecord) (s : Site) : stage.Answered ∧ opens = misses + 1 ∨
      ∃ a ∈ towards, ∃ r, perform b record a s stage = some r := by
  have hstep {a : Action} {r : Site × Stage} (ha : a ∈ towards)
      (hr : perform b record a s stage = some r) :
      ∃ a ∈ towards, ∃ r, perform b record a s stage = some r := ⟨a, ha, r, hr⟩
  cases stage with
  | idle =>
    refine .inr ⟨.enter, by simp [towards], ?_⟩
    cases hc : s.current <;> simp [perform, hc]
  | opened f =>
    refine .inr ⟨.lock, by simp [towards], ?_⟩
    cases ho : s.owner f <;> simp [perform, ho]
  | locked f => exact .inr (hstep (a := .verify) (by simp [towards]) rfl)
  | stale f => exact .inr (hstep (a := .close) (by simp [towards]) rfl)
  | verified f => exact .inr (hstep (a := .empty) (by simp [towards]) rfl)
  | emptied f => exact .inr (hstep (a := .write) (by simp [towards]) rfl)
  | contended f => exact .inr (hstep (a := .report) (by simp [towards]) rfl)
  | holding f => exact .inl ⟨.inl ⟨f, rfl⟩, h.2⟩
  | refused p => exact .inl ⟨.inr ⟨p, rfl⟩, h.2⟩
  | failed | unlinked f | crashed => exact h.elim

end Steps

namespace System

variable {records : GuardId → LockRecord} {y₀ y z : System} {es : List Deed} {b : GuardId}

theorem Trail.spent (h : Trail records y₀ es y) (hb : y₀.stage b = .idle)
    (ht : ∀ e ∈ es, e.guard = b → e.action ∈ towards) :
    (y.stage b).Spent (es.countP (Deed.takenBy b)) (es.countP (Deed.opens b))
      (es.countP (Deed.misses b)) := by
  induction h with
  | start =>
    rw [hb]
    exact ⟨rfl, rfl⟩
  | @next es y z g a h step ih =>
    obtain ⟨hp, hother⟩ := performs_of_step step
    have hspent := ih fun e he => ht e (List.mem_append_left _ he)
    simp only [List.countP_append, List.countP_singleton, Deed.takenBy, Deed.opens, Deed.misses]
    by_cases hg : g = b
    · subst hg
      have ha : a ∈ towards := ht ⟨g, a, z.stage g⟩ (by simp) rfl
      simpa using hp.spent ha hspent
    · rw [hother b (Ne.symm hg)]
      simpa [hg] using hspent

/-- What is done in a run, as far as it can be. -/
def deeds (records : GuardId → LockRecord) : List (GuardId × Action) → System → List Deed
  | [], _ => []
  | (g, a) :: rest, y => match y.step records g a with
    | some z => ⟨g, a, z.stage g⟩ :: deeds records rest z
    | none => []

theorem Trail.of_run {acts : List (GuardId × Action)} (h : Trail records y₀ es y)
    (hr : y.run records acts = some z) : Trail records y₀ (es ++ deeds records acts y) z := by
  induction acts generalizing es y with
  | nil =>
    cases hr
    rwa [deeds, List.append_nil]
  | cons act acts ih =>
    obtain ⟨x, hx, hr⟩ := Option.bind_eq_some_iff.mp hr
    have hnext := ih (h.next hx) hr
    rw [List.append_assoc, List.singleton_append] at hnext
    simp only [deeds, hx]
    exact hnext

/-- While guards take steps in any order, each check of a guard that fails can be charged to another
guard that took the name away between the check and the last time that the guard had opened the lock
file, and no two checks to the same deed. So no more of them fail than others give the lock up. A guard
that meets no error is answered after at most four steps for each lock that was given up meanwhile and
five more, as it can always go on until then; and its first attempt is the only one if no other guard
does anything. -/
theorem Trail.retries_charged (h : Trail records y₀ es y) (hb : y₀.stage b = .idle) :
    (∃ charge : Nat → Nat, (∀ i, MissedAt es b i → ChargedTo es b i (charge i)) ∧
      Set.InjOn charge {i | MissedAt es b i}) ∧
    es.countP (Deed.misses b) ≤ es.countP (Deed.releases b) ∧
    ((∀ e ∈ es, e.guard = b → e.action ∈ towards) →
      es.countP (Deed.takenBy b) ≤ 4 * es.countP (Deed.releases b) + 5 ∧
      ((y.stage b).Answered ∧ es.countP (Deed.opens b) = es.countP (Deed.misses b) + 1 ∨
        ∃ a ∈ towards, ∃ z, y.step records b a = some z) ∧
      ((∀ e ∈ es, e.guard = b) →
        es.countP (Deed.misses b) = 0 ∧ es.countP (Deed.opens b) ≤ 1)) := by
  have hexists (i : Nat) : ∃ k, MissedAt es b i → ChargedTo es b i k := by
    by_cases hi : MissedAt es b i
    · exact (h.exists_charge hb hi).imp fun k hk _ => hk
    · exact ⟨0, fun hmiss => absurd hmiss hi⟩
  choose charge hcharge using hexists
  have hinj : Set.InjOn charge {i | MissedAt es b i} := by
    intro i hi i' hi' heq
    exact ChargedTo.unique hi hi' (hcharge i hi) (heq ▸ hcharge i' hi')
  have hle : es.countP (Deed.misses b) ≤ es.countP (Deed.releases b) :=
    countP_le_of_injOn charge (fun i hi => (hcharge i hi).released) hinj
  refine ⟨⟨charge, hcharge, hinj⟩, hle, fun ht => ?_⟩
  have hspent := h.spent hb ht
  have hbounds := hspent.bounds
  refine ⟨by omega, ?_, fun hall => ?_⟩
  · refine (hspent.answered_or_step b (records b) y.site).imp_right ?_
    rintro ⟨a, ha, r, hr⟩
    exact ⟨a, ha, _, congrArg (Option.map _) hr⟩
  · have hnone : es.countP (Deed.releases b) = 0 := by
      rw [List.countP_eq_zero]
      intro e he
      simp [Deed.releases, hall e he]
    omega

/-- Guard 1 opens the lock file of guard 0 before that gives the lock up, and locks it afterwards. -/
def overtaken : List (GuardId × Action) :=
  [(0, .enter), (0, .lock), (0, .verify), (0, .empty), (0, .write), (1, .enter), (0, .unlink),
    (0, .close), (1, .lock), (1, .verify), (1, .close), (1, .enter), (1, .lock), (1, .verify),
    (1, .empty), (1, .write)]

/-- Its first check fails, for which guard 0 is to blame, and it has the lock after nine steps. -/
theorem retries_charged_overtaken : ∃ es y, Trail pair leftover es y ∧ leftover.stage 1 = .idle ∧
    (∀ e ∈ es, e.guard = 1 → e.action ∈ towards) ∧ MissedAt es 1 9 ∧ ChargedTo es 1 9 6 ∧
    es.countP (Deed.misses 1) = 1 ∧ es.countP (Deed.releases 1) = 1 ∧
    es.countP (Deed.takenBy 1) = 9 ∧ 9 ≤ 4 * es.countP (Deed.releases 1) + 5 ∧
    (y.stage 1).Answered := by
  obtain ⟨y, hr, hy⟩ : ∃ y, leftover.run pair overtaken = some y ∧ y.stage 1 = .holding 1 :=
    ⟨_, rfl, rfl⟩
  have h : Trail pair leftover (deeds pair overtaken leftover) y := Trail.start.of_run hr
  have htowards : ∀ e ∈ deeds pair overtaken leftover, e.guard = 1 → e.action ∈ towards := by
    decide
  have hmiss : MissedAt (deeds pair overtaken leftover) 1 9 := ⟨_, rfl, rfl⟩
  have htaken : (deeds pair overtaken leftover).countP (Deed.takenBy 1) = 9 := rfl
  obtain ⟨⟨charge, hcharge, -⟩, -, hsteps⟩ := h.retries_charged (b := 1) rfl
  have honly : ∀ k < 9, (deeds pair overtaken leftover)[k]?.any (Deed.releases 1) = true → k = 6 := by
    decide
  have hblame : charge 9 = 6 :=
    honly (charge 9) (hcharge 9 hmiss).before
      ((Option.any_eq_true _ _).mpr (hcharge 9 hmiss).released)
  exact ⟨_, y, h, rfl, htowards, hmiss, hblame ▸ hcharge 9 hmiss, rfl, rfl, htaken,
    htaken ▸ (hsteps htowards).1, .inl ⟨1, hy⟩⟩

end System

end DrainGuard.Lock
