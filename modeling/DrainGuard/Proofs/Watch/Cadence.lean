import DrainGuard.Proofs.Watch.Ending

/-!
# The cadence of a watch

The fetches of a watch neither overlap nor come in bursts, whatever they take.

- **Ticks** (`Ticker.Allows`): when the tick after a taken one may be due. A tick that is a little
  late may count as on time or not; the ticker of a watch is one of those that this allows
  (`Ticker.allows_delaying`).
- **Paces** (`Paced`): fetches that begin with the ticks of such a ticker, as those of a watch do
  (`Watch.paced_pending`).
- **Cadence** (`Cadence`): how far apart fetches begin. A delay of one fetch reaches the next one,
  but the ticker never falls behind by more than its tolerance (`Paced.start_add_le`).
- **Fetches of a watch** (`Watch.Begins`, `Watch.begins_iff`): a watch begins each fetch at the time
  that its ticks give it, until there is a notice or it is cancelled. It need not end for that.
- **All watches** (`Watch.run_cadence`).
-/

namespace DrainGuard

/-! ## Ticks -/

/-- When the tick after one that was due at `due` and taken at `taken` may be due: one interval
after the former if it counts as on time, and one interval after the latter if not. A tick that is
late by no more than the tolerance may count as either. -/
def Ticker.Allows (interval due taken next : Nat) : Prop :=
  (taken ≤ due + tolerance ∧ next = due + interval) ∨ (due < taken ∧ next = taken + interval)

theorem Ticker.allows_delaying {interval : Nat} (k due taken : Nat) :
    Ticker.Allows interval due taken (Ticker.delaying interval k due taken) := by
  unfold Allows delaying next
  split
  · next h => exact .inr ⟨by omega, rfl⟩
  · next h => exact .inl ⟨Nat.le_of_not_lt h, rfl⟩

/-! ## Paces -/

/-- Fetches of these durations, one after the other, each with a tick of its own: the first tick is
due at once, and a fetch begins when its tick is due or when the fetch before it has ended,
whichever is later. -/
structure Paced (interval : Nat) (millis due start done : Nat → Nat) : Prop where
  due_zero : due 0 = 0
  start_zero : start 0 = due 0
  done_eq : ∀ k, done k = start k + millis k
  due_succ : ∀ k, Ticker.Allows interval (due k) (start k) (due (k + 1))
  start_succ : ∀ k, start (k + 1) = max (done k) (due (k + 1))

/-- How far apart fetches of these durations begin. -/
structure Cadence (interval : Nat) (millis start done : Nat → Nat) : Prop where
  first : start 0 = 0
  /-- No fetch begins before the one before it has ended. -/
  apart : ∀ k, done k ≤ start (k + 1)
  /-- The next fetch begins after the interval at the latest, or as soon as this one has ended. -/
  prompt : ∀ k, start (k + 1) ≤ max (start k + interval) (done k)
  /-- It begins after the interval at the earliest, but for the tolerance. -/
  spread : ∀ k, start k + interval ≤ start (k + 1) + Ticker.tolerance
  /-- If no fetch so far was late by something within the tolerance, it begins exactly then. -/
  regular : ∀ k, (∀ j ≤ k, ¬(interval < millis j ∧ millis j ≤ interval + Ticker.tolerance)) →
    start (k + 1) = max (start k + interval) (done k)
  /-- If no fetch so far outlasted the interval, there is no drift. -/
  steady : ∀ k, (∀ j < k, millis j ≤ interval) → start k = k * interval

namespace Paced

variable {interval : Nat} {millis due start done : Nat → Nat}
  (h : Paced interval millis due start done)

include h

theorem due_le_start (k : Nat) : due k ≤ start k := by
  cases k with
  | zero => exact h.start_zero.ge
  | succ k =>
    rw [h.start_succ]
    exact Nat.le_max_right _ _

theorem due_succ_le (k : Nat) : due (k + 1) ≤ start k + interval := by
  have hdue := h.due_le_start k
  rcases h.due_succ k with ⟨-, hnext⟩ | ⟨-, hnext⟩ <;> omega

/-- The next tick is due no earlier than one interval after the fetch, but for the tolerance. -/
theorem start_add_le (k : Nat) : start k + interval ≤ due (k + 1) + Ticker.tolerance := by
  rcases h.due_succ k with ⟨hlate, hnext⟩ | ⟨-, hnext⟩ <;> omega

/-- After a tick that was taken on time, or too late to count so, one interval passes. -/
theorem due_succ_eq {k : Nat} (hk : start k = due k ∨ due k + Ticker.tolerance < start k) :
    due (k + 1) = start k + interval := by
  rcases h.due_succ k with ⟨hlate, hnext⟩ | ⟨-, hnext⟩ <;> omega

/-- A tick is taken on time, or too late to count so, if no fetch before it ended within the
tolerance. -/
theorem on_time_or_late {k : Nat}
    (hk : ∀ j < k, ¬(interval < millis j ∧ millis j ≤ interval + Ticker.tolerance)) :
    start k = due k ∨ due k + Ticker.tolerance < start k := by
  -- each tick of this kind makes the next one due an interval later, so only the fetch counts
  induction k with
  | zero => exact .inl h.start_zero
  | succ k ih =>
    have hdue := h.due_succ_eq (ih fun j hj => hk j (hj.trans k.lt_succ_self))
    have hlast := hk k k.lt_succ_self
    have hdone := h.done_eq k
    rw [h.start_succ]
    omega

theorem regular {k : Nat}
    (hk : ∀ j ≤ k, ¬(interval < millis j ∧ millis j ≤ interval + Ticker.tolerance)) :
    start (k + 1) = max (start k + interval) (done k) := by
  have hdue := h.due_succ_eq (h.on_time_or_late fun j hj => hk j hj.le)
  rw [h.start_succ, hdue, Nat.max_comm]

theorem steady (k : Nat) (hk : ∀ j < k, millis j ≤ interval) : start k = k * interval := by
  induction k with
  | zero => rw [h.start_zero, h.due_zero, Nat.zero_mul]
  | succ k ih =>
    have hstart := ih fun j hj => hk j (hj.trans k.lt_succ_self)
    have hend : done k ≤ start k + interval := by
      rw [h.done_eq]
      exact Nat.add_le_add_left (hk k k.lt_succ_self) _
    have hnext : start (k + 1) = max (start k + interval) (done k) :=
      h.regular fun j hj hlate => Nat.not_lt.mpr (hk j (Nat.lt_succ_of_le hj)) hlate.1
    calc start (k + 1) = start k + interval := hnext.trans (Nat.max_eq_left hend)
      _ = (k + 1) * interval := by rw [hstart, Nat.succ_mul]

theorem cadence : Cadence interval millis start done where
  first := h.start_zero.trans h.due_zero
  apart k := (Nat.le_max_left _ _).trans (h.start_succ k).ge
  prompt k := by
    have hdue := h.due_succ_le k
    rw [h.start_succ]
    omega
  spread k :=
    calc start k + interval ≤ due (k + 1) + Ticker.tolerance := h.start_add_le k
      _ ≤ start (k + 1) + Ticker.tolerance := Nat.add_le_add_right (h.due_le_start (k + 1)) _
  regular _ hk := h.regular hk
  steady k hk := h.steady k hk

end Paced

namespace Watch

variable {fetch : Nat → Fetch} {tick : Ticker} {interval : Nat} {cancel : Option Nat} {w : Watch}
  {k n t : Nat}

/-- The ticks of a watch pace its fetches. -/
theorem paced_pending (h : ∀ k due taken, Ticker.Allows interval due taken (tick k due taken)) :
    Paced interval (fun k => (fetch k).millis) (fun k => (pending fetch tick k).due)
      (fun k => (pending fetch tick k).start)
      (fun k => (pending fetch tick k).start + (fetch k).millis) where
  due_zero := rfl
  start_zero := rfl
  done_eq _ := rfl
  due_succ k := h k _ _
  start_succ _ := rfl

/-! ## Fetches of a watch -/

/-- A watch comes to begin a fetch at a time, after whatever number of turns. -/
def Begins (fetch : Nat → Fetch) (tick : Ticker) (cancel : Option Nat) (k t : Nat) : Prop :=
  ∃ n, (turns fetch tick cancel n {}).calls[k]? = some t

/-- The watch comes to a fetch: no fetch before it bears a notice, and the watch is not cancelled
before it begins. -/
structure Comes (fetch : Nat → Fetch) (tick : Ticker) (cancel : Option Nat) (k : Nat) : Prop where
  silent : ∀ j < k, (fetch j).notice? = none
  uncancelled : ∀ c ∈ cancel, (pending fetch tick k).start < c

theorem start_pending_le (k : Nat) :
    (pending fetch tick k).start ≤ (pending fetch tick (k + 1)).start :=
  (Nat.le_add_right _ (fetch k).millis).trans (Nat.le_max_left _ _)

theorem Comes.of_succ (h : Comes fetch tick cancel (k + 1)) : Comes fetch tick cancel k where
  silent j hj := h.silent j (hj.trans k.lt_succ_self)
  uncancelled c hc := (start_pending_le k).trans_lt (h.uncancelled c hc)

theorem Comes.of_le {j : Nat} (h : Comes fetch tick cancel k) (hj : j ≤ k) :
    Comes fetch tick cancel j := by
  induction k with
  | zero => rwa [Nat.le_zero.mp hj]
  | succ k ih =>
    rcases Nat.le_succ_iff.mp hj with hj | rfl
    · exact ih h.of_succ hj
    · exact h

theorem Comes.cancelledBy_start (h : Comes fetch tick cancel k) :
    cancelledBy cancel (pending fetch tick k).start = false :=
  cancelledBy_eq_false.mpr h.uncancelled

theorem Comes.cancelledBy_now (h : Comes fetch tick cancel k) :
    cancelledBy cancel (pending fetch tick k).now = false :=
  cancelledBy_mono (Nat.le_max_left _ _) h.cancelledBy_start

theorem getElem?_calls_pending : (pending fetch tick n).calls.reverse[k]? = some t ↔
    k < n ∧ t = (pending fetch tick k).start := by
  rw [reverse_calls_pending, List.getElem?_map, Option.map_eq_some_iff]
  constructor
  · rintro ⟨j, hj, rfl⟩
    obtain ⟨hlt, rfl⟩ := List.getElem?_eq_some_iff.mp hj
    rw [List.length_range] at hlt
    exact ⟨hlt, by rw [List.getElem_range]⟩
  · rintro ⟨hlt, rfl⟩
    exact ⟨k, List.getElem?_range hlt, rfl⟩

/-- If the watch comes to the fetches before one but not to that, it comes to no more. -/
theorem lt_iff_comes {m bound : Nat} (hm : ∀ j < m, Comes fetch tick cancel j)
    (hnot : ¬Comes fetch tick cancel m) (hbound : m ≤ bound) (j : Nat) :
    j < m ↔ j < bound ∧ Comes fetch tick cancel j :=
  ⟨fun hj => ⟨hj.trans_le hbound, hm j hj⟩,
    fun hj => Nat.lt_of_not_le fun hle => hnot (hj.2.of_le hle)⟩

/-- A watch that has come to a fetch begins the fetches that it comes to, up to one in each turn. -/
theorem exists_calls_turns {i : Nat} (hn : ∀ j < i, (fetch j).notice? = none)
    (hc : ∀ j < i, Comes fetch tick cancel j) :
    ∃ m, (turns fetch tick cancel n (pending fetch tick i)).calls =
        (pending fetch tick m).calls.reverse ∧
      ∀ j, j < m ↔ j < i + n ∧ Comes fetch tick cancel j := by
  -- each turn begins the fetch that the watch has come to, or ends the watch before that
  induction n generalizing i with
  | zero => exact ⟨i, rfl, fun j => ⟨fun hj => ⟨hj, hc j hj⟩, fun hj => hj.1⟩⟩
  | succ n ih =>
    rw [turns_succ, turn_pending]
    cases hs : cancelledBy cancel (pending fetch tick i).start with
    | true =>
      have hnot : ¬Comes fetch tick cancel i := fun h =>
        Bool.false_ne_true (h.cancelledBy_start.symm.trans hs)
      exact ⟨i, rfl, lt_iff_comes hc hnot (Nat.le_add_right _ _)⟩
    | false =>
      have hnext : ∀ j < i + 1, Comes fetch tick cancel j :=
        Nat.forall_lt_succ_right.mpr ⟨hc, hn, cancelledBy_eq_false.mp hs⟩
      have hbound : i + 1 ≤ i + (n + 1) := Nat.add_le_add_left (Nat.le_add_left _ _) _
      cases ha : cancelledBy cancel (pending fetch tick (i + 1)).now with
      | true =>
        have hnot : ¬Comes fetch tick cancel (i + 1) := fun h =>
          Bool.false_ne_true (h.cancelledBy_now.symm.trans ha)
        exact ⟨i + 1, rfl, lt_iff_comes hnext hnot hbound⟩
      | false =>
        cases hnotice : (fetch i).notice? with
        | some m =>
          have hnot : ¬Comes fetch tick cancel (i + 1) := fun h =>
            Option.some_ne_none m (hnotice.symm.trans (h.silent i i.lt_succ_self))
          exact ⟨i + 1, rfl, lt_iff_comes hnext hnot hbound⟩
        | none =>
          rw [Nat.add_comm n, ← Nat.add_assoc]
          exact ih (Nat.forall_lt_succ_right.mpr ⟨hn, hnotice⟩) hnext

/-- In some number of turns, a watch begins the fetches that it comes to, up to that number. -/
theorem getElem?_calls_turns : (turns fetch tick cancel n {}).calls[k]? = some t ↔
    t = (pending fetch tick k).start ∧ k < n ∧ Comes fetch tick cancel k := by
  obtain ⟨m, hcalls, hm⟩ : ∃ m, (turns fetch tick cancel n {}).calls =
      (pending fetch tick m).calls.reverse ∧ ∀ j, j < m ↔ j < 0 + n ∧ Comes fetch tick cancel j :=
    exists_calls_turns (i := 0) (fun j hj => absurd hj j.not_lt_zero)
      fun j hj => absurd hj j.not_lt_zero
  rw [hcalls, getElem?_calls_pending, hm, Nat.zero_add, and_comm]

/-- A watch begins a fetch exactly if it comes to it, and then at the time that its ticks give. -/
theorem begins_iff : Begins fetch tick cancel k t ↔
    t = (pending fetch tick k).start ∧ Comes fetch tick cancel k := by
  simp only [Begins, getElem?_calls_turns]
  exact ⟨fun ⟨_, ht, _, hk⟩ => ⟨ht, hk⟩, fun ⟨ht, hk⟩ => ⟨k + 1, ht, k.lt_succ_self, hk⟩⟩

/-- The fetches of a watch that has ended are all that it ever begins. -/
theorem getElem?_calls_iff (h : turns fetch tick cancel n {} = .ended w) :
    w.calls[k]? = some t ↔ Begins fetch tick cancel k t := by
  -- more turns make no difference, so there may be as many as the fetch needs
  have hmore : (turns fetch tick cancel (n + (k + 1)) {}).calls = w.calls := by
    rw [turns_mono n h]
    rfl
  rw [begins_iff, ← hmore, getElem?_calls_turns]
  exact ⟨fun ⟨ht, _, hk⟩ => ⟨ht, hk⟩, fun ⟨ht, hk⟩ => ⟨ht, by omega, hk⟩⟩

/-! ## All watches -/

/-- Whatever a ticker makes of a small delay and however long the fetches take, there are times in
this cadence at which a watch begins its fetches: all those up to the first notice, as long as it is
not cancelled. Among these tickers is the one of a watch, and one that has ended has begun these
fetches and no others. -/
theorem run_cadence (fetch : Nat → Fetch) (interval : Nat) :
    (∀ tick : Ticker, (∀ k due taken, Ticker.Allows interval due taken (tick k due taken)) →
      ∃ start : Nat → Nat, Cadence interval (fun k => (fetch k).millis) start
          (fun k => start k + (fetch k).millis) ∧
        ∀ cancel k t, Begins fetch tick cancel k t ↔ t = start k ∧
          (∀ j < k, (fetch j).notice? = none) ∧ ∀ c ∈ cancel, start k < c) ∧
    (∀ k due taken, Ticker.Allows interval due taken (Ticker.delaying interval k due taken)) ∧
    ∀ cancel fuel w,
      (run fetch interval cancel fuel = some w ↔
        turns fetch (.delaying interval) cancel fuel {} = .ended w) ∧
      (run fetch interval cancel fuel = some w →
        ∀ k t, w.calls[k]? = some t ↔ Begins fetch (.delaying interval) cancel k t) := by
  refine ⟨fun tick htick => ?_, Ticker.allows_delaying, fun cancel fuel w =>
    ⟨run_eq_some, fun h k t => getElem?_calls_iff (run_eq_some.mp h)⟩⟩
  refine ⟨fun k => (pending fetch tick k).start, (paced_pending htick).cadence, ?_⟩
  intro cancel k t
  rw [begins_iff]
  exact and_congr_right fun _ => ⟨fun h => ⟨h.silent, h.uncancelled⟩, fun h => ⟨h.1, h.2⟩⟩

/-- A fetch that outlasts the interval by three milliseconds delays all that follow if that counts
as a delay, and does not delay the one after the next if it counts as on time. What a cancellation
comes before does not begin. -/
theorem run_cadence_late :
    let fetch : Nat → Fetch := fun k => ⟨if k = 1 then 1003 else 10, .ok none⟩
    let strict : Ticker := fun _ due taken => if due < taken then taken + 1000 else due + 1000
    (∀ k due taken, Ticker.Allows 1000 due taken (strict k due taken)) ∧
      Begins fetch strict none 3 3003 ∧ Begins fetch (.delaying 1000) none 3 3000 ∧
      (∀ t, Begins fetch strict none 4 t → t ≤ 4003 ∧ 4003 ≤ t + 5) ∧
      ¬Begins fetch strict (some 3003) 3 3003 ∧
      run fetch 1000 (some 1500) 4 = some ⟨none, [0, 1000], 1500⟩ ∧
      ¬Begins fetch (.delaying 1000) (some 1500) 2 2003 := by
  intro fetch strict
  have hstrict (k due taken : Nat) : Ticker.Allows 1000 due taken (strict k due taken) := by
    simp only [strict, Ticker.Allows]
    split <;> omega
  obtain ⟨hall, -, hends⟩ := run_cadence fetch 1000
  obtain ⟨start, hcadence, hbegins⟩ := hall strict hstrict
  have hthird : Begins fetch strict none 3 3003 := ⟨4, by decide⟩
  have hstart : 3003 = start 3 := ((hbegins none 3 3003).mp hthird).1
  refine ⟨hstrict, hthird, ⟨4, by decide⟩, fun t ht => ?_, fun h => ?_, ?_⟩
  · obtain ⟨rfl, -⟩ := (hbegins none 4 t).mp ht
    have hprompt : start 4 ≤ max (start 3 + 1000) (start 3 + 10) := hcadence.prompt 3
    have hspread : start 3 + 1000 ≤ start 4 + 5 := hcadence.spread 3
    omega
  · have hlt := ((hbegins (some 3003) 3 3003).mp h).2.2 3003 rfl
    omega
  · have hturns :
        turns fetch (.delaying 1000) (some 1500) 4 {} = .ended ⟨none, [0, 1000], 1500⟩ := by
      simp [turns, turn, Underway.start, cancelledBy, Fetch.notice?, Ticker.delaying, Ticker.next,
        fetch]
    obtain ⟨hrun, hcalls⟩ := hends (some 1500) 4 ⟨none, [0, 1000], 1500⟩
    refine ⟨hrun.mpr hturns, fun h => ?_⟩
    have hthere := (hcalls (hrun.mpr hturns) 2 2003).mpr h
    cases hthere

/-- A fetch that outlasts the interval by a tick's tolerance does not delay the one after the
next. -/
example :
    (turns (fun k => ⟨if k = 1 then 1005 else 10, .ok none⟩) (.delaying 1000) none 4 {}).calls =
      [0, 1000, 2005, 3000] := rfl

/-- One that takes longer delays all that follow. -/
example :
    (turns (fun k => ⟨if k = 1 then 1006 else 10, .ok none⟩) (.delaying 1000) none 4 {}).calls =
      [0, 1000, 2006, 3006] := rfl

end Watch

end DrainGuard
