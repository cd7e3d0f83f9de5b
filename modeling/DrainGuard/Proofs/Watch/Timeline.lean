import DrainGuard.Watch.Poller
import Mathlib.Data.Nat.Find
import Mathlib.Order.Monotone.Basic

/-!
# The timeline of a watch

As long as no notice comes, the fetches of a watch follow a timeline that depends on nothing but
their durations and the interval.

- **Turns** (`Watch.pending`, `Watch.turns_idle`): where a watch is when it has come to some fetch,
  with any ticker. It ends there or goes on to the next one (`Watch.turn_pending`).
- **Timeline** (`Timeline.pace`, `Timeline.start`, `Timeline.answered`): when each fetch begins and
  ends in a watch without end. It never goes back, and with a positive interval it passes every
  time (`Timeline.le_answered`).
- **Turns of the timeline** (`Watch.goFrom_turn`, `Watch.run_idle`): the same for the ticker of a
  watch.
- **Ends** (`Watch.run_notice`, `Watch.run_cancelled`): a watch ends with the first notice, or with
  a cancellation before that; up to there it has begun the fetches of the timeline.
-/

namespace DrainGuard

/-- A tick is due one interval after the tick before it at the earliest. -/
theorem Ticker.add_le_next (interval due taken : Nat) :
    due + interval ≤ Ticker.next interval due taken := by
  unfold Ticker.next
  split <;> omega

namespace Watch

/-! ## Turns -/

/-- Where a watch is before the fetch with a number, if all fetches before it go by without an end.
This depends on nothing but the ticks and how long the fetches take. -/
def pending (fetch : Nat → Fetch) (tick : Ticker) : Nat → Underway
  | 0 => {}
  | k + 1 =>
    let u := pending fetch tick k
    ⟨u.start + (fetch k).millis, tick k u.due u.start, u.start :: u.calls⟩

section Turns

variable {fetch : Nat → Fetch} {tick : Ticker} {cancel : Option Nat}

theorem pending_succ (k : Nat) : pending fetch tick (k + 1) =
    ⟨(pending fetch tick k).start + (fetch k).millis,
      tick k (pending fetch tick k).due (pending fetch tick k).start,
      (pending fetch tick k).start :: (pending fetch tick k).calls⟩ := rfl

theorem reverse_calls_pending (k : Nat) : (pending fetch tick k).calls.reverse =
    (List.range k).map fun j => (pending fetch tick j).start := by
  induction k with
  | zero => rfl
  | succ k ih => rw [pending_succ, List.reverse_cons, ih, List.range_succ, List.map_append]; rfl

theorem length_calls_pending (k : Nat) : (pending fetch tick k).calls.length = k := by
  rw [← List.length_reverse, reverse_calls_pending, List.length_map, List.length_range]

theorem turns_succ (n : Nat) (u : Underway) : turns fetch tick cancel (n + 1) u =
    match turn fetch tick cancel u with
    | .ended w => .ended w
    | .going u => turns fetch tick cancel n u := rfl

/-- What becomes of a watch that has come to a fetch. -/
theorem turn_pending (k : Nat) : turn fetch tick cancel (pending fetch tick k) =
    if cancelledBy cancel (pending fetch tick k).start then
      .ended ⟨none, (pending fetch tick k).calls.reverse,
        max (pending fetch tick k).now (cancel.getD (pending fetch tick k).now)⟩
    else if cancelledBy cancel (pending fetch tick (k + 1)).now then
      .ended ⟨none, (pending fetch tick (k + 1)).calls.reverse,
        cancel.getD (pending fetch tick (k + 1)).now⟩
    else match (fetch k).notice? with
      | some n => .ended ⟨some n, (pending fetch tick (k + 1)).calls.reverse,
          (pending fetch tick (k + 1)).now⟩
      | none => .going (pending fetch tick (k + 1)) := by
  simp only [turn, length_calls_pending]
  rfl

theorem cancelledBy_eq_false {t : Nat} : cancelledBy cancel t = false ↔ ∀ c ∈ cancel, t < c := by
  cases cancel <;> simp [cancelledBy]

theorem cancelledBy_mono {t t' : Nat} (h : t ≤ t') (hc : cancelledBy cancel t' = false) :
    cancelledBy cancel t = false := by
  rw [cancelledBy_eq_false] at hc ⊢
  exact fun c hcancel => h.trans_lt (hc c hcancel)

/-- A fetch without a notice that ends before a cancellation makes no difference to the watch. -/
theorem turn_idle {k : Nat} (hn : (fetch k).notice? = none)
    (hc : cancelledBy cancel (pending fetch tick (k + 1)).now = false) :
    turn fetch tick cancel (pending fetch tick k) = .going (pending fetch tick (k + 1)) := by
  have hs : cancelledBy cancel (pending fetch tick k).start = false :=
    cancelledBy_mono (Nat.le_add_right _ _) hc
  rw [turn_pending, hs, hc, hn]
  rfl

/-- A watch comes to fetch `k` if no fetch before it bears a notice or is cancelled. -/
theorem turns_idle (k : Nat) (hn : ∀ j < k, (fetch j).notice? = none)
    (hc : ∀ j < k, cancelledBy cancel (pending fetch tick (j + 1)).now = false) (n : Nat) :
    turns fetch tick cancel (k + n) {} = turns fetch tick cancel n (pending fetch tick k) := by
  -- each fetch before `k` takes one turn
  induction k generalizing n with
  | zero => rw [Nat.zero_add]; rfl
  | succ k ih =>
    have hk := ih (fun j hj => hn j (hj.trans k.lt_succ_self))
      (fun j hj => hc j (hj.trans k.lt_succ_self)) (n + 1)
    rw [Nat.succ_add_eq_add_succ, hk, turns_succ, turn_idle (hn k k.lt_succ_self)
      (hc k k.lt_succ_self)]

end Turns

end Watch

namespace Timeline

variable (fetch : Nat → Fetch) (interval : Nat)

/-- The time from which a watch is ready for a fetch, and the time at which the tick for it is
due. -/
def pace (k : Nat) : Nat × Nat :=
  let u := Watch.pending fetch (.delaying interval) k
  (u.now, u.due)

/-- When a fetch begins. -/
def start (k : Nat) : Nat := max (pace fetch interval k).1 (pace fetch interval k).2

/-- When a fetch ends. -/
def answered (k : Nat) : Nat := start fetch interval k + (fetch k).millis

/-- When the first `k` fetches begin. -/
def starts (k : Nat) : List Nat := (List.range k).map (start fetch interval)

/-- The watch is ready for the next fetch when this one has ended; the tick for it follows the tick
of this one. -/
theorem pace_succ (k : Nat) : pace fetch interval (k + 1) =
    (answered fetch interval k,
      Ticker.next interval (pace fetch interval k).2 (start fetch interval k)) := rfl

theorem starts_eq (k : Nat) : starts fetch interval k =
    (Watch.pending fetch (.delaying interval) k).calls.reverse :=
  (Watch.reverse_calls_pending k).symm

theorem start_le_answered (k : Nat) : start fetch interval k ≤ answered fetch interval k :=
  Nat.le_add_right _ _

theorem answered_le_start (k : Nat) : answered fetch interval k ≤ start fetch interval (k + 1) :=
  Nat.le_max_left _ _

theorem answered_mono : Monotone (answered fetch interval) :=
  monotone_nat_of_le_succ fun k =>
    (answered_le_start fetch interval k).trans (start_le_answered fetch interval (k + 1))

/-- No tick is due before its place in a sequence without delays. -/
theorem mul_le_due (k : Nat) : k * interval ≤ (pace fetch interval k).2 := by
  induction k with
  | zero => exact Nat.le_of_eq (Nat.zero_mul interval)
  | succ k ih =>
    calc (k + 1) * interval = k * interval + interval := Nat.succ_mul k interval
      _ ≤ (pace fetch interval k).2 + interval := Nat.add_le_add_right ih interval
      _ ≤ (pace fetch interval (k + 1)).2 := by
        rw [pace_succ]
        exact Ticker.add_le_next _ _ _

variable {interval}

/-- The timeline passes every time. -/
theorem le_answered (hi : 0 < interval) (k : Nat) : k ≤ answered fetch interval k :=
  calc k ≤ k * interval := Nat.le_mul_of_pos_right k hi
    _ ≤ (pace fetch interval k).2 := mul_le_due fetch interval k
    _ ≤ start fetch interval k := Nat.le_max_right _ _
    _ ≤ answered fetch interval k := start_le_answered fetch interval k

end Timeline

namespace Watch

open Timeline

/-! ## Turns of the timeline -/

/-- The first fetch that bears a notice, and the notice. -/
structure FirstNotice (fetch : Nat → Fetch) (m : Nat) (n : Notice) : Prop where
  bears : (fetch m).notice? = some n
  silent : ∀ k < m, (fetch k).notice? = none

variable {fetch : Nat → Fetch} {interval : Nat} {cancel : Option Nat}

/-- What is left of a watch that has come to fetch `k`. -/
def goFrom (fetch : Nat → Fetch) (interval : Nat) (cancel : Option Nat) (k fuel : Nat) :
    Option Watch :=
  (turns fetch (.delaying interval) cancel fuel (pending fetch (.delaying interval) k)).ended?

theorem goFrom_turn (k fuel : Nat) : goFrom fetch interval cancel k (fuel + 1) =
    if cancelledBy cancel (start fetch interval k) then
      some ⟨none, starts fetch interval k, max (pace fetch interval k).1
        (cancel.getD (pace fetch interval k).1)⟩
    else if cancelledBy cancel (answered fetch interval k) then
      some ⟨none, starts fetch interval (k + 1), cancel.getD (answered fetch interval k)⟩
    else match (fetch k).notice? with
      | some n => some ⟨some n, starts fetch interval (k + 1), answered fetch interval k⟩
      | none => goFrom fetch interval cancel (k + 1) fuel := by
  have hstart : (pending fetch (.delaying interval) k).start = start fetch interval k := rfl
  have hdone : (pending fetch (.delaying interval) (k + 1)).now = answered fetch interval k := rfl
  rw [goFrom, turns_succ, turn_pending, hstart, hdone, starts_eq, starts_eq]
  cases cancelledBy cancel (start fetch interval k) with
  | true => rfl
  | false =>
    cases cancelledBy cancel (answered fetch interval k) with
    | true => rfl
    | false => cases (fetch k).notice? <;> rfl

/-- A watch comes to fetch `k` if no fetch before it bears a notice or is cancelled. -/
theorem run_idle (k : Nat) (hn : ∀ j < k, (fetch j).notice? = none)
    (hc : ∀ j < k, cancelledBy cancel (answered fetch interval j) = false) (fuel : Nat) :
    run fetch interval cancel (k + fuel) = goFrom fetch interval cancel k fuel :=
  congrArg Turned.ended? (turns_idle k hn hc fuel)

/-! ## Ends -/

/-- A watch that is not cancelled before the end of the first fetch with a notice ends with that
fetch. -/
theorem run_notice {m : Nat} {n : Notice} (h : FirstNotice fetch m n)
    (hc : ∀ c ∈ cancel, answered fetch interval m < c) {fuel : Nat} (hf : m < fuel) :
    run fetch interval cancel fuel =
      some ⟨some n, starts fetch interval (m + 1), answered fetch interval m⟩ := by
  have hm : cancelledBy cancel (answered fetch interval m) = false := by
    cases cancel with
    | none => rfl
    | some c => simpa [cancelledBy] using hc c rfl
  have hj (j : Nat) (hj : j < m) : cancelledBy cancel (answered fetch interval j) = false :=
    cancelledBy_mono (answered_mono fetch interval hj.le) hm
  obtain ⟨d, rfl⟩ := Nat.exists_eq_add_of_lt hf
  rw [Nat.add_assoc, run_idle m h.silent hj, goFrom_turn,
    cancelledBy_mono (start_le_answered fetch interval m) hm, hm, h.bears]
  rfl

/-- A watch that is cancelled in the turn of fetch `k` ends at once. The fetch has begun unless the
cancellation came while the watch was waiting for the tick. -/
theorem run_cancelled {k c : Nat} (hn : ∀ j < k, (fetch j).notice? = none)
    (hbefore : ∀ j < k, answered fetch interval j < c) (hk : c ≤ answered fetch interval k)
    {fuel : Nat} (hf : k < fuel) : run fetch interval (some c) fuel =
      some ⟨none, starts fetch interval (if c ≤ start fetch interval k then k else k + 1), c⟩ := by
  have hj (j : Nat) (hj : j < k) : cancelledBy (some c) (answered fetch interval j) = false := by
    simpa [cancelledBy] using hbefore j hj
  -- the watch was ready for fetch `k` when the one before it ended, so the end is not earlier
  have hready : (pace fetch interval k).1 ≤ c := by
    cases k with
    | zero => exact Nat.zero_le c
    | succ k => exact (hbefore k k.lt_succ_self).le
  obtain ⟨d, rfl⟩ := Nat.exists_eq_add_of_lt hf
  rw [Nat.add_assoc, run_idle k hn hj, goFrom_turn]
  by_cases hs : c ≤ start fetch interval k
  · simp [cancelledBy, hs, hready]
  · simp [cancelledBy, hs, hk]

/-- Every cancellation comes in the turn of some fetch. -/
theorem exists_turn (fetch : Nat → Fetch) (hi : 0 < interval) (c : Nat) :
    ∃ k, (∀ j < k, answered fetch interval j < c) ∧ c ≤ answered fetch interval k := by
  have hex : ∃ k, c ≤ answered fetch interval k := ⟨c, le_answered fetch hi c⟩
  exact ⟨Nat.find hex, fun j hj => Nat.lt_of_not_le (Nat.find_min hex hj), Nat.find_spec hex⟩

end Watch

end DrainGuard
