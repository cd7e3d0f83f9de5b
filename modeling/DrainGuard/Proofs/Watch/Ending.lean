import DrainGuard.Proofs.Watch.Timeline

/-!
# How a watch ends

A watch ends with a notice or by its cancellation, whichever comes first.

- **Ends** (`Watch.Ends`): what a watch comes to, whatever the number of fetches it takes. There is
  one end at most (`Watch.Ends.unique`).
- **Failures** (`Watch.run_hushed`): a fetch that fails is a fetch without a notice.
- **Cancellations** (`Watch.Ends.cancelled`): only a cancellation ends a watch without a notice, and
  then at once; the fetches up to then are those that the timeline has before it.
- **All watches** (`Watch.ends_resolved`).
-/

namespace DrainGuard

/-- The same fetch, with no notice in place of a failure. -/
def Fetch.hushed (f : Fetch) : Fetch :=
  match f.answer with
  | .ok _ => f
  | .error _ => { f with answer := .ok none }

theorem Fetch.hushed_millis (f : Fetch) : f.hushed.millis = f.millis := by
  unfold hushed
  split <;> rfl

theorem Fetch.hushed_notice? (f : Fetch) : f.hushed.notice? = f.notice? := by
  unfold hushed
  split
  · rfl
  · next h => simp only [notice?, h]

namespace Watch

open Timeline

variable {fetch : Nat → Fetch} {interval : Nat} {cancel : Option Nat} {w w' : Watch}

/-! ## Ends -/

/-- What a watch comes to. -/
def Ends (fetch : Nat → Fetch) (interval : Nat) (cancel : Option Nat) (w : Watch) : Prop :=
  ∃ fuel, run fetch interval cancel fuel = some w

/-- A watch that has ended makes no more turns. -/
theorem turns_mono {tick : Ticker} (n : Nat) {u : Underway}
    (h : turns fetch tick cancel n u = .ended w) (extra : Nat) :
    turns fetch tick cancel (n + extra) u = .ended w := by
  induction n generalizing u with
  | zero => cases h
  | succ n ih =>
    rw [Nat.succ_add]
    rw [turns_succ] at h ⊢
    cases ht : turn fetch tick cancel u with
    | ended v => rwa [ht] at h
    | going v =>
      rw [ht] at h
      exact ih h

theorem run_eq_some {fuel : Nat} : run fetch interval cancel fuel = some w ↔
    turns fetch (.delaying interval) cancel fuel {} = .ended w := by
  unfold run
  cases turns fetch (.delaying interval) cancel fuel {} <;> simp [Turned.ended?]

theorem Ends.unique (h : Ends fetch interval cancel w) (h' : Ends fetch interval cancel w') :
    w = w' := by
  obtain ⟨fuel, h⟩ := h
  obtain ⟨fuel', h'⟩ := h'
  have hw := turns_mono fuel (run_eq_some.mp h) fuel'
  rw [Nat.add_comm, turns_mono fuel' (run_eq_some.mp h') fuel] at hw
  exact (Turned.ended.inj hw).symm

theorem Ends.iff_eq (h : Ends fetch interval cancel w) :
    Ends fetch interval cancel w' ↔ w' = w :=
  ⟨fun h' => h'.unique h, fun he => he ▸ h⟩

/-! ## Failures -/

/-- A watch depends on nothing but how long each fetch takes and whether it bears a notice. -/
theorem turns_congr {tick : Ticker} {fetch' : Nat → Fetch}
    (hm : ∀ k, (fetch' k).millis = (fetch k).millis)
    (hn : ∀ k, (fetch' k).notice? = (fetch k).notice?) (n : Nat) (u : Underway) :
    turns fetch' tick cancel n u = turns fetch tick cancel n u := by
  induction n generalizing u with
  | zero => rfl
  | succ n ih => simp only [turns, turn, hm, hn, ih]

/-- A fetch that fails is a fetch without a notice. -/
theorem run_hushed (fuel : Nat) : run (fun k => (fetch k).hushed) interval cancel fuel =
    run fetch interval cancel fuel :=
  congrArg Turned.ended?
    (turns_congr (fun k => (fetch k).hushed_millis) (fun k => (fetch k).hushed_notice?) fuel {})

/-! ## Cancellations -/

/-- A cancelled watch ends at once, with the fetches that the timeline begins before that. -/
def CancelledAt (fetch : Nat → Fetch) (interval c : Nat) : Prop :=
  ∃ k, Ends fetch interval (some c) ⟨none, starts fetch interval k, c⟩ ∧
    ∀ j, j < k ↔ start fetch interval j < c

/-- A cancellation in the turn of fetch `k` comes after the beginning of all fetches before `k`, and
before the beginning of all those after `k`. -/
theorem lt_turn_iff {k c : Nat} (hbefore : ∀ j < k, answered fetch interval j < c)
    (hk : c ≤ answered fetch interval k) (j : Nat) :
    (j < if c ≤ start fetch interval k then k else k + 1) ↔ start fetch interval j < c := by
  rcases Nat.lt_trichotomy j k with hj | rfl | hj
  · have hc := (start_le_answered fetch interval j).trans_lt (hbefore j hj)
    split <;> omega
  · split <;> omega
  · have hc : answered fetch interval k ≤ start fetch interval j :=
      calc answered fetch interval k ≤ answered fetch interval (j - 1) :=
            answered_mono fetch interval (Nat.le_sub_one_of_lt hj)
        _ ≤ start fetch interval (j - 1 + 1) := answered_le_start fetch interval (j - 1)
        _ = start fetch interval j := by rw [Nat.sub_add_cancel (Nat.one_le_of_lt hj)]
    split <;> omega

/-- A watch that is cancelled in the turn of fetch `k`, without a notice before. -/
theorem cancelledAt_turn {k c : Nat} (hn : ∀ j < k, (fetch j).notice? = none)
    (hbefore : ∀ j < k, answered fetch interval j < c) (hk : c ≤ answered fetch interval k) :
    CancelledAt fetch interval c :=
  ⟨_, ⟨k + 1, run_cancelled hn hbefore hk k.lt_succ_self⟩, lt_turn_iff hbefore hk⟩

/-- A watch that is cancelled before the first fetch with a notice has ended. -/
theorem FirstNotice.cancelledAt {m : Nat} {n : Notice} (h : FirstNotice fetch m n)
    (hi : 0 < interval) {c : Nat} (hc : c ≤ answered fetch interval m) :
    CancelledAt fetch interval c := by
  obtain ⟨k, hbefore, hk⟩ := exists_turn fetch hi c
  have hkm : k ≤ m := by
    by_contra hlt
    exact absurd (hbefore m (Nat.lt_of_not_le hlt)) (Nat.not_lt_of_le hc)
  exact cancelledAt_turn (fun j hj => h.silent j (hj.trans_le hkm)) hbefore hk

/-- A watch that is cancelled where no fetch bears a notice. -/
theorem silent_cancelledAt (hn : ∀ k, (fetch k).notice? = none) (hi : 0 < interval) (c : Nat) :
    CancelledAt fetch interval c := by
  obtain ⟨k, hbefore, hk⟩ := exists_turn fetch hi c
  exact cancelledAt_turn (fun j _ => hn j) hbefore hk

/-- A watch that is never cancelled does not end as long as there is no notice. -/
theorem not_ends (hn : ∀ k, (fetch k).notice? = none) : ¬Ends fetch interval none w := by
  rintro ⟨fuel, h⟩
  have hidle : run fetch interval none (fuel + 0) = _ :=
    run_idle fuel (fun j _ => hn j) (fun _ _ => rfl) 0
  rw [Nat.add_zero, h] at hidle
  cases hidle

theorem exists_firstNotice (fetch : Nat → Fetch) :
    (∃ m n, FirstNotice fetch m n) ∨ ∀ k, (fetch k).notice? = none := by
  by_cases hex : ∃ k, (fetch k).notice? ≠ none
  · obtain ⟨n, hn⟩ := Option.ne_none_iff_exists'.mp (Nat.find_spec hex)
    exact .inl ⟨Nat.find hex, n, hn, fun k hk => not_not.mp (Nat.find_min hex hk)⟩
  · exact .inr fun k => not_not.mp fun hk => hex ⟨k, hk⟩

/-- Only a cancellation ends a watch without a notice, and the watch ends with it. -/
theorem Ends.cancelled (h : Ends fetch interval cancel w) (hi : 0 < interval)
    (hw : w.notice = none) : cancel = some w.finish := by
  have finish {c : Nat} (hc : CancelledAt fetch interval c) (hcancel : cancel = some c) :
      cancel = some w.finish := by
    obtain ⟨k, hk, -⟩ := hc
    rw [h.unique (hcancel ▸ hk), hcancel]
  rcases exists_firstNotice fetch with ⟨m, n, hn⟩ | hn
  · by_cases hc : ∀ c ∈ cancel, answered fetch interval m < c
    · rw [h.unique ⟨m + 1, run_notice hn hc m.lt_succ_self⟩] at hw
      cases hw
    · simp only [not_forall, Nat.not_lt] at hc
      obtain ⟨c, hcancel, hc⟩ := hc
      exact finish (hn.cancelledAt hi hc) hcancel
  · cases hcancel : cancel with
    | none => exact absurd (hcancel ▸ h) (not_ends hn)
    | some c => exact hcancel ▸ finish (silent_cancelledAt hn hi c) hcancel

/-! ## All watches -/

/-- What a watch comes to, by the fetches, the interval and the time of its cancellation. -/
structure Resolved (fetch : Nat → Fetch) (interval : Nat) : Prop where
  /-- It ends with the first notice, after all fetches up to that one, if it is not cancelled by
  then. -/
  noticed : ∀ m n, FirstNotice fetch m n → ∀ cancel,
    (∀ c ∈ cancel, answered fetch interval m < c) → ∀ w, Ends fetch interval cancel w ↔
      w = ⟨some n, starts fetch interval (m + 1), answered fetch interval m⟩
  /-- A cancellation before that ends it at once. -/
  cancelled : ∀ m n, FirstNotice fetch m n → ∀ c < answered fetch interval m,
    CancelledAt fetch interval c
  /-- So does any cancellation where there is no notice. -/
  silenced : (∀ k, (fetch k).notice? = none) → ∀ c, CancelledAt fetch interval c
  /-- Without a cancellation it comes to each fetch of the timeline, up to the first notice. -/
  paced : ∀ k, (∀ j < k, (fetch j).notice? = none) → ∀ fuel,
    run fetch interval none (k + fuel) = goFrom fetch interval none k fuel
  /-- Without notice and cancellation it never ends. -/
  endless : (∀ k, (fetch k).notice? = none) → ∀ w, ¬Ends fetch interval none w
  /-- A failure is no notice. -/
  hushed : ∀ cancel w,
    Ends (fun k => (fetch k).hushed) interval cancel w ↔ Ends fetch interval cancel w
  /-- It ends without a notice only if it is cancelled. -/
  unnoticed : ∀ cancel w, Ends fetch interval cancel w → w.notice = none → cancel = some w.finish

/-- Every watch with a positive interval comes to the notice or the cancellation that is first. -/
theorem ends_resolved (fetch : Nat → Fetch) (hi : 0 < interval) : Resolved fetch interval where
  noticed m n h cancel hc w := Ends.iff_eq ⟨m + 1, run_notice h hc m.lt_succ_self⟩
  cancelled m n h c hc := h.cancelledAt hi hc.le
  silenced hn c := silent_cancelledAt hn hi c
  paced k hn fuel := run_idle k hn (fun _ _ => rfl) fuel
  endless hn _ := not_ends hn
  hushed cancel w := exists_congr fun fuel => by rw [run_hushed]
  unnoticed cancel w h hw := h.cancelled hi hw

/-- A cancellation while the second look is under way, whose notice would have come later. The
first look fails. -/
theorem ends_resolved_interrupted :
    let n : Notice := ⟨.terminate, ⟨1767225600, 0⟩⟩
    let fetch : Nat → Fetch := fun k =>
      ⟨20, if k = 1 then .ok (some n) else .error (.system "down")⟩
    0 < 5000 ∧ FirstNotice fetch 1 n ∧ 5010 < answered fetch 5000 1 ∧
      CancelledAt fetch 5000 5010 ∧ Ends fetch 5000 (some 5010) ⟨none, [0, 5000], 5010⟩ := by
  intro n fetch
  have hi : 0 < 5000 := by decide
  have hn : FirstNotice fetch 1 n := ⟨rfl, fun k hk => by rw [Nat.lt_one_iff.mp hk]; rfl⟩
  have hc : 5010 < answered fetch 5000 1 := by decide
  exact ⟨hi, hn, hc, (ends_resolved fetch hi).cancelled 1 n hn 5010 hc, 2, rfl⟩

end Watch

end DrainGuard
