import DrainGuard.Proofs.Notice.RoundTrip

/-!
# The time that is left

How the time left until a notice takes effect runs down. The span between two instants counts a leap
second where it lies between their times of day, on whichever days they are, so the time left does
not always follow the order of the instants.

- **Spans** (`Moment.ahead`): the span between two instants in nanoseconds.
- **Signs** (`Moment.ahead_nonpos_iff`): within a day the span is negative where the order says so,
  and between days where the readings of the clock say so.
- **Steps back** (`Moment.Rewinds`): where the span to a fixed instant gets longer as time goes by.
  All of them have to do with leap seconds.
- **Countdowns** (`Notice.ofDocument_remaining`): when nothing is left of the time, and when more is
  left later than before.
-/

namespace DrainGuard

/-! ## Spans -/

namespace Span

theorem total_ofNanos (n : Int) : (ofNanos n).total = n := by
  show n / nanosPerSecond * nanosPerSecond + ((n % nanosPerSecond).toNat : Int) = n
  unfold nanosPerSecond
  omega

theorem ofNanos_eq_zero_iff {n : Int} : ofNanos n = zero ↔ n = 0 := by
  constructor
  · intro h
    rw [← total_ofNanos n, h]
    rfl
  · rintro rfl
    rfl

theorem clamp_ofNanos (n : Int) : (ofNanos n).clamp = ofNanos (max 0 n) := by
  unfold clamp
  rw [total_ofNanos]
  split
  · next h => rw [Int.max_eq_left (Int.le_of_lt h)]; rfl
  · next h => rw [Int.max_eq_right (Int.not_lt.mp h)]

end Span

namespace Moment

variable {s t u : Moment}

/-- The instant lies in a leap second. -/
def InLeapSecond (m : Moment) : Prop := nanosPerSecond ≤ m.nanos

instance (m : Moment) : Decidable m.InLeapSecond :=
  inferInstanceAs (Decidable (nanosPerSecond ≤ m.nanos))

/-- The reading of a clock in nanoseconds since 1970. A leap second reads like the second after
it. -/
def reading (m : Moment) : Int := m.seconds * nanosPerSecond + m.nanos

/-- Nanoseconds from `t` to `s`, negative if they go back. -/
def ahead (s t : Moment) : Int := s.reading - t.reading + leapBetween s t * nanosPerSecond

theorem since_eq (s t : Moment) : s.since t = Span.ofNanos (s.ahead t) := by
  refine congrArg Span.ofNanos ?_
  unfold ahead reading nanosPerSecond
  omega

theorem le_iff : t.le u = true ↔
    t.seconds < u.seconds ∨ t.seconds = u.seconds ∧ t.nanos ≤ u.nanos := by
  unfold le Moment.compare
  simp only [bne_iff_ne, ne_eq, Ordering.then_eq_gt, Int.compare_eq_gt, Int.compare_eq_eq,
    Nat.compare_eq_gt]
  omega

/-- The place of an instant in its day. -/
theorem Valid.clock (h : t.Valid) :
    t.seconds = t.day * 86400 + t.secondOfDay ∧ 0 ≤ t.secondOfDay ∧ t.secondOfDay < 86400 ∧
      t.nanos < 2000000000 ∧ (t.InLeapSecond → t.secondOfDay % 60 = 59) := by
  obtain ⟨hnanos, hleap⟩ := h
  unfold InLeapSecond day secondOfDay secondsPerDay nanosPerSecond at *
  refine ⟨by omega, by omega, by omega, hnanos, fun h => ?_⟩
  have hminute := hleap h
  omega

theorem leapBetween_cases (s t : Moment) :
    (t.secondOfDay < s.secondOfDay ∧ t.InLeapSecond ∧ leapBetween s t = 1) ∨
    (s.secondOfDay < t.secondOfDay ∧ s.InLeapSecond ∧ leapBetween s t = -1) ∨
    (¬(t.secondOfDay < s.secondOfDay ∧ t.InLeapSecond) ∧
      ¬(s.secondOfDay < t.secondOfDay ∧ s.InLeapSecond) ∧ leapBetween s t = 0) := by
  unfold leapBetween InLeapSecond
  split
  · next h => exact .inl ⟨h.1, h.2, rfl⟩
  · next h =>
    split
    · next h' => exact .inr (.inl ⟨h'.1, h'.2, rfl⟩)
    · next h' => exact .inr (.inr ⟨h, h', rfl⟩)

/-! ## Signs -/

theorem ahead_nonpos_iff (hs : s.Valid) (ht : t.Valid) :
    s.ahead t ≤ 0 ↔ if s.day = t.day then s.le t = true else s.reading ≤ t.reading := by
  obtain ⟨hs₁, hs₂, hs₃, hs₄, hs₅⟩ := hs.clock
  obtain ⟨ht₁, ht₂, ht₃, ht₄, ht₅⟩ := ht.clock
  have hleap := leapBetween_cases s t
  rw [le_iff]
  unfold ahead reading
  unfold InLeapSecond nanosPerSecond at *
  split
  · omega
  · omega

/-- Beside leap seconds the clock reads what the order says. -/
theorem reading_le_iff (hs : ¬s.InLeapSecond) (ht : ¬t.InLeapSecond) :
    s.reading ≤ t.reading ↔ s.le t = true := by
  rw [le_iff]
  unfold InLeapSecond reading nanosPerSecond at *
  omega

/-! ## Steps back -/

/-- The ways in which the span to `s` is longer at `u` than it was before, at `t`. -/
inductive Rewinds (s t u : Moment) : Prop where
  /-- A leap second before the time of day of `s` counts like the second that it follows, so this
  second starts again. -/
  | again (same : t.seconds = u.seconds) (plain : ¬t.InLeapSecond) (leap : u.InLeapSecond)
    (early : u.secondOfDay < s.secondOfDay) (less : u.reading < t.reading + nanosPerSecond)
  /-- Any other leap second counts like the second that follows it, so this second starts again,
  unless the leap second is that of `s` and the second is after it on the same day. -/
  | overlap (next : u.seconds = t.seconds + 1) (late : s.secondOfDay ≤ t.secondOfDay)
    (apart : s.InLeapSecond → s.secondOfDay = t.secondOfDay → u.day ≠ t.day)
    (less : u.reading < t.reading)
  /-- If `s` lies in a leap second, this counts as one of every day before, as soon as the time of
  day has passed. At the end of the day it is dropped. -/
  | midnight (leap : s.InLeapSecond) (late : s.secondOfDay < t.secondOfDay)
    (early : u.secondOfDay ≤ s.secondOfDay) (less : u.reading < t.reading + nanosPerSecond)

theorem Rewinds.inLeapSecond (h : Rewinds s t u) :
    s.InLeapSecond ∨ t.InLeapSecond ∨ u.InLeapSecond := by
  cases h with
  | again _ _ leap => exact .inr (.inr leap)
  | overlap next late apart less =>
    have ht : t.InLeapSecond := by
      unfold reading at less
      unfold InLeapSecond nanosPerSecond at *
      omega
    exact .inr (.inl ht)
  | midnight leap => exact .inl leap

theorem Rewinds.ahead_lt (hs : s.Valid) (ht : t.Valid) (hu : u.Valid) (h : Rewinds s t u) :
    s.ahead t < s.ahead u := by
  obtain ⟨hs₁, hs₂, hs₃, hs₄, hs₅⟩ := hs.clock
  obtain ⟨ht₁, ht₂, ht₃, ht₄, ht₅⟩ := ht.clock
  obtain ⟨hu₁, hu₂, hu₃, hu₄, hu₅⟩ := hu.clock
  have hst := leapBetween_cases s t
  have hsu := leapBetween_cases s u
  unfold ahead
  cases h with
  | again same plain leap early less =>
    unfold InLeapSecond reading nanosPerSecond at *
    omega
  | overlap next late apart less =>
    unfold InLeapSecond reading nanosPerSecond at *
    omega
  | midnight leap late early less =>
    unfold InLeapSecond reading nanosPerSecond at *
    omega

theorem rewinds_of_ahead_lt (hs : s.Valid) (ht : t.Valid) (hu : u.Valid) (htu : t.le u = true)
    (h : s.ahead t < s.ahead u) : Rewinds s t u := by
  obtain ⟨hs₁, hs₂, hs₃, hs₄, hs₅⟩ := hs.clock
  obtain ⟨ht₁, ht₂, ht₃, ht₄, ht₅⟩ := ht.clock
  obtain ⟨hu₁, hu₂, hu₃, hu₄, hu₅⟩ := hu.clock
  rw [le_iff] at htu
  unfold ahead at h
  have hst := leapBetween_cases s t
  -- the readings go up with the order but for a second, so the leap seconds decide
  rcases leapBetween_cases s u with ⟨hu₆, hu₇, hsu⟩ | ⟨hu₆, hu₇, hsu⟩ | ⟨hu₆, hu₇, hsu⟩
  · refine .again ?_ ?_ hu₇ hu₆ ?_
    all_goals
      unfold InLeapSecond reading nanosPerSecond at *
      omega
  · refine .overlap ?_ ?_ ?_ ?_
    all_goals
      unfold InLeapSecond reading nanosPerSecond at *
      omega
  · rcases hst with ⟨ht₆, ht₇, hst⟩ | ⟨ht₆, ht₇, hst⟩ | ⟨ht₆, ht₇, hst⟩
    · exfalso
      unfold InLeapSecond reading nanosPerSecond at *
      omega
    · refine .midnight ht₇ ht₆ ?_ ?_
      all_goals
        unfold InLeapSecond reading nanosPerSecond at *
        omega
    · refine .overlap ?_ ?_ ?_ ?_
      all_goals
        unfold InLeapSecond reading nanosPerSecond at *
        omega

end Moment

/-! ## Countdowns -/

namespace Notice

open Moment (Rewinds)

variable {n : Notice} {t u : Moment}

theorem remaining_eq (n : Notice) (t : Moment) :
    n.remaining t = .ofNanos (max 0 (n.scheduled.ahead t)) := by
  rw [remaining, Moment.since_eq, Span.clamp_ofNanos]

theorem total_remaining (n : Notice) (t : Moment) :
    (n.remaining t).total = max 0 (n.scheduled.ahead t) := by
  rw [remaining_eq, Span.total_ofNanos]

theorem remaining_eq_zero_iff : n.remaining t = .zero ↔ n.scheduled.ahead t ≤ 0 := by
  rw [remaining_eq, Span.ofNanos_eq_zero_iff]
  omega

/-- The time left is never negative. On the day of the scheduled instant, nothing is left exactly
when that has passed; on other days, exactly when the clock reads no less than at the scheduled
instant. More is left later than before exactly when any is left and the span to the scheduled
instant steps back in between. So beside leap seconds nothing is left exactly when the scheduled
instant has passed, and no more is left later than before. -/
theorem ofDocument_remaining {text : String} (h : ofDocument text = .ok n) (ht : t.Valid)
    (hu : u.Valid) (htu : t.le u = true) :
    (0 ≤ (n.remaining t).total ∧ 0 ≤ (n.remaining u).total) ∧
    (n.remaining t = .zero ↔ if n.scheduled.day = t.day then n.scheduled.le t = true
      else n.scheduled.reading ≤ t.reading) ∧
    ((n.remaining t).total < (n.remaining u).total ↔
      n.remaining u ≠ .zero ∧ Rewinds n.scheduled t u) ∧
    (¬n.scheduled.InLeapSecond → ¬t.InLeapSecond →
      (n.remaining t = .zero ↔ n.scheduled.le t = true) ∧
      (¬u.InLeapSecond → (n.remaining u).total ≤ (n.remaining t).total)) := by
  obtain ⟨_, _, -, -, hm⟩ := ofDocument_eq_ok_iff.mp h
  have hs : n.scheduled.Valid := (Rfc3339.parse_exists hm).1
  have hzero := remaining_eq_zero_iff.trans (Moment.ahead_nonpos_iff hs ht)
  have hmore : (n.remaining t).total < (n.remaining u).total ↔
      n.remaining u ≠ .zero ∧ Rewinds n.scheduled t u := by
    have hrewinds : n.scheduled.ahead t < n.scheduled.ahead u ↔ Rewinds n.scheduled t u :=
      ⟨Moment.rewinds_of_ahead_lt hs ht hu htu, Rewinds.ahead_lt hs ht hu⟩
    rw [total_remaining, total_remaining, ← hrewinds, ne_eq, remaining_eq_zero_iff]
    omega
  refine ⟨?_, hzero, hmore, fun hleap hleap' => ⟨?_, fun hleap'' => ?_⟩⟩
  · rw [total_remaining, total_remaining]
    exact ⟨Int.le_max_left .., Int.le_max_left ..⟩
  · rw [hzero, Moment.reading_le_iff hleap hleap', ite_self]
  · refine Int.not_lt.mp fun hlt => ?_
    rcases (hmore.mp hlt).2.inLeapSecond with hin | hin | hin
    exacts [hleap hin, hleap' hin, hleap'' hin]

theorem ofDocument_leap_second : ofDocument (body "stop" "2016-12-31T23:59:60.5Z") =
    .ok ⟨.stop, ⟨1483228799, 1500000000⟩⟩ :=
  ofDocument_eq_ok_iff.mpr ⟨_, _, announces_body _ _, by decide, by decide⟩

/-- A quarter of a second before the end of a minute, and a quarter of a second into a leap second
that follows it. -/
theorem ofDocument_remaining_rewound :
    let n : Notice := ⟨.stop, ⟨1483228799, 1500000000⟩⟩
    let t : Moment := ⟨1483225199, 750000000⟩
    let u : Moment := ⟨1483225199, 1250000000⟩
    ofDocument (body "stop" "2016-12-31T23:59:60.5Z") = .ok n ∧ t.Valid ∧ u.Valid ∧
      t.le u = true ∧ Rewinds n.scheduled t u ∧ (n.remaining t).total < (n.remaining u).total := by
  intro n t u
  have hrewinds : Rewinds n.scheduled t u :=
    .again rfl (by decide) (by decide) (by decide) (by decide)
  obtain ⟨-, -, hmore, -⟩ := ofDocument_remaining ofDocument_leap_second (t := t) (u := u)
    (by decide) (by decide) (by decide)
  exact ⟨ofDocument_leap_second, by decide, by decide, by decide, hrewinds,
    hmore.mpr ⟨by decide, hrewinds⟩⟩

/-- A notice for the middle of a leap second at the end of a day: at midnight it has passed, but
half a second is left. And about an hour before, more is left in a leap second than ahead of it. -/
theorem remaining_leap_second :
    ∃ n, ofDocument (body "stop" "2016-12-31T23:59:60.5Z") = .ok n ∧
      (n.scheduled.le ⟨1483228800, 0⟩ = true ∧ n.remaining ⟨1483228800, 0⟩ = ⟨0, 500000000⟩ ∧
        n.remaining ⟨1483228800, 0⟩ ≠ .zero) ∧
      (Moment.le ⟨1483225199, 750000000⟩ ⟨1483225199, 1250000000⟩ = true ∧
        (n.remaining ⟨1483225199, 750000000⟩).total <
          (n.remaining ⟨1483225199, 1250000000⟩).total) :=
  ⟨_, ofDocument_leap_second, ⟨by decide, by decide, by decide⟩, by decide, by decide⟩

end Notice

end DrainGuard
