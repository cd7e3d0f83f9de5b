import Mathlib.Tactic.SplitIfs
import DrainGuard.Notice.Calendar

/-!
# Every day has a date

Years are taken from March, so that the leap day is the last day of a year. An era of 400 years has
146097 days, and the calendar repeats with every era.

- **Years** (`InYear`, `inYear_yearOf`): the year that is taken for a day of an era has begun on that
  day, and the day is one of its 365 or, before a leap year begins, 366 days.
- **Months** (`monthOf_spec`): the same for the months of a year.
- **Dates** (`ofDays_eq`): era, year, month and day of the year of a day number.
- **Both ways** (`toDays_ofDays`, `valid_ofDays`): the date of a day exists, and the day number of
  that date is the one that it was made from.
-/

namespace DrainGuard.Date

/-! ## Years and months -/

/-- The days of an era before a year of it. -/
def yearStart (y : Int) : Int := 365 * y + y / 4 - y / 100

/-- The days of a year before a month of it, March being 0. -/
def monthStart (m : Int) : Int := (153 * m + 2) / 5

/-- The year of a day of an era. Each fraction takes out the leap days before the day that come once
in four, in a hundred and in four hundred years. -/
def yearOf (d : Int) : Int := (d - d / 1460 + d / 36524 - d / 146096) / 365

/-- The month of a day of a year. -/
def monthOf (d : Int) : Int := (5 * d + 2) / 153

/-- The day lies in its year: it has a 366th day only if it ends in a leap year. -/
structure InYear (d y : Int) : Prop where
  nonneg : 0 ≤ y
  lt : y < 400
  start_le : yearStart y ≤ d
  le_last : d ≤ yearStart y + 365
  leap : d = yearStart y + 365 → (y + 1) % 4 = 0 ∧ ((y + 1) % 100 = 0 → (y + 1) % 400 = 0)

theorem inYear_yearOf {d : Int} (h₀ : 0 ≤ d) (h₁ : d < 146097) : InYear d (yearOf d) := by
  -- the last day of an era is the only one of the fifth century
  have hcentury : d / 36524 = 0 ∨ d / 36524 = 1 ∨ d / 36524 = 2 ∨ d / 36524 = 3 ∨ d = 146096 := by
    omega
  generalize hy : yearOf d = y
  unfold yearOf at hy
  rcases hcentury with hc | hc | hc | hc | rfl
  case inr.inr.inr.inr =>
    obtain rfl : y = 399 := by omega
    exact ⟨by decide, by decide, by decide, by decide, by decide⟩
  all_goals
    have hcent : y / 100 = d / 36524 := by omega
    have hquad : y / 4 ≤ d / 1460 := by omega
    have hquad' : d / 1460 ≤ y / 4 + 1 := by omega
    refine ⟨by omega, by omega, ?_, ?_, ?_⟩ <;> unfold yearStart
    case refine_3 =>
      intro hlast
      have hera : d / 146096 = 0 := by omega
      have hrest : y % 4 = 3 := by omega
      omega
    all_goals omega

theorem monthOf_spec {d : Int} (h₀ : 0 ≤ d) (h₁ : d ≤ 365) :
    0 ≤ monthOf d ∧ monthOf d < 12 ∧ monthStart (monthOf d) ≤ d ∧ d < monthStart (monthOf d + 1) := by
  unfold monthStart monthOf
  omega

/-! ## Dates -/

/-- The date of a day of a year of an era, and of the month that it is in. -/
def ofParts (era y m d : Int) : Date :=
  ⟨y + era * 400 + (if m < 10 then 0 else 1), (if m < 10 then m + 3 else m - 9).toNat,
    (d - monthStart m + 1).toNat⟩

/-- The parts of a day number: its era, the year of the era, the month and the day of the year. -/
structure Parts (n era y m d : Int) : Prop where
  days : n + 719468 = era * 146097 + (yearStart y + d)
  inYear : InYear (yearStart y + d) y
  month_nonneg : 0 ≤ m
  month_lt : m < 12
  start_le : monthStart m ≤ d
  lt_next : d < monthStart (m + 1)

theorem ofDays_eq (n : Int) : ∃ era y m d, Parts n era y m d ∧ ofDays n = ofParts era y m d := by
  obtain ⟨z, hz⟩ : ∃ z, z = (n + 719468) % 146097 := ⟨_, rfl⟩
  have hday : InYear z (yearOf z) := inYear_yearOf (by omega) (by omega)
  have hd₀ := hday.start_le
  have hd₁ := hday.le_last
  obtain ⟨d, hd⟩ : ∃ d, d = z - yearStart (yearOf z) := ⟨_, rfl⟩
  obtain ⟨hm₀, hm₁, hm₂, hm₃⟩ := monthOf_spec (d := d) (by omega) (by omega)
  have hz' : yearStart (yearOf z) + d = z := by omega
  refine ⟨(n + 719468) / 146097, yearOf z, monthOf d, d,
    ⟨by omega, by rwa [hz'], hm₀, hm₁, hm₂, hm₃⟩, ?_⟩
  have hmonth : (if monthOf d < 10 then monthOf d + 3 else monthOf d - 9) ≤ 2 ↔
      ¬monthOf d < 10 := by split <;> omega
  have hfold : ofDays n = ⟨yearOf z + (n + 719468) / 146097 * 400 +
      (if (if monthOf d < 10 then monthOf d + 3 else monthOf d - 9) ≤ 2 then 1 else 0),
      (if monthOf d < 10 then monthOf d + 3 else monthOf d - 9).toNat,
      (d - monthStart (monthOf d) + 1).toNat⟩ := by
    subst hd hz
    rfl
  rw [hfold, ofParts]
  simp only [hmonth, ite_not]

/-- The day number of the date of a day is that of the day. -/
theorem toDays_ofDays (n : Int) : (ofDays n).toDays = n := by
  obtain ⟨era, y, m, d, h, hn⟩ := ofDays_eq n
  obtain ⟨hdays, ⟨hy₀, hy₁, -, -, -⟩, hm₀, hm₁, hd₀, -⟩ := h
  have hera : (y + era * 400) / 400 = era ∧ (y + era * 400) % 400 = y := by omega
  have hmonth : ((((if m < 10 then m + 3 else m - 9).toNat + 9) % 12 : Nat) : Int) = m := by
    split <;> omega
  have hyear : (if (if m < 10 then m + 3 else m - 9).toNat ≤ 2
      then y + era * 400 + (if m < 10 then 0 else 1) - 1
      else y + era * 400 + (if m < 10 then 0 else 1)) = y + era * 400 := by
    split_ifs <;> omega
  rw [hn, ofParts, toDays]
  simp only [hyear, hmonth, hera]
  unfold yearStart at hdays
  unfold monthStart at *
  omega

/-- Every month but the last is as long as the calendar has it. -/
theorem length_of_month {m : Int} (h₀ : 0 ≤ m) (h₁ : m < 11) (y : Int) :
    monthStart (m + 1) - monthStart m =
      daysInMonth y (if m < 10 then m + 3 else m - 9).toNat := by
  unfold monthStart daysInMonth
  have hm : m = 0 ∨ m = 1 ∨ m = 2 ∨ m = 3 ∨ m = 4 ∨ m = 5 ∨ m = 6 ∨ m = 7 ∨ m = 8 ∨ m = 9 ∨
      m = 10 := by omega
  rcases hm with rfl | rfl | rfl | rfl | rfl | rfl | rfl | rfl | rfl | rfl | rfl <;> rfl

/-- The date of a day exists. -/
theorem valid_ofDays (n : Int) : (ofDays n).Valid := by
  obtain ⟨era, y, m, d, h, hn⟩ := ofDays_eq n
  obtain ⟨-, ⟨-, -, -, hlast, hleap⟩, hm₀, hm₁, hd₀, hd₁⟩ := h
  rw [hn, ofParts]
  refine ⟨?_, ?_, ?_, ?_⟩ <;> dsimp only
  · split <;> omega
  · split <;> omega
  · omega
  · by_cases hm : m < 11
    · have hlen := length_of_month hm₀ hm (y + era * 400 + if m < 10 then 0 else 1)
      omega
    · -- the last month has a 29th day in a leap year only
      obtain rfl : m = 11 := by omega
      have hstart : monthStart 11 = 337 := rfl
      have hfeb : d = 365 → isLeap (y + era * 400 + 1) = true := by
        intro hd
        obtain ⟨h₄, h₁₀₀⟩ := hleap (by omega)
        simp only [isLeap, Bool.or_eq_true, Bool.and_eq_true, beq_iff_eq, bne_iff_ne]
        omega
      show (d - monthStart 11 + 1).toNat ≤ if isLeap (y + era * 400 + 1) then 29 else 28
      split
      · omega
      · next hno =>
        have hd : d ≠ 365 := fun hd => hno (hfeb hd)
        omega

theorem daysInMonth_le (y : Int) (m : Nat) : daysInMonth y m ≤ 31 := by
  unfold daysInMonth
  split_ifs <;> decide

end DrainGuard.Date
