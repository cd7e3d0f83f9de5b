import Mathlib.Algebra.GroupWithZero.Nat
import Mathlib.Tactic.SplitIfs
import DrainGuard.Notice.Rfc3339
import DrainGuard.Proofs.Decimal.Numerals
import DrainGuard.Proofs.Notice.Calendar

/-!
# Instants are read back

- **Digits** (`digits_padded`): a number with zeros in front of it is read as that number, if no
  digit follows.
- **Parts** (`year_render`, `part_padded`, `fraction_render`): every part that is written is read
  back.
- **Instants** (`parse_render`): and so is the instant that they name, if it exists and its year is
  one of the calendar.
- **What is read** (`parse_exists`): whatever the offset, the digits of the fraction and the year
  are, an instant that was read exists and its year is one of the calendar.
-/

namespace DrainGuard.Rfc3339

variable {l : List Char}

/-! ## Steps -/

section Steps

variable {α β : Type} {a : α} {b : β} {x : Except Fault α} {f : α → Except Fault β}

-- in parentheses, so that no check of a rewritten goal unfolds the bounds of a year
theorem ok_bind (a : α) (f : α → Except Fault β) : (.ok a >>= f) = f a := (rfl)

theorem bind_eq_ok : x >>= f = .ok b ↔ ∃ a, x = .ok a ∧ f a = .ok b := by
  cases x with
  | error e => exact ⟨nofun, fun ⟨_, h, _⟩ => nomatch h⟩
  | ok a => exact ⟨fun h => ⟨a, rfl, h⟩, fun ⟨_, ha, h⟩ => Except.ok.inj ha ▸ h⟩

end Steps

/-! ## Digits -/

/-- No digit comes first. -/
def Stops (l : List Char) : Prop := ∀ c, l.head? = some c → c.isDigit = false

theorem Stops.cons {c : Char} (hc : c.isDigit = false) : Stops (c :: l) := by
  intro d hd
  cases hd
  exact hc

theorem Stops.takeWhile (h : Stops l) : l.takeWhile Char.isDigit = [] := by
  cases l with
  | nil => rfl
  | cons c l => rw [List.takeWhile_cons, h c rfl]; rfl

theorem Stops.dropWhile (h : Stops l) : l.dropWhile Char.isDigit = l := by
  cases l with
  | nil => rfl
  | cons c l => rw [List.dropWhile_cons, h c rfl]; rfl

theorem digitsValue_eq (cs : List Char) : digitsValue cs = Nat.ofDigitChars 10 cs 0 :=
  Decimal.value_eq cs

theorem digitsValue_padded (w n : Nat) : digitsValue (padded w n) = n := by
  rw [digitsValue_eq, padded, Nat.ofDigitChars_append, Nat.ofDigitChars_replicate_zero,
    Nat.mul_zero, Nat.ofDigitChars_ten_toDigits]

theorem isDigit_padded (w n : Nat) : ∀ c ∈ padded w n, c.isDigit = true := by
  intro c hc
  rw [padded, List.mem_append] at hc
  rcases hc with hc | hc
  · rw [List.eq_of_mem_replicate hc]
    rfl
  · exact Nat.isDigit_of_mem_toDigits (by decide) (by decide) hc

theorem length_padded {w n : Nat} (hw : 0 < w) (hn : n < 10 ^ w) : (padded w n).length = w := by
  have hle := (Nat.length_toDigits_le_iff (b := 10) (by decide) hw).mpr hn
  rw [padded, List.length_append, List.length_replicate]
  omega

theorem padded_ne_nil (w n : Nat) : padded w n ≠ [] := by
  simp [padded]

theorem exists_padded (w n : Nat) : ∃ c cs, padded w n = c :: cs ∧ c.isDigit = true := by
  obtain ⟨c, cs, h⟩ := List.exists_cons_of_ne_nil (padded_ne_nil w n)
  exact ⟨c, cs, h, isDigit_padded w n c (h ▸ List.mem_cons_self)⟩

/-- Written digits are taken as a whole, if the reader may take so many. -/
theorem digits_padded {width : Option Nat} {w n : Nat} (hl : Stops l)
    (hw : ∀ k, width = some k → (padded w n).length ≤ k) :
    digits width (padded w n ++ l) = .ok (n, l) := by
  have hrun : (padded w n ++ l).takeWhile Char.isDigit = padded w n := by
    rw [List.takeWhile_append_of_pos (isDigit_padded w n), hl.takeWhile, List.append_nil]
  obtain ⟨c, cs, hcs, hc⟩ := exists_padded w n
  have hread : digits width (c :: (cs ++ l)) = .ok (digitsValue (padded w n), l) := by
    rw [hcs, List.cons_append] at hrun
    rw [digits]
    simp only [hc, hrun, Bool.not_true, Bool.false_eq_true, ↓reduceIte]
    cases width with
    | none => simp [hcs]
    | some k =>
      have hk := hw k rfl
      rw [hcs] at hk
      simp [hcs, List.take_of_length_le hk]
  rw [hcs, List.cons_append, hread, digitsValue_padded]

theorem digits_padded_eq {w n : Nat} (hl : Stops l) (hw : 0 < w) (hn : n < 10 ^ w) :
    digits (some w) (padded w n ++ l) = .ok (n, l) :=
  digits_padded hl fun k hk => by
    cases hk
    exact Nat.le_of_eq (length_padded hw hn)

/-! ## Parts -/

theorem trimStartList_padded (w n : Nat) (l : List Char) :
    Text.trimStartList (padded w n ++ l) = padded w n ++ l := by
  obtain ⟨c, cs, hcs, hc⟩ := exists_padded w n
  rw [hcs, List.cons_append, Text.trimStartList, List.dropWhile_cons,
    Decimal.not_isBlank_of_isDigit hc]
  rfl

theorem part_padded {low high n : Nat} (hlow : low ≤ n) (hhigh : n ≤ high) (h : high < 100)
    (hl : Stops l) : part low high (padded 2 n ++ l) = .ok (n, l) := by
  rw [part, trimStartList_padded, digits_padded_eq hl (by decide) (by omega)]
  exact if_pos ⟨hlow, hhigh⟩

theorem separator_cons {c : Char} (hc : Text.isBlank c = false) :
    separator c (c :: l) = .ok l := by
  rw [separator, Text.trimStartList, List.dropWhile_cons, hc]
  exact if_pos rfl

/-- A year without a sign is one of four digits. -/
theorem year_padded {n : Nat} (hn : n < 10000) (hl : Stops l) :
    year (padded 4 n ++ l) = .ok ((n : Int), l) := by
  have hread := digits_padded_eq (w := 4) hl (by decide) hn
  have hrange : -0x80000000 ≤ (n : Int) ∧ (n : Int) < 0x80000000 := by omega
  rw [year, trimStartList_padded]
  obtain ⟨c, cs, hcs, hc⟩ := exists_padded 4 n
  rw [hcs, List.cons_append] at hread ⊢
  split
  next he =>
    cases he
    cases hc
  next he =>
    cases he
    cases hc
  next =>
    simp only [hread, ok_bind, pure_bind]
    rw [if_pos hrange]
    rfl

theorem year_render {y : Int} (h₀ : -0x80000000 ≤ y) (h₁ : y < 0x80000000) (hl : Stops l) :
    year (renderYear y ++ l) = .ok (y, l) := by
  unfold renderYear
  split_ifs with hfour hneg
  · rw [year_padded (by omega) hl, Int.toNat_of_nonneg hfour.1]
  · have hread : digits none (padded 4 y.natAbs ++ l) = .ok (y.natAbs, l) := digits_padded hl nofun
    have hy : -(y.natAbs : Int) = y := by omega
    rw [List.cons_append, year, show Text.trimStartList ('-' :: _) = '-' :: _ from rfl]
    simp only [hread, ok_bind, pure_bind, hy]
    rw [if_pos ⟨h₀, h₁⟩]
    rfl
  · have hread : digits none (padded 4 y.natAbs ++ l) = .ok (y.natAbs, l) := digits_padded hl nofun
    have hy : (y.natAbs : Int) = y := by omega
    rw [List.cons_append, year, show Text.trimStartList ('+' :: _) = '+' :: _ from rfl]
    simp only [hread, ok_bind, pure_bind, hy]
    rw [if_pos ⟨h₀, h₁⟩]
    rfl

theorem fraction_padded {w n : Nat} (hw : 0 < w) (hw' : w ≤ 9) (hn : n < 10 ^ w) (hl : Stops l) :
    fraction ('.' :: padded w n ++ l) = .ok (n * 10 ^ (9 - w), l) := by
  have hlen := length_padded hw hn
  have hread : digits (some 9) (padded w n ++ l) = .ok (n, l) := digits_padded hl fun k hk => by
    cases hk
    omega
  have hplaces : (padded w n ++ l).length - l.length = w := by
    rw [List.length_append, hlen]
    omega
  rw [List.cons_append, fraction, hread]
  show Except.ok (n * 10 ^ (9 - ((padded w n ++ l).length - l.length)),
    l.dropWhile Char.isDigit) = _
  rw [hplaces, hl.dropWhile]

theorem fraction_render {n : Nat} (hn : n < nanosPerSecond) (hl : Stops l)
    (hdot : l.head? ≠ some '.') : fraction (renderFraction n ++ l) = .ok (n, l) := by
  unfold nanosPerSecond at hn
  unfold renderFraction
  split_ifs with hzero hmilli hmicro
  · subst hzero
    unfold fraction
    split
    next cs he => exact absurd (congrArg List.head? he) hdot
    next => rfl
  · rw [fraction_padded (by decide) (by decide) (by omega) hl]
    congr 2
    omega
  · rw [fraction_padded (by decide) (by decide) (by omega) hl]
    congr 2
    omega
  · rw [fraction_padded (by decide) (by decide) (by omega) hl]
    congr 2
    omega

theorem offset_render : offset "+00:00".toList = .ok (0, []) := rfl

theorem stops_renderFraction (n : Nat) : Stops (renderFraction n ++ "+00:00".toList) := by
  unfold renderFraction
  split_ifs <;> exact .cons rfl

/-! ## Instants -/

/-- Parts that are each in its range. -/
structure Parts.InRange (p : Parts) : Prop where
  year : -0x80000000 ≤ p.date.year ∧ p.date.year < 0x80000000
  month : 1 ≤ p.date.month ∧ p.date.month ≤ 12
  day : 1 ≤ p.date.day ∧ p.date.day ≤ 31
  hour : p.hour ≤ 23
  minute : p.minute ≤ 59
  second : p.second ≤ 60
  nanos : p.nanos < nanosPerSecond

/-- The text of parts, with the offset of universal time. -/
def Parts.text (p : Parts) : List Char :=
  renderYear p.date.year ++ '-' :: padded 2 p.date.month ++ '-' :: padded 2 p.date.day ++
    'T' :: padded 2 p.hour ++ ':' :: padded 2 p.minute ++ ':' :: padded 2 p.second ++
    renderFraction p.nanos ++ "+00:00".toList

theorem parts_text {p : Parts} (h : p.InRange) : parts p.text = .ok { p with offset := 0 } := by
  have hdash (l : List Char) : Stops ('-' :: l) := .cons rfl
  have hcolon (l : List Char) : Stops (':' :: l) := .cons rfl
  have htee (l : List Char) : Stops ('T' :: l) := .cons rfl
  have hplus : Stops "+00:00".toList := .cons rfl
  have hdate (l : List Char) : dateEnd ('T' :: l) = .ok l := rfl
  have htrim : Text.trimStartList "+00:00".toList = "+00:00".toList := rfl
  have hend : Text.trimStartList [] = [] := rfl
  simp only [Parts.text, List.append_assoc, List.cons_append, parts,
    year_render h.year.1 h.year.2 (hdash _), separator_cons (c := '-') rfl,
    separator_cons (c := ':') rfl, part_padded h.month.1 h.month.2 (by decide) (hdash _),
    part_padded h.day.1 h.day.2 (by decide) (htee _), hdate,
    part_padded (Nat.zero_le _) h.hour (by decide) (hcolon _),
    part_padded (Nat.zero_le _) h.minute (by decide) (hcolon _),
    part_padded (Nat.zero_le _) h.second (by decide) (stops_renderFraction _),
    fraction_render h.nanos hplus (by decide), htrim, offset_render, hend, ok_bind]
  rfl

/-- The instant of parts. -/
def Parts.instant (p : Parts) : Moment :=
  ⟨p.date.toDays * 86400 + (p.hour * 3600 + p.minute * 60 + min p.second 59 : Nat) - p.offset,
    p.nanos + (if p.second = 60 then nanosPerSecond else 0)⟩

theorem Parts.toMoment_eq_ok_iff {p : Parts} {m : Moment} : p.toMoment = .ok m ↔
    p.date.Valid ∧ inCalendar p.date.year = true ∧ (-86400 < p.offset ∧ p.offset < 86400) ∧
      p.instant = m ∧ inCalendar (Date.ofDays m.day).year = true := by
  have hfold : p.toMoment = if ¬(p.date.Valid ∧ inCalendar p.date.year) then .error .outOfRange
      else if p.offset ≤ -86400 ∨ 86400 ≤ p.offset then .error .outOfRange
      else if inCalendar (Date.ofDays p.instant.day).year then .ok p.instant
      else .error .impossible := rfl
  rw [hfold]
  constructor
  · intro h
    split_ifs at h with hdate hoffset hyear
    cases h
    exact ⟨hdate.1, hdate.2, by omega, rfl, hyear⟩
  · rintro ⟨hvalid, hyear, hoffset, rfl, hyear'⟩
    rw [if_neg (fun hno => hno ⟨hvalid, hyear⟩), if_neg (by omega), if_pos hyear']

/-- The parts of an instant. -/
def partsOf (m : Moment) : Parts where
  date := Date.ofDays m.day
  hour := m.secondOfDay.toNat / 3600
  minute := m.secondOfDay.toNat / 60 % 60
  second := m.secondOfDay.toNat % 60 + (if nanosPerSecond ≤ m.nanos then 1 else 0)
  nanos := if nanosPerSecond ≤ m.nanos then m.nanos - nanosPerSecond else m.nanos
  offset := 0

theorem toList_render (m : Moment) : (render m).toList = (partsOf m).text := by
  rw [render, String.toList_ofList]
  rfl

theorem secondOfDay_eq (m : Moment) :
    (m.secondOfDay.toNat : Int) = m.seconds % 86400 ∧ m.secondOfDay.toNat < 86400 := by
  unfold Moment.secondOfDay Moment.secondsPerDay
  omega

theorem partsOf_inRange {m : Moment} (hm : m.Valid)
    (hy : inCalendar (Date.ofDays m.day).year = true) : (partsOf m).InRange := by
  obtain ⟨hmonth₀, hmonth₁, hday₀, hday₁⟩ := Date.valid_ofDays m.day
  obtain ⟨-, hs⟩ := secondOfDay_eq m
  have hgiga : nanosPerSecond = 1000000000 := rfl
  have hnanos := hm.1
  constructor
  case year =>
    have hrange := Bool.and_eq_true_iff.mp hy
    have hlow : -262143 ≤ (Date.ofDays m.day).year := of_decide_eq_true hrange.1
    have hhigh : (Date.ofDays m.day).year ≤ 262142 := of_decide_eq_true hrange.2
    show -0x80000000 ≤ (Date.ofDays m.day).year ∧ (Date.ofDays m.day).year < 0x80000000
    omega
  case month => exact ⟨hmonth₀, hmonth₁⟩
  case day => exact ⟨hday₀, Nat.le_trans hday₁ (Date.daysInMonth_le _ _)⟩
  case hour =>
    show m.secondOfDay.toNat / 3600 ≤ 23
    omega
  case minute =>
    show m.secondOfDay.toNat / 60 % 60 ≤ 59
    omega
  case second =>
    show m.secondOfDay.toNat % 60 + (if nanosPerSecond ≤ m.nanos then 1 else 0) ≤ 60
    split <;> omega
  case nanos =>
    show (if nanosPerSecond ≤ m.nanos then m.nanos - nanosPerSecond else m.nanos) < nanosPerSecond
    split <;> omega

/-- An instant that exists is the one of its parts. -/
theorem instant_partsOf {m : Moment} (hm : m.Valid) : (partsOf m).instant = m := by
  obtain ⟨hclock, hs⟩ := secondOfDay_eq m
  obtain ⟨hnanos, hleap⟩ := hm
  have hgiga : nanosPerSecond = 1000000000 := rfl
  have hsecond : min (partsOf m).second 59 = m.secondOfDay.toNat % 60 := by
    show min (m.secondOfDay.toNat % 60 + (if nanosPerSecond ≤ m.nanos then 1 else 0)) 59 = _
    split <;> omega
  have hrest : (partsOf m).nanos + (if (partsOf m).second = 60 then nanosPerSecond else 0) =
      m.nanos := by
    show (if nanosPerSecond ≤ m.nanos then m.nanos - nanosPerSecond else m.nanos) +
      (if m.secondOfDay.toNat % 60 + (if nanosPerSecond ≤ m.nanos then 1 else 0) = 60
        then nanosPerSecond else 0) = _
    split_ifs <;> omega
  have hseconds : (Date.ofDays m.day).toDays * 86400 + ((m.secondOfDay.toNat / 3600 * 3600 +
      m.secondOfDay.toNat / 60 % 60 * 60 + m.secondOfDay.toNat % 60 : Nat) : Int) - 0 =
      m.seconds := by
    rw [Date.toDays_ofDays, Moment.day, Moment.secondsPerDay]
    omega
  rw [Parts.instant, hsecond, hrest]
  exact congrArg (Moment.mk · m.nanos) hseconds

/-- An instant that exists in a year of the calendar is read back. -/
theorem parse_render {m : Moment} (hm : m.Valid) (hy : inCalendar (Date.ofDays m.day).year = true) :
    parse (render m) = .ok m := by
  have hoffset : -86400 < (0 : Int) ∧ (0 : Int) < 86400 := by decide
  rw [parse, toList_render, parts_text (partsOf_inRange hm hy), ok_bind,
    Parts.toMoment_eq_ok_iff]
  exact ⟨Date.valid_ofDays m.day, hy, hoffset, instant_partsOf hm, hy⟩

/-! ## What is read -/

theorem ofDigitChars_lt {ds : List Char} (h : ∀ c ∈ ds, c.isDigit = true) :
    Nat.ofDigitChars 10 ds 0 < 10 ^ ds.length := by
  induction ds with
  | nil => decide
  | cons d ds ih =>
    obtain ⟨hd, hds⟩ := List.forall_mem_cons.mp h
    have hrange := Decimal.isDigit_toNat hd
    have hzero : '0'.toNat = 48 := rfl
    have ih := ih hds
    rw [Nat.ofDigitChars_cons, Nat.ofDigitChars_eq_ofDigitChars_zero, List.length_cons,
      Nat.pow_succ, Nat.mul_zero, Nat.zero_add]
    have hdigit : 10 ^ ds.length * (d.toNat - '0'.toNat) ≤ 10 ^ ds.length * 9 :=
      Nat.mul_le_mul_left _ (by omega)
    omega

/-- So many digits stand for a number below that power of ten. -/
theorem digits_lt {w n : Nat} {cs rest : List Char} (h : digits (some w) cs = .ok (n, rest)) :
    n < 10 ^ (cs.length - rest.length) ∧ cs.length - rest.length ≤ w := by
  unfold digits at h
  split at h
  · cases h
  · next c l =>
    split at h
    · cases h
    · cases h
      have hall := List.all_takeWhile (p := Char.isDigit) (l := c :: l)
      have hle := ((List.take_prefix w ((c :: l).takeWhile Char.isDigit)).trans
        (List.takeWhile_prefix Char.isDigit)).length_le
      dsimp only
      rw [List.length_drop, digitsValue_eq, Nat.sub_sub_self hle]
      refine ⟨ofDigitChars_lt fun d hd => ?_, List.length_take_le w _⟩
      exact List.all_eq_true.mp hall d (List.mem_of_mem_take hd)

theorem part_range {low high n : Nat} {cs rest : List Char}
    (h : part low high cs = .ok (n, rest)) : low ≤ n ∧ n ≤ high := by
  obtain ⟨⟨m, rest'⟩, -, h⟩ := bind_eq_ok.mp h
  dsimp only at h
  split_ifs at h with hr
  cases h
  exact hr

theorem year_range {y : Int} {cs rest : List Char} (h : year cs = .ok (y, rest)) :
    -0x80000000 ≤ y ∧ y < 0x80000000 := by
  unfold year at h
  dsimp only at h
  split at h
  all_goals
    obtain ⟨⟨n, l⟩, -, h⟩ := bind_eq_ok.mp h
    obtain ⟨⟨z, l'⟩, -, h⟩ := bind_eq_ok.mp h
    dsimp only at h
    split_ifs at h with hr
    cases h
    exact hr

theorem fraction_lt {n : Nat} {cs rest : List Char} (h : fraction cs = .ok (n, rest)) :
    n < nanosPerSecond := by
  unfold fraction at h
  split at h
  · next cs =>
    obtain ⟨⟨k, l⟩, hd, h⟩ := bind_eq_ok.mp h
    cases h
    obtain ⟨hk, hlen⟩ := digits_lt hd
    generalize cs.length - l.length = places at hk hlen
    calc k * Nat.pow 10 (9 - places)
      _ < 10 ^ places * 10 ^ (9 - places) :=
        Nat.mul_lt_mul_of_pos_right hk (Nat.pow_pos (by decide))
      _ = nanosPerSecond := by rw [← Nat.pow_add, Nat.add_sub_cancel' hlen]; rfl
  · cases h
    decide

theorem offset_minutes {o : Int} {cs rest : List Char} (h : offset cs = .ok (o, rest)) :
    o % 60 = 0 := by
  unfold offset at h
  split at h
  · cases h
    rfl
  · split at h
    · cases h
    · split at h
      · cases h
        rfl
      · split at h
        · obtain ⟨⟨hours, l⟩, -, h⟩ := bind_eq_ok.mp h
          obtain ⟨⟨minutes, l'⟩, -, h⟩ := bind_eq_ok.mp h
          cases h
          split <;> omega
        · cases h

theorem parts_inRange {cs : List Char} {p : Parts} (h : parts cs = .ok p) :
    p.InRange ∧ p.offset % 60 = 0 := by
  obtain ⟨⟨y, l⟩, hy, h⟩ := bind_eq_ok.mp h
  obtain ⟨l₁, -, h⟩ := bind_eq_ok.mp h
  obtain ⟨⟨month, l₂⟩, hmonth, h⟩ := bind_eq_ok.mp h
  obtain ⟨l₃, -, h⟩ := bind_eq_ok.mp h
  obtain ⟨⟨day, l₄⟩, hday, h⟩ := bind_eq_ok.mp h
  obtain ⟨l₅, -, h⟩ := bind_eq_ok.mp h
  obtain ⟨⟨hour, l₆⟩, hhour, h⟩ := bind_eq_ok.mp h
  obtain ⟨l₇, -, h⟩ := bind_eq_ok.mp h
  obtain ⟨⟨minute, l₈⟩, hminute, h⟩ := bind_eq_ok.mp h
  obtain ⟨l₉, -, h⟩ := bind_eq_ok.mp h
  obtain ⟨⟨second, l₁₀⟩, hsecond, h⟩ := bind_eq_ok.mp h
  obtain ⟨⟨nanos, l₁₁⟩, hnanos, h⟩ := bind_eq_ok.mp h
  obtain ⟨⟨o, l₁₂⟩, ho, h⟩ := bind_eq_ok.mp h
  dsimp only at h
  split_ifs at h
  cases h
  exact ⟨⟨year_range hy, part_range hmonth, part_range hday, (part_range hhour).2,
    (part_range hminute).2, (part_range hsecond).2, fraction_lt hnanos⟩, offset_minutes ho⟩

/-- Whatever was read exists, in a year of the calendar. -/
theorem parse_exists {s : String} {m : Moment} (h : parse s = .ok m) :
    m.Valid ∧ inCalendar (Date.ofDays m.day).year = true := by
  obtain ⟨p, hp, h⟩ := bind_eq_ok.mp h
  obtain ⟨hrange, hoffset⟩ := parts_inRange hp
  obtain ⟨-, -, -, rfl, hy⟩ := Parts.toMoment_eq_ok_iff.mp h
  have hgiga : nanosPerSecond = 1000000000 := rfl
  have hnanos := hrange.nanos
  refine ⟨⟨?_, ?_⟩, hy⟩
  · show p.nanos + (if p.second = 60 then nanosPerSecond else 0) < 2 * nanosPerSecond
    split <;> omega
  · show nanosPerSecond ≤ p.nanos + (if p.second = 60 then nanosPerSecond else 0) →
      (p.date.toDays * 86400 + ((p.hour * 3600 + p.minute * 60 + min p.second 59 : Nat) : Int) -
        p.offset) % 60 = 59
    split <;> omega

end DrainGuard.Rfc3339
