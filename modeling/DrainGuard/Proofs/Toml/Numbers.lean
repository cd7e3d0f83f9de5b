import DrainGuard.Toml.Moment
import DrainGuard.Toml.Number
import DrainGuard.Proofs.Json.Numbers

/-!
# Whole numbers read back

A number is written with its decimal digits, and a line break follows.

- **Runs of digits** (`digitRun_digits`, `wholeDigits_digits`): the reader of digits stops at the
  line break.
- **No other number** (`moment?_digits`, `float?_digits`): digits alone are neither a date or time
  nor a number with a fraction or a power of ten.
- **Integers** (`integer?_digits`): they are read as the integer that they stand for.
-/

namespace DrainGuard.Toml

/-- Digits and nothing else. -/
def Digits (ds : List Char) : Prop := ∀ c ∈ ds, c.isDigit = true

variable {ds l : List Char}

theorem digits_toDigits (n : Nat) : Digits (Nat.toDigits 10 n) :=
  fun _ hc => Nat.isDigit_of_mem_toDigits (by decide) (by decide) hc

theorem Digits.tail {d : Char} (h : Digits (d :: ds)) : Digits ds :=
  fun c hc => h c (List.mem_cons_of_mem d hc)

theorem Digits.ne {c d : Char} (h : Digits (d :: ds)) (hc : c.isDigit = false) : d ≠ c := by
  rintro rfl
  rw [h d List.mem_cons_self] at hc
  cases hc

/-! ## Runs of digits -/

theorem digitTail_digits (h : Digits ds) :
    digitTail Char.isDigit (ds ++ '\n' :: l) = some (ds, '\n' :: l) := by
  induction ds with
  | nil =>
    rw [List.nil_append, digitTail, if_neg (by decide)]
    · rintro d cs ⟨⟩
    · rintro ⟨⟩
  | cons d ds ih =>
    have hd : d ≠ '_' := h.ne rfl
    rw [List.cons_append, digitTail, if_pos (h d List.mem_cons_self), ih h.tail]
    · rfl
    · exact fun _ _ he _ => hd he
    · exact fun he _ => hd he

theorem digitRun_digits (h : Digits ds) (hne : ds ≠ []) :
    digitRun Char.isDigit (ds ++ '\n' :: l) = some (ds, '\n' :: l) := by
  obtain ⟨d, ds, rfl⟩ := List.exists_cons_of_ne_nil hne
  rw [List.cons_append, digitRun, if_pos (h d List.mem_cons_self), digitTail_digits h.tail]
  rfl

/-- The digits of a number have no zero in front that the reader would take alone. -/
theorem wholeDigits_digits (n : Nat) : wholeDigits (Nat.toDigits 10 n ++ '\n' :: l) =
    some (Nat.toDigits 10 n, '\n' :: l) := by
  rcases Nat.eq_zero_or_pos n with rfl | hn
  · rfl
  · have hrun := digitRun_digits (l := l) (digits_toDigits n) Nat.toDigits_ne_nil
    have hlead := Decimal.head?_toDigits hn
    unfold wholeDigits
    split
    · next h =>
      have hhead : (Nat.toDigits 10 n ++ '\n' :: l).head? = (Nat.toDigits 10 n).head? :=
        Decimal.head?_append Nat.toDigits_ne_nil
      rw [h] at hhead
      exact absurd hhead.symm hlead
    · exact hrun

/-- Neither digits nor the line break begin with another character. -/
theorem Digits.ne_head {c : Char} {cs : List Char} (h : Digits ds) (hc : c.isDigit = false)
    (hn : c ≠ '\n') : ds ++ '\n' :: l ≠ c :: cs := by
  intro he
  cases ds with
  | nil => exact hn (List.cons.inj he).1.symm
  | cons d ds => exact h.ne hc (List.cons.inj he).1

theorem sign_digits (h : Digits ds) :
    Decimal.sign (ds ++ '\n' :: l) = (false, ds ++ '\n' :: l) := by
  unfold Decimal.sign
  split
  · next he => exact absurd he (h.ne_head rfl (by decide))
  · next he => exact absurd he (h.ne_head rfl (by decide))
  · rfl

/-! ## No other number -/

/-- A field takes digits only. -/
theorem field?_eq_some {width low high n : Nat} {cs rest : List Char}
    (hf : field? width low high cs = some (n, rest)) :
    Digits (cs.take width) ∧ rest = cs.drop width := by
  unfold field? at hf
  dsimp only at hf
  split at hf
  · cases hf
  · obtain ⟨m, hm, hf⟩ := Option.bind_eq_some_iff.mp hf
    split at hf <;> cases hf
    unfold Decimal.digits? at hm
    split at hm
    · cases hm
    · next hall =>
      simp only [Bool.or_eq_true, Bool.not_eq_true', not_or, Bool.not_eq_false] at hall
      exact ⟨List.all_eq_true.mp hall.2, rfl⟩

/-- A field of digits ends before the line break. -/
theorem field?_digits {width low high n : Nat} {rest : List Char}
    (hf : field? width low high (ds ++ '\n' :: l) = some (n, rest)) :
    rest = ds.drop width ++ '\n' :: l := by
  obtain ⟨hd, rfl⟩ := field?_eq_some hf
  refine List.drop_append_of_le_length (Nat.le_of_not_lt fun hlt => ?_)
  have hbreak : '\n' ∈ (ds ++ '\n' :: l).take width := by
    obtain ⟨k, rfl⟩ := Nat.exists_eq_add_of_lt hlt
    simp [List.take_append, Nat.add_assoc]
  exact absurd (hd '\n' hbreak) (by decide)

/-- Behind digits comes no mark. -/
theorem mark?_digits (want : Char) (h : Digits ds) (hw : want.isDigit = false)
    (hn : want ≠ '\n') :
    mark? want (ds ++ '\n' :: l) = none := by
  cases ds with
  | nil => exact if_neg hn.symm
  | cons d ds => exact if_neg (h.ne hw)

theorem Digits.drop (h : Digits ds) (n : Nat) : Digits (ds.drop n) :=
  fun c hc => h c (List.mem_of_mem_drop hc)

theorem date?_digits (h : Digits ds) : date? (ds ++ '\n' :: l) = none := by
  unfold date?
  cases hf : field? 4 0 9999 (ds ++ '\n' :: l) with
  | none => rfl
  | some r =>
    obtain ⟨year, rest⟩ := r
    rw [field?_digits hf]
    simp [mark?_digits '-' (h.drop 4) rfl (by decide)]

theorem time?_digits (h : Digits ds) : time? (ds ++ '\n' :: l) = none := by
  unfold time?
  cases hf : field? 2 0 23 (ds ++ '\n' :: l) with
  | none => rfl
  | some r =>
    obtain ⟨hour, rest⟩ := r
    rw [field?_digits hf]
    simp [mark?_digits ':' (h.drop 2) rfl (by decide)]

theorem moment?_digits (h : Digits ds) : moment? (ds ++ '\n' :: l) = none := by
  rw [moment?, date?_digits h, time?_digits h]
  rfl

theorem float?_digits (n : Nat) : float? (Nat.toDigits 10 n ++ '\n' :: l) = none := by
  have h := digits_toDigits n
  have hdecimal : decimal? (Nat.toDigits 10 n ++ '\n' :: l) = none := by
    simp [decimal?, sign_digits h, wholeDigits_digits, fraction?, power?]
  have hspecial : special? (Nat.toDigits 10 n ++ '\n' :: l) = none := by
    rw [special?, sign_digits h]
    dsimp only
    split
    · next he => exact absurd he (h.ne_head rfl (by decide))
    · next he => exact absurd he (h.ne_head rfl (by decide))
    · rfl
  rw [float?, hdecimal, hspecial]
  rfl

/-! ## Integers -/

/-- Digits announce no other base. -/
theorem Digits.ne_based {c : Char} {cs : List Char} (h : Digits ds) (hc : c.isDigit = false)
    (hn : c ≠ '\n') : ds ++ '\n' :: l ≠ '0' :: c :: cs := by
  intro he
  cases ds with
  | nil => cases he
  | cons d ds => exact h.tail.ne_head hc hn (List.cons.inj he).2

/-- A number that fits is read as it was written. -/
theorem integer?_digits {n : Nat} (hn : (n : Int) ≤ maxInteger) :
    integer? (Nat.toDigits 10 n ++ '\n' :: l) = some ((n : Int), '\n' :: l) := by
  have h := digits_toDigits n
  have hrange : -maxInteger - 1 ≤ (n : Int) ∧ (n : Int) ≤ maxInteger := by
    unfold maxInteger at hn ⊢
    omega
  unfold integer?
  split
  · next he => exact absurd he (h.ne_based rfl (by decide))
  · next he => exact absurd he (h.ne_based rfl (by decide))
  · next he => exact absurd he (h.ne_based rfl (by decide))
  · simp only [sign_digits h, wholeDigits_digits, Decimal.value_toDigits, Option.bind_eq_bind,
      Option.bind_some]
    exact if_pos hrange

end DrainGuard.Toml
