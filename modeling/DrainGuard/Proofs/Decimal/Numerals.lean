import Mathlib.Data.List.Induction
import DrainGuard.Decimal.Read
import DrainGuard.Text.Blank

/-!
# Numbers and their digits

- **Digits** (`value_toDigits`, `toDigits_value`): a number is read from its digits, and digits
  without a zero in front are those of the number that they are read as.
- **Natural numbers** (`natText?_eq_some_iff`): digits are read as a number, after a plus sign too.
- **Integers** (`intText?_digits`, `toString_eq_iff`): digits are read as an integer. An integer is
  written as the text that it was read from if and only if this has neither a plus sign nor a zero
  that could be left out.
-/

namespace DrainGuard.Decimal

theorem isDigit_toNat {c : Char} (hc : c.isDigit = true) : 48 ≤ c.toNat ∧ c.toNat ≤ 57 := by
  simp only [Char.isDigit, Bool.and_eq_true, decide_eq_true_eq] at hc
  exact hc

theorem not_isBlank_of_isDigit {c : Char} (hc : c.isDigit = true) : Text.isBlank c = false := by
  have hrange := isDigit_toNat hc
  simp only [Text.isBlank, Bool.or_eq_false_iff, Bool.and_eq_false_iff, beq_eq_false_iff_ne,
    decide_eq_false_iff_not]
  omega

theorem digitChar_toNat {c : Char} (hc : c.isDigit = true) : (c.toNat - 48).digitChar = c := by
  have hrange := isDigit_toNat hc
  have hback : (c.toNat - 48).digitChar.toNat = 48 + (c.toNat - 48) :=
    Nat.toNat_digitChar_of_lt_ten (by omega)
  exact Char.toNat_inj.mp (by omega)

theorem head?_append {ds es : List Char} (hne : ds ≠ []) : (ds ++ es).head? = ds.head? := by
  obtain ⟨d, ds, rfl⟩ := List.exists_cons_of_ne_nil hne
  rfl

theorem head?_toDigits {n : Nat} (hn : 0 < n) : (Nat.toDigits 10 n).head? ≠ some '0' := by
  induction n using Nat.strongRecOn with
  | _ n ih =>
    rcases Nat.lt_or_ge n 10 with hlt | hge
    · have hdigit : ∀ m < 10, 0 < m → m.digitChar ≠ '0' := by decide
      rw [Nat.toDigits_of_lt_base hlt]
      exact fun h => hdigit n hlt hn (Option.some.inj h)
    · rw [Nat.toDigits_of_base_le (by decide) hge, head?_append Nat.toDigits_ne_nil]
      exact ih (n / 10) (by omega) (by omega)

theorem value_eq (ds : List Char) : value ds = Nat.ofDigitChars 10 ds 0 := by
  rw [value, Nat.ofDigitChars_eq_foldl]
  simp only [Nat.mul_comm 10]
  rfl

theorem value_toDigits (n : Nat) : value (Nat.toDigits 10 n) = n := by
  rw [value_eq, Nat.ofDigitChars_ten_toDigits]

theorem value_concat (ds : List Char) (d : Char) :
    value (ds ++ [d]) = value ds * 10 + (d.toNat - 48) := by
  rw [value, List.foldl_append]
  rfl

variable {ds cs : List Char}

/-- Digits without a zero in front are those of their number. -/
theorem toDigits_value (hd : ∀ c ∈ ds, c.isDigit = true) (hne : ds ≠ [])
    (hlead : ds.head? ≠ some '0') : Nat.toDigits 10 (value ds) = ds := by
  induction ds using List.reverseRecOn with
  | nil => exact absurd rfl hne
  | append_singleton ds d ih =>
    have hdigit : d.isDigit = true := hd d (List.mem_append_right ds List.mem_cons_self)
    have hrange := isDigit_toNat hdigit
    rw [value_concat]
    by_cases hds : ds = []
    · subst hds
      rw [value, List.foldl_nil, Nat.zero_mul, Nat.zero_add, Nat.toDigits_of_lt_base (by omega),
        digitChar_toNat hdigit]
      rfl
    · rw [head?_append hds] at hlead
      have hfront := ih (fun c hc => hd c (List.mem_append_left _ hc)) hds hlead
      have hpos : 0 < value ds := by
        refine Nat.pos_of_ne_zero fun hzero => hlead ?_
        rw [← hfront, hzero]
        rfl
      rw [Nat.mul_comm, ← Nat.toDigits_append_toDigits (by decide) hpos (by omega), hfront,
        Nat.toDigits_of_lt_base (by omega), digitChar_toNat hdigit]

/-! ## Integers -/

theorem digits?_eq_some_iff {n : Nat} : digits? ds = some n ↔
    ds ≠ [] ∧ (∀ c ∈ ds, c.isDigit = true) ∧ value ds = n := by
  simp [digits?, and_assoc]

theorem toList_natCast (n : Nat) : (toString (n : Int)).toList = Nat.toDigits 10 n :=
  String.toList_ofList

theorem toList_neg {n : Nat} (hn : 0 < n) :
    (toString (-(n : Int))).toList = '-' :: Nat.toDigits 10 n := by
  obtain ⟨m, rfl⟩ := Nat.exists_eq_succ_of_ne_zero (Nat.ne_of_gt hn)
  show ("-" ++ Nat.repr (m + 1)).toList = _
  rw [String.toList_append]
  exact congrArg ('-' :: ·) String.toList_ofList

/-- Digits are written again as they are, unless they begin with a zero and are not just it. -/
theorem toDigits_value_eq_iff (hd : ∀ c ∈ ds, c.isDigit = true) (hne : ds ≠ []) :
    Nat.toDigits 10 (value ds) = ds ↔ ds = ['0'] ∨ ds.head? ≠ some '0' := by
  constructor
  · intro h
    rcases Nat.eq_zero_or_pos (value ds) with hzero | hpos
    · rw [hzero] at h
      exact .inl h.symm
    · exact .inr (h ▸ head?_toDigits hpos)
  · rintro (rfl | hlead)
    · rfl
    · exact toDigits_value hd hne hlead

theorem intText?_eq_some {i : Int} (h : intText? cs = some i) : (sign cs).2 ≠ [] ∧
    (∀ c ∈ (sign cs).2, c.isDigit = true) ∧
      i = if (sign cs).1 then -(value (sign cs).2 : Int) else value (sign cs).2 := by
  unfold intText? at h
  cases hn : digits? (sign cs).2 with
  | none => simp [hn] at h
  | some n =>
    obtain ⟨hne, hd, rfl⟩ := digits?_eq_some_iff.mp hn
    simp only [hn, Option.ite_none_right_eq_some, Option.some.injEq] at h
    exact ⟨hne, hd, h.2.symm⟩

theorem sign_of_ne {c : Char} (hplus : c ≠ '+') (hminus : c ≠ '-') :
    sign (c :: cs) = (false, c :: cs) := by
  unfold sign
  split
  · next h => exact absurd (List.cons.inj h).1 hplus
  · next h => exact absurd (List.cons.inj h).1 hminus
  · rfl

theorem sign_digits (hd : ∀ c ∈ ds, c.isDigit = true) : sign ds = (false, ds) := by
  cases ds with
  | nil => rfl
  | cons d ds =>
    have hdigit : d.isDigit = true := hd d List.mem_cons_self
    apply sign_of_ne <;> rintro rfl <;> cases hdigit

/-- Digits are read as their number, if it has at most 63 bits. -/
theorem intText?_digits (hne : ds ≠ []) (hd : ∀ c ∈ ds, c.isDigit = true)
    (hn : value ds ≤ 0x7FFFFFFFFFFFFFFF) : intText? ds = some (value ds : Int) := by
  have hdigits : digits? ds = some (value ds) := digits?_eq_some_iff.mpr ⟨hne, hd, rfl⟩
  have hrange : -0x8000000000000000 ≤ (value ds : Int) ∧ (value ds : Int) < 0x8000000000000000 := by
    omega
  simp only [intText?, sign_digits hd, hdigits, Bool.false_eq_true, if_false, if_pos hrange]

theorem natText?_digits {max : Nat} (h : cs = ds ∨ cs = '+' :: ds) (hne : ds ≠ [])
    (hd : ∀ c ∈ ds, c.isDigit = true) (hle : value ds ≤ max) :
    natText? max cs = some (value ds) := by
  have hdigits : digits? ds = some (value ds) :=
    digits?_eq_some_iff.mpr ⟨hne, hd, rfl⟩
  rcases h with rfl | rfl
  · unfold natText?
    split
    · cases hd _ List.mem_cons_self
    · simp only [hdigits, if_pos hle]
  · simp only [natText?, hdigits, if_pos hle]

theorem natText?_eq_some_iff {max n : Nat} : natText? max cs = some n ↔
    ∃ ds, (cs = ds ∨ cs = '+' :: ds) ∧ ds ≠ [] ∧ (∀ c ∈ ds, c.isDigit = true) ∧
      value ds = n ∧ n ≤ max := by
  constructor
  · intro h
    unfold natText? at h
    dsimp only at h
    split at h
    · next m hm =>
      split at h
      · next hle =>
        cases h
        obtain ⟨hne, hd, hv⟩ := digits?_eq_some_iff.mp hm
        refine ⟨_, ?_, hne, hd, hv, hle⟩
        split
        · exact .inr rfl
        · exact .inl rfl
      · cases h
    · cases h
  · rintro ⟨ds, hcs, hne, hd, rfl, hle⟩
    exact natText?_digits hcs hne hd hle

theorem toDigits_ne_cons {c : Char} (hc : c.isDigit = false) (n : Nat) :
    Nat.toDigits 10 n ≠ c :: cs := by
  intro h
  have hdigit : c.isDigit = true :=
    Nat.isDigit_of_mem_toDigits (by decide) (by decide) (h ▸ List.mem_cons_self)
  rw [hc] at hdigit
  cases hdigit

/-- An integer is written as the text that it was read from if and only if nothing could be left out
there: neither a plus sign nor a zero in front, nor the sign of zero. -/
theorem toString_eq_iff {i : Int} (h : intText? cs = some i) : (toString i).toList = cs ↔
    cs = ['0'] ∨ cs.head? ≠ some '+' ∧ (sign cs).2.head? ≠ some '0' := by
  obtain ⟨hne, hd, rfl⟩ := intText?_eq_some h
  have hnil : cs ≠ [] := by
    rintro rfl
    exact hne rfl
  obtain ⟨c, cs, rfl⟩ := List.exists_cons_of_ne_nil hnil
  by_cases hplus : c = '+'
  · subst hplus
    refine iff_of_false ?_ (by simp)
    show (toString (value cs : Int)).toList ≠ _
    rw [toList_natCast]
    exact toDigits_ne_cons rfl _
  by_cases hminus : c = '-'
  · subst hminus
    replace hne : cs ≠ [] := hne
    replace hd : ∀ c ∈ cs, c.isDigit = true := hd
    show (toString (-(value cs : Int))).toList = _ ↔ _ ∨ _ ∧ cs.head? ≠ some '0'
    have hagain := toDigits_value_eq_iff hd hne
    rcases Nat.eq_zero_or_pos (value cs) with hzero | hpos
    · rw [hzero] at hagain ⊢
      have hwritten : (toString (-((0 : Nat) : Int))).toList = ['0'] := by decide
      rw [hwritten]
      refine iff_of_false (by simp) ?_
      rintro (h | ⟨-, hlead⟩)
      · cases h
      · have hcs : ['0'] = cs := hagain.mpr (.inr hlead)
        exact hlead (hcs ▸ rfl)
    · rw [toList_neg hpos]
      have hcs : cs ≠ ['0'] := by
        rintro rfl
        exact Nat.lt_irrefl 0 hpos
      simpa [hcs] using hagain
  · rw [sign_of_ne hplus hminus] at hne hd ⊢
    show (toString (value (c :: cs) : Int)).toList = _ ↔ _
    rw [toList_natCast, toDigits_value_eq_iff hd hne]
    simp [hplus]

end DrainGuard.Decimal
