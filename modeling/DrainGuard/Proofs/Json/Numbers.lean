import DrainGuard.Proofs.Decimal.Numerals
import DrainGuard.Proofs.Json.Reads

/-!
# Reading whole numbers

- **Numerals** (`Numeral`): digits without a zero in front, of a number that fits. The digits of a
  number are a numeral (`numeral_toDigits`), and so is every part of a numeral from its first
  digit on (`Numeral.of_prefix`), which stands for a number of its own.
- **Readings** (`number_reads`): a numeral is read as its number, if nothing behind it would go on.
-/

namespace DrainGuard.Json

/-- The digits of a number that a reader takes as a whole. -/
structure Numeral (ds : List Char) : Prop where
  digits : ∀ c ∈ ds, c.isDigit = true
  /-- Only zero itself begins with a zero. -/
  lead : ds.head? = some '0' → ds = ['0']
  fits : Nat.ofDigitChars 10 ds 0 ≤ Reader.maxSignificand

theorem ofDigitChars_le_append (ds es : List Char) (s : Nat) :
    Nat.ofDigitChars 10 ds s ≤ Nat.ofDigitChars 10 (ds ++ es) s := by
  rw [Nat.ofDigitChars_append, Nat.ofDigitChars_eq_ofDigitChars_zero (l := es)]
  calc Nat.ofDigitChars 10 ds s
    _ ≤ 10 ^ es.length * Nat.ofDigitChars 10 ds s :=
      Nat.le_mul_of_pos_left _ (Nat.pow_pos (by decide))
    _ ≤ _ := Nat.le_add_right _ _

theorem numeral_toDigits {n : Nat} (hn : n ≤ Reader.maxSignificand) :
    Numeral (Nat.toDigits 10 n) where
  digits c hc := Nat.isDigit_of_mem_toDigits (by decide) (by decide) hc
  lead h := by
    rcases Nat.eq_zero_or_pos n with rfl | hpos
    · rfl
    · exact absurd h (Decimal.head?_toDigits hpos)
  fits := by rwa [Nat.ofDigitChars_ten_toDigits]

/-- A part of a numeral from its first digit on is a numeral. -/
theorem Numeral.of_prefix {ds es : List Char} (h : Numeral (ds ++ es)) (hne : ds ≠ []) :
    Numeral ds where
  digits c hc := h.digits c (List.mem_append_left es hc)
  lead hz := by
    have hall := h.lead (by rwa [Decimal.head?_append hne])
    obtain ⟨d, ds, rfl⟩ := List.exists_cons_of_ne_nil hne
    rw [List.cons_append, List.cons.injEq, List.append_eq_nil_iff] at hall
    rw [hall.1, hall.2.1]
  fits := Nat.le_trans (ofDigitChars_le_append ds es 0) h.fits

namespace Reader

/-- No character that would go on with a number comes next. -/
def Ends (l : List Char) : Prop :=
  ∀ c ∈ l.head?, c.isDigit = false ∧ c ≠ '.' ∧ c ≠ 'e' ∧ c ≠ 'E'

variable {l : List Char}

theorem keepDigits_append {ds : List Char} (hd : ∀ c ∈ ds, c.isDigit = true) (hl : Ends l)
    (s taken : Nat) (hs : Nat.ofDigitChars 10 ds s ≤ maxSignificand) :
    keepDigits s (ds ++ l) taken = ⟨Nat.ofDigitChars 10 ds s, taken + ds.length⟩ := by
  induction ds generalizing s taken with
  | nil =>
    cases l with
    | nil => rfl
    | cons c l =>
      rw [List.nil_append, keepDigits, if_neg (by simp [(hl c rfl).1])]
      rfl
  | cons c ds ih =>
    have hcons : Nat.ofDigitChars 10 (c :: ds) s =
        Nat.ofDigitChars 10 ds (s * 10 + (c.toNat - 48)) := by
      rw [Nat.ofDigitChars_cons, Nat.mul_comm]
      rfl
    have hfirst : s * 10 + (c.toNat - 48) ≤ maxSignificand := by
      rw [hcons] at hs
      exact Nat.le_trans (ofDigitChars_le_append [] ds _) hs
    rw [List.cons_append, keepDigits, if_pos (hd c List.mem_cons_self)]
    simp only [if_neg (Nat.not_lt.mpr hfirst)]
    rw [ih (fun d hd' => hd d (List.mem_cons_of_mem c hd')) _ _ (hcons ▸ hs), hcons,
      List.length_cons, Nat.add_assoc, Nat.add_comm 1]

theorem keep_reads {ds : List Char} (h : Numeral ds) (hl : Ends l) :
    Reads (keep 0) (ds ++ l) ⟨Nat.ofDigitChars 10 ds 0, ds.length⟩ l := by
  refine .get_bind fun c hc => ?_
  have hk : keepDigits 0 c.rest 0 = ⟨Nat.ofDigitChars 10 ds 0, ds.length⟩ := by
    rw [hc, keepDigits_append h.digits hl 0 0 h.fits, Nat.zero_add]
  simp only [hk]
  refine .set_bind ?_ (.pure _ l)
  rw [hc]
  exact List.drop_left

theorem atDigit_reads (hl : Ends l) : Reads atDigit l false l := by
  have hnone : l.head?.any Char.isDigit = false := by
    cases l with
    | nil => rfl
    | cons c l => exact (hl c rfl).1
  refine .peek_bind ?_
  rw [hnone]
  exact .pure false l

theorem afterDigits_reads (hl : Ends l) (n : Nat) : Reads (afterDigits true n) l (.int n) l := by
  refine .peek_bind ?_
  split
  case h_1 h => exact absurd rfl (hl _ h).2.1
  case h_2 h => exact absurd rfl (hl _ h).2.2.1
  case h_3 h => exact absurd rfl (hl _ h).2.2.2
  case h_4 => exact .pure _ l

/-- A numeral is read as its number. -/
theorem number_reads {ds : List Char} (h : Numeral ds) (hne : ds ≠ []) (hl : Ends l) :
    Reads (number true) (ds ++ l) (.int (Nat.ofDigitChars 10 ds 0)) l := by
  obtain ⟨c, ds, rfl⟩ := List.exists_cons_of_ne_nil hne
  have hc : c.isDigit = true := h.digits c List.mem_cons_self
  refine .peek_bind ?_
  show Reads (if c = '0' then _ else if c.isDigit then _ else _) _ _ _
  rw [if_pos hc]
  split
  case isTrue hz =>
    obtain ⟨-, rfl⟩ := List.cons.inj (h.lead (by rw [hz]; rfl))
    subst hz
    exact .skip_bind ((atDigit_reads hl).bind (afterDigits_reads hl 0))
  case isFalse =>
    exact (keep_reads h hl).bind ((atDigit_reads hl).bind (afterDigits_reads hl _))

end Reader

end DrainGuard.Json
