import DrainGuard.Proofs.Text.Utf8
import DrainGuard.Proofs.Text.Words

/-!
# The last line of a text

The last line that is not blank, said without cutting the text into lines, and what may stand
before and behind it without making a difference.

- **Lines** (`splitLines_append`, `splitLines_line`): the pieces between line feeds.
- **The last line** (`LastLine`, `lastLine?_eq_some_iff`, `lastLine?_eq_none_iff`): the last line
  that is not blank, without the blanks around it. A text without one is all blanks.
- **Neighbours** (`LastLine.append_blanks`, `LastLine.prepend`): blanks behind a text and whole lines
  before it do not change its last line.
- **Bytes** (`decode_append`, `decode_blanks`, `decode_break`): bytes are read independently of what
  stands behind them, unless that goes on with a sequence. This holds of broken sequences too.
-/

namespace DrainGuard.Text

variable {cs a b l : List Char}

/-! ## Lines -/

theorem isBlank_newline : isBlank '\n' = true := rfl

theorem splitLines_line (h : '\n' ∉ cs) : splitLines cs = [cs] := by
  induction cs with
  | nil => rfl
  | cons c cs ih =>
    simp only [List.mem_cons, not_or] at h
    simp [splitLines, ih h.2, Ne.symm h.1]

/-- A line feed ends a line whatever stands around it. -/
theorem splitLines_append (a b : List Char) :
    splitLines (a ++ '\n' :: b) = splitLines a ++ splitLines b := by
  induction a with
  | nil => simp [splitLines]
  | cons c a ih =>
    rw [List.cons_append, splitLines, splitLines, ih]
    by_cases hc : c = '\n'
    · simp [hc]
    · obtain ⟨w, ws, hw⟩ := List.exists_cons_of_ne_nil (splitLines_ne_nil a)
      simp [hc, hw]

/-- A text is one line, or a line with a line feed and a text behind it. -/
theorem line_or_lines (cs : List Char) :
    '\n' ∉ cs ∨ ∃ a b, '\n' ∉ a ∧ cs = a ++ '\n' :: b := by
  by_cases h : '\n' ∈ cs
  · obtain ⟨a, b, hcs, ha⟩ := List.eq_append_cons_of_mem h
    exact .inr ⟨a, b, ha, hcs⟩
  · exact .inl h

/-! ## The last line -/

/-- The last line that is not blank, without the blanks around it. Before it there are other lines,
and the blanks at its own start; behind it there are only blanks. -/
def LastLine (cs l : List Char) : Prop :=
  l ≠ [] ∧ Trimmed l ∧ '\n' ∉ l ∧ ∃ before lead after, cs = before ++ lead ++ l ++ after ∧
    (∀ c ∈ before.getLast?, c = '\n') ∧ Blanks lead ∧ '\n' ∉ lead ∧ Blanks after

theorem lastLine?_append (a b : List Char) :
    lastLine? (a ++ '\n' :: b) = (lastLine? b).or (lastLine? a) := by
  rw [lastLine?, splitLines_append, List.reverse_append, List.map_append, List.find?_append]
  rfl

theorem lastLine?_line (h : '\n' ∉ cs) :
    lastLine? cs = if trimList cs = [] then none else some (trimList cs) := by
  rw [lastLine?, splitLines_line h]
  by_cases ht : trimList cs = [] <;> simp [ht]

theorem blanks_of_trimList (h : trimList cs = []) : Blanks cs := by
  obtain ⟨-, a, b, ha, hb, rfl⟩ := trimList_eq_iff.mp h
  rw [List.append_nil]
  exact ha.append hb

theorem lastLine?_blanks (h : Blanks cs) : lastLine? cs = none := by
  induction hn : cs.length using Nat.strongRecOn generalizing cs with
  | _ n ih =>
    rcases line_or_lines cs with hline | ⟨a, b, ha, rfl⟩
    · rw [lastLine?_line hline, if_pos (trimList_blanks h)]
    · have hblanks : Blanks a ∧ Blanks b :=
        ⟨fun c hc => h c (by simp [hc]), fun c hc => h c (by simp [hc])⟩
      simp only [List.length_append, List.length_cons] at hn
      rw [lastLine?_append, ih b.length (by omega) hblanks.2 rfl,
        ih a.length (by omega) hblanks.1 rfl]
      rfl

theorem LastLine.append_blanks (h : LastLine a l) (hb : Blanks b) : LastLine (a ++ b) l := by
  obtain ⟨hne, htrim, hnl, before, lead, after, rfl, hbefore, hlead, hleadnl, hafter⟩ := h
  refine ⟨hne, htrim, hnl, before, lead, after ++ b, ?_, hbefore, hlead, hleadnl,
    hafter.append hb⟩
  simp only [List.append_assoc]

theorem LastLine.prepend (h : LastLine b l) (a : List Char) : LastLine (a ++ '\n' :: b) l := by
  obtain ⟨hne, htrim, hnl, before, lead, after, rfl, hbefore, hlead, hleadnl, hafter⟩ := h
  refine ⟨hne, htrim, hnl, a ++ '\n' :: before, lead, after, ?_, ?_, hlead, hleadnl, hafter⟩
  · simp only [List.append_assoc, List.cons_append]
  · intro c hc
    rw [List.getLast?_append, List.getLast?_cons] at hc
    cases hlast : before.getLast? with
    | none => simpa [hlast, eq_comm] using hc
    | some d =>
      obtain rfl : d = c := by simpa [hlast] using hc
      exact hbefore d hlast

/-- What is said of the last line tells which one it is. -/
theorem LastLine.lastLine?_eq (h : LastLine cs l) : lastLine? cs = some l := by
  obtain ⟨hne, htrim, hnl, before, lead, after, rfl, hbefore, hlead, hleadnl, hafter⟩ := h
  have hline {b : List Char} (hb : Blanks b) (hbnl : '\n' ∉ b) :
      lastLine? (lead ++ l ++ b) = some l := by
    rw [lastLine?_line (by simp [hleadnl, hnl, hbnl]), trimList_append hlead hb htrim,
      if_neg hne]
  -- the line may end the text, or a line feed among the blanks behind it ends the line
  have hlast : lastLine? (lead ++ l ++ after) = some l := by
    rcases line_or_lines after with hafternl | ⟨a, b, ha, rfl⟩
    · exact hline hafter hafternl
    · rw [← List.append_assoc, lastLine?_append, lastLine?_blanks fun c hc => hafter c (by simp [hc]),
        hline (fun c hc => hafter c (by simp [hc])) ha]
      rfl
  rcases List.eq_nil_or_concat before with rfl | ⟨front, c, rfl⟩
  · simpa using hlast
  · obtain rfl : c = '\n' := hbefore c (by simp)
    have hsplit : front.concat '\n' ++ lead ++ l ++ after = front ++ '\n' :: (lead ++ l ++ after) := by
      simp
    rw [hsplit, lastLine?_append, hlast]
    rfl

/-- A text is all blanks or has a last line. -/
theorem blanks_or_lastLine (cs : List Char) : Blanks cs ∨ ∃ l, LastLine cs l := by
  induction hn : cs.length using Nat.strongRecOn generalizing cs with
  | _ n ih =>
    rcases line_or_lines cs with hline | ⟨a, b, ha, rfl⟩
    · by_cases ht : trimList cs = []
      · exact .inl (blanks_of_trimList ht)
      · obtain ⟨htrim, a, b, hblank, hblank', hcs⟩ := trimList_eq_iff.mp (rfl : trimList cs = _)
        have hnl : '\n' ∉ a ∧ '\n' ∉ trimList cs := by
          rw [hcs] at hline
          simp only [List.mem_append, not_or] at hline
          exact ⟨hline.1.1, hline.1.2⟩
        exact .inr ⟨trimList cs, ht, htrim, hnl.2, [], a, b, hcs, by simp, hblank, hnl.1, hblank'⟩
    · simp only [List.length_append, List.length_cons] at hn
      rcases ih b.length (by omega) b rfl with hb | ⟨l, hl⟩
      · have hbreak : Blanks ('\n' :: b) := List.forall_mem_cons.mpr ⟨isBlank_newline, hb⟩
        rcases ih a.length (by omega) a rfl with hblanks | ⟨l, hl⟩
        · exact .inl (hblanks.append hbreak)
        · exact .inr ⟨l, hl.append_blanks hbreak⟩
      · exact .inr ⟨l, hl.prepend a⟩

theorem lastLine?_eq_some_iff : lastLine? cs = some l ↔ LastLine cs l := by
  constructor
  · intro h
    rcases blanks_or_lastLine cs with hblanks | ⟨l', hl'⟩
    · rw [lastLine?_blanks hblanks] at h
      cases h
    · rw [hl'.lastLine?_eq] at h
      exact Option.some.inj h ▸ hl'
  · exact LastLine.lastLine?_eq

theorem lastLine?_eq_none_iff : lastLine? cs = none ↔ Blanks cs := by
  constructor
  · intro h
    rcases blanks_or_lastLine cs with hblanks | ⟨l, hl⟩
    · exact hblanks
    · rw [hl.lastLine?_eq] at h
      cases h
  · exact lastLine?_blanks

/-- Blanks behind a text make no difference to its last line. -/
theorem lastLine?_append_blanks (hb : Blanks b) : lastLine? (a ++ b) = lastLine? a := by
  cases h : lastLine? a with
  | none => exact lastLine?_blanks ((lastLine?_eq_none_iff.mp h).append hb)
  | some l => exact ((lastLine?_eq_some_iff.mp h).append_blanks hb).lastLine?_eq

/-! ## Bytes -/

theorem isContinuation_of_admitsSecond {x y : UInt8} (h : admitsSecond x y = true) :
    isContinuation y = true := by
  obtain ⟨m, hm, rfl⟩ := exists_byte x
  obtain ⟨n, hn, rfl⟩ := exists_byte y
  have hbounds := second_bounds hm hn h
  rw [isContinuation_byte hn]
  exact decide_eq_true ⟨hbounds.1, hbounds.2.1⟩

section Append

variable {bs : List UInt8} (hbs : ∀ y ∈ bs.head?, isContinuation y = false)

include hbs

/-- A sequence is not continued by what stands behind the bytes at hand. -/
theorem continuing_append (x : UInt8) (n : Nat) (rest : List UInt8) :
    continuing x n (rest ++ bs) = continuing x n rest := by
  cases rest with
  | nil =>
    cases bs with
    | nil => rfl
    | cons y bs =>
      have hsecond : admitsSecond x y = false := by
        apply Bool.eq_false_iff.mpr
        intro h
        have hy := hbs y rfl
        rw [isContinuation_of_admitsSecond h] at hy
        cases hy
      simp [continuing, hsecond]
  | cons y rest =>
    have hstop (k : Nat) : (bs.take k).takeWhile isContinuation = [] := by
      cases bs with
      | nil => simp
      | cons z bs => cases k <;> simp [hbs z rfl]
    have hrun : ((rest ++ bs).take (n - 1)).takeWhile isContinuation =
        (rest.take (n - 1)).takeWhile isContinuation := by
      rw [List.take_append, List.takeWhile_append, hstop, List.append_nil]
      split
      · next hall => exact ((List.takeWhile_sublist _).eq_of_length hall).symm
      · rfl
    rw [List.cons_append, continuing, continuing, hrun]

theorem firstChar_append (x : UInt8) (rest : List UInt8) :
    firstChar x (rest ++ bs) =
      ((firstChar x rest).1, (firstChar x rest).2.1, (firstChar x rest).2.2 ++ bs) := by
  unfold firstChar
  split
  · rfl
  · next n hn =>
    have hle := continuing_le x n rest
    simp only [continuing_append hbs]
    by_cases hk : continuing x n rest = n
    · rw [if_pos hk, if_pos hk, List.take_append_of_le_length (by omega),
        List.drop_append_of_le_length (by omega)]
    · rw [if_neg hk, if_neg hk, List.drop_append_of_le_length hle]

/-- Bytes are read independently of those behind them, unless the latter continue a sequence. -/
theorem decode_append (as : List UInt8) : decode (as ++ bs) = decode as ++ decode bs := by
  induction hn : as.length using Nat.strongRecOn generalizing as with
  | _ n ih =>
    cases as with
    | nil => rw [List.nil_append, decode, List.nil_append]
    | cons x rest =>
      have hle := firstChar_length_le x rest
      simp only [List.length_cons] at hn
      rw [List.cons_append, decode, decode.eq_def (x :: rest), firstChar_append hbs]
      simp only [List.cons_append]
      rw [ih _ (by omega) _ rfl]

end Append

/-- A byte of seven bits is read as its own character. -/
theorem decode_ascii {n : Nat} (h : n ≤ 127) (rest : List UInt8) :
    decode (UInt8.ofNat n :: rest) = Char.ofNat n :: decode rest := by
  rw [decode]
  have hfirst := (spells_one h).firstChar rest
  rw [List.nil_append] at hfirst
  rw [hfirst]

theorem isContinuation_ascii {n : Nat} (h : n ≤ 127) : isContinuation (UInt8.ofNat n) = false := by
  rw [isContinuation_byte (by omega)]
  exact decide_eq_false (by omega)

/-- A byte that is a blank of seven bits: a space, or one of the controls from tab to return. -/
def IsSpace (x : UInt8) : Prop := x = 0x20 ∨ 0x09 ≤ x ∧ x ≤ 0x0D

theorem IsSpace.bounds {n : Nat} (hn : n < 256) (h : IsSpace (UInt8.ofNat n)) :
    n = 32 ∨ 9 ≤ n ∧ n ≤ 13 := by
  simpa [IsSpace, ← UInt8.toNat_inj, UInt8.le_iff_toNat_le, Nat.mod_eq_of_lt hn] using h

/-- Spaces are read as blanks. -/
theorem decode_blanks {ws : List UInt8} (h : ∀ x ∈ ws, IsSpace x) : Blanks (decode ws) := by
  induction ws with
  | nil => simp [decode, blanks_nil]
  | cons x ws ih =>
    obtain ⟨hx, hws⟩ := List.forall_mem_cons.mp h
    obtain ⟨n, hn, rfl⟩ := exists_byte x
    have hbounds := hx.bounds hn
    rw [decode_ascii (by omega)]
    refine List.forall_mem_cons.mpr ⟨?_, ih hws⟩
    have hvalid : n.isValidChar := .inl (by omega)
    have hcode : (Char.ofNat n).toNat = n := by
      rw [Char.ofNat, dif_pos hvalid]
      rfl
    simp only [isBlank, hcode]
    rcases hbounds with rfl | hbounds
    · rfl
    · simp [hbounds]

/-- Spaces behind bytes are read as blanks behind their text. -/
theorem decode_append_spaces (bs : List UInt8) {ws : List UInt8} (h : ∀ x ∈ ws, IsSpace x) :
    decode (bs ++ ws) = decode bs ++ decode ws := by
  apply decode_append
  intro y hy
  obtain ⟨n, hn, rfl⟩ := exists_byte y
  have hbounds := (h _ (List.mem_of_mem_head? hy)).bounds hn
  exact isContinuation_ascii (by omega)

/-- A line feed among bytes is read as one. -/
theorem decode_break (front bs : List UInt8) :
    decode (front ++ 0x0A :: bs) = decode front ++ '\n' :: decode bs := by
  rw [decode_append (by rintro y ⟨⟩; rfl)]
  exact congrArg (decode front ++ ·) (decode_ascii (n := 10) (by omega) bs)

end DrainGuard.Text
