import DrainGuard.Proofs.Json.Numbers

/-!
# Reading what was cut off

A text may stop anywhere. A reader that comes upon its end inside a string fails. A number has no
end of its own, so what is left of one is read as another number; but then nothing comes after it.

- **Failures** (`Fails`, `Spends`): a reader fails on a text, or it leaves nothing of it. A reader
  that leaves nothing fails with what comes next, if that cannot do without characters
  (`Spends.bind_fails`).
- **Strings** (`string_cut`) and **numbers** (`number_cut`): what a reader makes of the first part
  of each.
-/

namespace DrainGuard.Json

/-- The first part of two texts ends inside the first of them or behind it. -/
theorem cut_append {p q a b : List Char} (h : p ++ q = a ++ b) :
    (∃ r, r ≠ [] ∧ p ++ r = a) ∨ ∃ p', p = a ++ p' ∧ p' ++ q = b := by
  rcases List.append_eq_append_iff.mp h with ⟨r, ha, hq⟩ | ⟨p', hp, hb⟩
  · by_cases hr : r = []
    · subst hr
      exact .inr ⟨[], by rw [ha, List.append_nil, List.append_nil], hq⟩
    · exact .inl ⟨r, hr, ha.symm⟩
  · exact .inr ⟨p', hp, hb.symm⟩

theorem cut_singleton {p q : List Char} {c : Char} (h : p ++ q = [c]) (hq : q ≠ []) : p = [] := by
  have hpos := List.length_pos_iff.mpr hq
  have hlen := congrArg List.length h
  rw [List.length_append, List.length_singleton] at hlen
  exact List.length_eq_zero_iff.mp (by omega)

namespace Reader

variable {α β : Type} {l : List Char}

/-- A reader fails on the characters `l`. -/
def Fails (r : Reader α) (l : List Char) : Prop := Runs r l fun x _ => ∃ e, x = .error e

/-- Whatever a reader gives, it leaves nothing of the characters `l`. -/
def Spends (r : Reader α) (l : List Char) : Prop := Runs r l fun x l' => ∀ a, x = .ok a → l' = []

theorem Fails.bind {r : Reader α} {f : α → Reader β} (h : Fails r l) : Fails (r >>= f) l :=
  Runs.bind h (fun _ _ ⟨_, he⟩ => nomatch he) fun e _ _ => ⟨e, rfl⟩

theorem Fails.spends {r : Reader α} (h : Fails r l) : Spends r l := by
  intro c hc a ha
  obtain ⟨e, he⟩ := h c hc
  rw [ha] at he
  cases he

theorem Spends.bind {r : Reader α} {f : α → Reader β} (h : Spends r l)
    (hf : ∀ a, Spends (f a) []) : Spends (r >>= f) l :=
  Runs.bind h (fun a _ hl => by cases hl a rfl; exact hf a) fun _ _ _ _ he => nomatch he

theorem Spends.bind_fails {r : Reader α} {f : α → Reader β} (h : Spends r l)
    (hf : ∀ a, Fails (f a) []) : Fails (r >>= f) l :=
  Runs.bind h (fun a _ hl => by cases hl a rfl; exact hf a) fun e _ _ => ⟨e, rfl⟩

theorem Reads.spends {r : Reader α} {a : α} (h : Reads r l a []) : Spends r l :=
  fun c hc _ _ => (reads_iff_runs.mp h c hc).2

theorem Reads.bind_fails {r : Reader α} {f : α → Reader β} {a : α} {l₁ : List Char}
    (h : Reads r l a l₁) (hf : Fails (f a) l₁) : Fails (r >>= f) l := h.runs_bind hf

theorem failHere_fails (cause : Cause) : Fails (α := α) (failHere cause) l := fun _ _ => ⟨_, rfl⟩

theorem failAhead_fails (cause : Cause) : Fails (α := α) (failAhead cause) l := fun _ _ => ⟨_, rfl⟩

theorem complain_fails (complaint : String) : Fails (α := α) (complain complaint) l :=
  fun _ _ => ⟨_, rfl⟩

/-- A text on which a reader fails holds no value. -/
theorem whole_fails {r : Reader α} {s : String} (h : Fails r s.toList) :
    ∃ e, whole r s = .error e := h.bind (Cursor.ofString s) rfl

/-- Where only blanks come, there is no next token. -/
theorem peekToken_gap {f : Option Char → Reader α} (hl : ∀ ch ∈ l, isGap ch = true)
    (h : Fails (f none) []) : Fails (peekToken >>= f) l := by
  have := Runs.peekToken_bind (l := []) (f := f) hl (fun _ h => nomatch h) h
  rwa [List.append_nil] at this

/-! ## Strings -/

theorem stringLoop_nil (fuel : Nat) (acc : List Char) : Fails (stringLoop fuel acc) [] := by
  cases fuel with
  | zero => exact failHere_fails _
  | succ fuel => exact .peek_bind (failHere_fails _)

/-- Characters of one byte each take as many bytes as there are. -/
theorem foldl_utf8Size {p : List Char} (hs : ∀ d ∈ p, d.utf8Size = 1) (n : Nat) :
    p.foldl (fun n d => n + d.utf8Size) n = n + p.length := by
  induction p generalizing n with
  | nil => rfl
  | cons d p ih =>
    rw [List.foldl_cons, ih (fun d' h => hs d' (List.mem_cons_of_mem d h)),
      hs d List.mem_cons_self, List.length_cons, Nat.add_assoc, Nat.add_comm 1]

theorem hexEscape_short {p : List Char} (hp : p.length < 4) (hs : ∀ d ∈ p, d.utf8Size = 1) :
    Fails hexEscape p := by
  refine .get_bind fun c hc => ?_
  have hlt : (c.rest.take 4).foldl (fun n d => n + d.utf8Size) 0 < 4 := by
    rw [hc, List.take_of_length_le (Nat.le_of_lt hp), foldl_utf8Size hs]
    omega
  simp only [if_pos hlt]
  exact .set_bind rfl (failHere_fails _)

/-- What stands for a character: itself, a letter behind a backslash, or four digits. -/
theorem escapeChar_shape (c : Char) :
    escapeChar c = [c] ∧ c ≠ '\\' ∨ (∃ e, escapeChar c = ['\\', e]) ∨ c.toNat < 32 ∧
      escapeChar c = ['\\', 'u', '0', '0', hexDigit (c.toNat / 16), hexDigit (c.toNat % 16)] := by
  grind [escapeChar]

/-- An escape of a control character that stops before its end. -/
theorem unicodeEscape_short {c : Char} (hc : c.toNat < 32) {p q : List Char}
    (h : p ++ q = ['0', '0', hexDigit (c.toNat / 16), hexDigit (c.toNat % 16)]) (hq : q ≠ []) :
    Fails unicodeEscape p := by
  obtain ⟨-, h₁, h₂⟩ := hexFour?_control c.toNat hc
  have hlen : p.length + q.length = 4 := by rw [← List.length_append, h]; rfl
  have hpos := List.length_pos_iff.mpr hq
  refine Fails.bind (hexEscape_short (by omega) fun d hd => ?_)
  have hmem := List.mem_append_left q hd
  rw [h] at hmem
  simp only [List.mem_cons, List.not_mem_nil, or_false] at hmem
  rcases hmem with rfl | rfl | rfl | rfl
  · rfl
  · rfl
  · exact h₁
  · exact h₂

/-- What stands for a character and stops before its end. -/
theorem stringLoop_short {c : Char} {p q : List Char} (h : p ++ q = escapeChar c) (hq : q ≠ [])
    (fuel : Nat) (acc : List Char) : Fails (stringLoop fuel acc) p := by
  cases p with
  | nil => exact stringLoop_nil fuel acc
  | cons b p =>
    have hpos := List.length_pos_iff.mpr hq
    have hlen : p.length + q.length + 1 = (escapeChar c).length := by
      rw [← h, List.length_append, List.length_cons, Nat.add_right_comm]
    cases fuel with
    | zero => exact failHere_fails _
    | succ fuel =>
      rcases escapeChar_shape c with ⟨he, -⟩ | ⟨e, he⟩ | ⟨hc, he⟩ <;> rw [he] at h hlen
      · simp only [List.length_cons, List.length_nil] at hlen
        omega
      · obtain ⟨rfl, -⟩ := List.cons.inj h
        simp only [List.length_cons, List.length_nil] at hlen
        rw [List.length_eq_zero_iff.mp (show p.length = 0 by omega)]
        exact .peek_bind (.skip_bind (Fails.bind (.peek_bind (failHere_fails _))))
      · obtain ⟨rfl, hu⟩ := List.cons.inj h
        refine .peek_bind (.skip_bind (Fails.bind ?_))
        cases p with
        | nil => exact .peek_bind (failHere_fails _)
        | cons u p =>
          obtain ⟨rfl, hx⟩ := List.cons.inj hu
          exact .peek_bind (.skip_bind (unicodeEscape_short hc hx hq))

/-- The first part of what stands for characters holds no end of the string. -/
theorem stringLoop_cut (cs : List Char) {p q : List Char} (h : p ++ q = cs.flatMap escapeChar)
    (fuel : Nat) (acc : List Char) : Fails (stringLoop fuel acc) p := by
  induction cs generalizing p fuel acc with
  | nil =>
    rw [(List.append_eq_nil_iff.mp h).1]
    exact stringLoop_nil fuel acc
  | cons c cs ih =>
    cases fuel with
    | zero => exact failHere_fails _
    | succ fuel =>
      rw [List.flatMap_cons] at h
      rcases cut_append h with ⟨r, hr, hc⟩ | ⟨p', rfl, hcs⟩
      · exact stringLoop_short hc hr _ acc
      · exact stringLoop_char c (ih hcs fuel _)

/-- A string without its closing quote. -/
theorem string_cut (s : String) {p q : List Char}
    (h : p ++ q = s.toList.flatMap escapeChar ++ ['"']) (hq : q ≠ []) : Fails string p := by
  refine .get_bind fun _ _ => ?_
  rcases cut_append h with ⟨r, -, hs⟩ | ⟨p', rfl, hquote⟩
  · exact stringLoop_cut s.toList hs _ []
  · rw [cut_singleton hquote hq, List.append_nil]
    exact stringLoop_cut s.toList (List.append_nil _) _ []

/-! ## Numbers -/

/-- A number that stops early is read as a number of fewer digits. -/
theorem number_cut {ds p q : List Char} (hds : Numeral ds) (h : p ++ q = ds) :
    Spends (number true) p := by
  by_cases hp : p = []
  · rw [hp]
    exact Fails.spends (.peek_bind (failHere_fails _))
  · have hr := number_reads (Numeral.of_prefix (h ▸ hds) hp) hp (l := []) fun _ h => nomatch h
    rw [List.append_nil] at hr
    exact hr.spends

end Reader

end DrainGuard.Json
