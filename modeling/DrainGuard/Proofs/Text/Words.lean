import Mathlib.Data.List.SplitBy
import Mathlib.Data.List.TakeDrop
import DrainGuard.Text.Blank

/-!
# Blanks and words

What is left of a text without the blanks around it, and the words between blanks, said without the
functions that find them.

- **Blanks** (`Blanks`, `Trimmed`): texts of nothing but blanks, and texts with none at either end.
- **Trimming** (`trimList_eq_iff`): the text without the blanks around it is the only one that has
  none at either end and comes to the whole with blanks around it.
- **Words** (`Splits`, `splits_iff`): the words of a text, each up to the next blank.
-/

namespace DrainGuard.Text

variable {cs a b w rest : List Char} {ws : List (List Char)}

/-! ## Blanks -/

/-- Nothing but blanks. -/
def Blanks (cs : List Char) : Prop := ∀ c ∈ cs, isBlank c = true

/-- Not a single blank. -/
def Solid (cs : List Char) : Prop := ∀ c ∈ cs, isBlank c = false

/-- No blank at either end. -/
def Trimmed (cs : List Char) : Prop :=
  (∀ c ∈ cs.head?, isBlank c = false) ∧ ∀ c ∈ cs.getLast?, isBlank c = false

theorem blanks_nil : Blanks [] := fun _ hc => absurd hc List.not_mem_nil

theorem Blanks.append (ha : Blanks a) (hb : Blanks b) : Blanks (a ++ b) :=
  fun c hc => (List.mem_append.mp hc).elim (ha c) (hb c)

theorem Solid.trimmed (h : Solid cs) : Trimmed cs :=
  ⟨fun c hc => h c (List.mem_of_mem_head? hc), fun c hc => h c (List.mem_of_mem_getLast? hc)⟩

/-! ## Trimming -/

theorem trimStartList_append (ha : Blanks a) (cs : List Char) :
    trimStartList (a ++ cs) = trimStartList cs :=
  List.dropWhile_append_of_pos ha

theorem trimStartList_eq_self (hcs : ∀ c ∈ cs.head?, isBlank c = false) :
    trimStartList cs = cs := by
  cases cs with
  | nil => rfl
  | cons c cs => exact List.dropWhile_cons_of_neg (Bool.eq_false_iff.mp (hcs c rfl))

theorem trimEndList_append (cs : List Char) (hb : Blanks b) :
    trimEndList (cs ++ b) = trimEndList cs := by
  have hreverse : Blanks b.reverse := fun c hc => hb c (List.mem_reverse.mp hc)
  rw [trimEndList, List.reverse_append]
  exact congrArg List.reverse (trimStartList_append hreverse cs.reverse)

theorem trimEndList_eq_self (hcs : ∀ c ∈ cs.getLast?, isBlank c = false) :
    trimEndList cs = cs := by
  have hreverse : trimStartList cs.reverse = cs.reverse :=
    trimStartList_eq_self (by rwa [List.head?_reverse])
  exact (congrArg List.reverse hreverse).trans (List.reverse_reverse cs)

theorem trimStartList_blanks (h : Blanks cs) : trimStartList cs = [] :=
  (congrArg trimStartList (List.append_nil cs).symm).trans (trimStartList_append h [])

theorem trimList_append (ha : Blanks a) (hb : Blanks b) (hw : Trimmed w) :
    trimList (a ++ w ++ b) = w := by
  rw [trimList, List.append_assoc, trimStartList_append ha]
  cases w with
  | nil =>
    rw [List.nil_append, trimStartList_blanks hb]
    rfl
  | cons c w =>
    have hself : trimStartList (c :: w ++ b) = c :: w ++ b := trimStartList_eq_self hw.1
    rw [hself, trimEndList_append _ hb, trimEndList_eq_self hw.2]

theorem exists_trimStartList (cs : List Char) : ∃ a, Blanks a ∧ cs = a ++ trimStartList cs ∧
    ∀ c ∈ (trimStartList cs).head?, isBlank c = false := by
  refine ⟨cs.takeWhile isBlank, List.all_eq_true.mp List.all_takeWhile,
    List.takeWhile_append_dropWhile.symm, fun c hc => ?_⟩
  obtain ⟨r, hr⟩ := List.head?_eq_some_iff.mp hc
  exact dropWhile_isBlank_head hr

theorem exists_trimEndList (cs : List Char) : ∃ b, Blanks b ∧ cs = trimEndList cs ++ b ∧
    ∀ c ∈ (trimEndList cs).getLast?, isBlank c = false := by
  obtain ⟨b, hb, hcs, hhead⟩ := exists_trimStartList cs.reverse
  refine ⟨b.reverse, fun c hc => hb c (List.mem_reverse.mp hc), ?_, ?_⟩
  · rw [← List.reverse_inj, List.reverse_append, List.reverse_reverse]
    exact hcs.trans (congrArg (b ++ ·) (List.reverse_reverse _).symm)
  · rw [trimEndList, List.getLast?_reverse]
    exact hhead

theorem trimList_eq_iff :
    trimList cs = w ↔ Trimmed w ∧ ∃ a b, Blanks a ∧ Blanks b ∧ cs = a ++ w ++ b := by
  constructor
  · rintro rfl
    obtain ⟨a, ha, hcs, hhead⟩ := exists_trimStartList cs
    obtain ⟨b, hb, htrim, hlast⟩ := exists_trimEndList (trimStartList cs)
    refine ⟨⟨fun c hc => hhead c ?_, hlast⟩, a, b, ha, hb, ?_⟩
    · rw [htrim, List.head?_append]
      exact Option.or_eq_some_iff.mpr (.inl hc)
    · rw [List.append_assoc]
      exact hcs.trans (congrArg (a ++ ·) htrim)
  · rintro ⟨hw, a, b, ha, hb, rfl⟩
    exact trimList_append ha hb hw

theorem trimList_blanks (h : Blanks cs) : trimList cs = [] := by
  rw [trimList, trimStartList_blanks h]
  rfl

theorem trimList_eq_self (hw : Trimmed w) : trimList w = w :=
  trimList_eq_iff.mpr ⟨hw, [], [], blanks_nil, blanks_nil, (List.append_nil w).symm⟩

theorem trimList_trimEndList (cs : List Char) : trimList (trimEndList cs) = trimList cs := by
  obtain ⟨c, hc, hcs, -⟩ := exists_trimEndList cs
  obtain ⟨hw, a, b, ha, hb, htrim⟩ := trimList_eq_iff.mp (rfl : trimList (trimEndList cs) = _)
  refine (trimList_eq_iff.mpr ⟨hw, a, b ++ c, ha, hb.append hc, ?_⟩).symm
  rw [← List.append_assoc, ← htrim]
  exact hcs

theorem trimList_drop (h : ∀ c ∈ cs.head?, isBlank c = true) :
    trimList (cs.drop 1) = trimList cs := by
  cases cs with
  | nil => rfl
  | cons c cs => exact (congrArg trimEndList (List.dropWhile_cons_of_pos (h c rfl))).symm

/-! ## Words -/

theorem words_append (h : ∀ x ∈ a.getLast?, ∀ y ∈ b.head?, isBlank x ≠ isBlank y) :
    words (a ++ b) = words a ++ words b := by
  rw [words, List.splitBy_append fun x hx y hy => beq_false_of_ne (h x hx y hy),
    List.filter_append]
  rfl

theorem words_run (hne : cs ≠ []) {blank : Bool} (h : ∀ c ∈ cs, isBlank c = blank) :
    words cs = if blank then [] else [cs] := by
  have hchain : cs.IsChain fun x y => (isBlank x == isBlank y) = true :=
    List.Pairwise.isChain (List.pairwise_of_forall_mem_list fun x hx y hy =>
      beq_iff_eq.mpr ((h x hx).trans (h y hy).symm))
  have hall : (!cs.all isBlank) = !blank := by
    obtain ⟨c, cs, rfl⟩ := List.exists_cons_of_ne_nil hne
    cases blank <;> simp_all
  rw [words, List.splitBy_of_isChain hne hchain]
  cases blank <;> simp [hall]

theorem words_blanks (h : Blanks cs) : words cs = [] := by
  rcases eq_or_ne cs [] with rfl | hne
  · rfl
  · exact words_run hne h

theorem span_append (hw : Solid w) (hr : ∀ c ∈ rest.head?, isBlank c = true) :
    (w ++ rest).span (!isBlank ·) = (w, rest) := by
  have hpos : ∀ c ∈ w, (!isBlank c) = true := fun c hc => by rw [hw c hc]; rfl
  rw [List.span_eq_takeWhile_dropWhile, List.takeWhile_append_of_pos hpos,
    List.dropWhile_append_of_pos hpos]
  cases rest with
  | nil => rw [List.takeWhile_nil, List.dropWhile_nil, List.append_nil]
  | cons c rest => simp [hr c rfl]

/-- The first word of a text, and what follows it. -/
def Leads (cs w rest : List Char) : Prop :=
  w ≠ [] ∧ Solid w ∧ (∀ c ∈ rest.head?, isBlank c = true) ∧ ∃ a, Blanks a ∧ cs = a ++ w ++ rest

theorem blanks_or_leads (cs : List Char) : Blanks cs ∨ ∃ w rest, Leads cs w rest := by
  obtain ⟨a, ha, hcs, hhead⟩ := exists_trimStartList cs
  generalize trimStartList cs = d at hcs hhead
  rcases eq_or_ne d [] with rfl | hne
  · exact .inl (hcs ▸ (List.append_nil a).symm ▸ ha)
  refine .inr ⟨d.takeWhile (!isBlank ·), d.dropWhile (!isBlank ·), ?_, fun c hc => ?_, ?_, a, ha,
    ?_⟩
  · obtain ⟨c, d, rfl⟩ := List.exists_cons_of_ne_nil hne
    simp [hhead c rfl]
  · simpa using List.all_eq_true.mp List.all_takeWhile c hc
  · intro c hc
    have hnot := List.head?_dropWhile_not (!isBlank ·) d
    rw [hc] at hnot
    simpa using hnot
  · rw [List.append_assoc, List.takeWhile_append_dropWhile, hcs]

theorem Leads.length_lt (h : Leads cs w rest) : rest.length < cs.length := by
  obtain ⟨hne, -, -, a, -, rfl⟩ := h
  have hpos := List.length_pos_of_ne_nil hne
  rw [List.length_append, List.length_append]
  omega

theorem Leads.words_eq (h : Leads cs w rest) : words cs = w :: words rest := by
  obtain ⟨hne, hw, hr, a, ha, rfl⟩ := h
  rw [words_append, words_append, words_blanks ha, words_run hne hw]
  · rfl
  · intro x hx y hy
    rw [ha x (List.mem_of_mem_getLast? hx), hw y (List.mem_of_mem_head? hy)]
    decide
  · intro x hx y hy
    rw [List.getLast?_append_of_ne_nil _ hne] at hx
    rw [hw x (List.mem_of_mem_getLast? hx), hr y hy]
    decide

/-- Trimming leaves the first word of a text as it is. -/
theorem Leads.trimList_eq (h : Leads cs w rest) : trimList cs = w ++ trimEndList rest := by
  obtain ⟨hne, hw, -, a, ha, rfl⟩ := h
  obtain ⟨b, hb, hrest, hlast⟩ := exists_trimEndList rest
  have hhead : ∀ c ∈ (w ++ rest).head?, isBlank c = false := by
    obtain ⟨c, w, rfl⟩ := List.exists_cons_of_ne_nil hne
    exact hw.trimmed.1
  have hend : ∀ c ∈ (w ++ trimEndList rest).getLast?, isBlank c = false := by
    intro c hc
    rw [List.getLast?_append] at hc
    rcases Option.or_eq_some_iff.mp hc with hc | ⟨-, hc⟩
    · exact hlast c hc
    · exact hw.trimmed.2 c hc
  have htrim : trimEndList (w ++ rest) = trimEndList (w ++ trimEndList rest) := by
    conv_lhs => rw [hrest, ← List.append_assoc, trimEndList_append _ hb]
  rw [trimList, List.append_assoc, trimStartList_append ha, trimStartList_eq_self hhead, htrim,
    trimEndList_eq_self hend]

/-- The words of a text, one after the other. -/
inductive Splits : List Char → List (List Char) → Prop where
  /-- There are no words. -/
  | blanks {cs : List Char} (h : Blanks cs) : Splits cs []
  /-- There is a word, and then there are more. -/
  | word {cs w rest : List Char} {ws : List (List Char)} (h : Leads cs w rest)
    (hws : Splits rest ws) : Splits cs (w :: ws)

theorem Splits.solid (h : Splits cs ws) : ∀ w ∈ ws, Solid w := by
  induction h with
  | blanks => exact fun w hw => absurd hw List.not_mem_nil
  | word h _ ih =>
    intro w hw
    rcases List.mem_cons.mp hw with rfl | hw
    · exact h.2.1
    · exact ih w hw

theorem exists_splits (cs : List Char) : ∃ ws, Splits cs ws := by
  induction h : cs.length using Nat.strongRecOn generalizing cs with
  | _ n ih =>
    rcases blanks_or_leads cs with hblanks | ⟨w, rest, hleads⟩
    · exact ⟨[], .blanks hblanks⟩
    · obtain ⟨ws, hws⟩ := ih _ (h ▸ hleads.length_lt) rest rfl
      exact ⟨w :: ws, .word hleads hws⟩

theorem splits_iff : Splits cs ws ↔ words cs = ws := by
  have hwords {ws : List (List Char)} (h : Splits cs ws) : words cs = ws := by
    induction h with
    | blanks h => exact words_blanks h
    | word h _ ih => rw [h.words_eq, ih]
  obtain ⟨ws', h'⟩ := exists_splits cs
  exact ⟨hwords, fun h => h ▸ hwords h' ▸ h'⟩

end DrainGuard.Text
