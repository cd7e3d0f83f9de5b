import DrainGuard.Proofs.Json.Records

/-!
# Reading nested values

- **Values** (`Value.Nested`): values without fractions, in lists and objects nested up to some
  depth.
- **Lists** (`items_reads`, `list_reads`): items that were written are read as they were. An item is
  told from the end of its list by its first character (`Value.Nested.begins`).
- **Texts** (`value_nested`, `parse_nested`): such a value is what its text is parsed to.
-/

namespace DrainGuard.Json

namespace Value

/-- A value whose text is read as it was written: no fractions, the keys of an object in order, and
lists and objects nested at most `depth` deep. -/
inductive Nested : Nat → Value → Prop where
  | plain {depth : Nat} {v : Value} (h : v.Plain) : Nested depth v
  | nat {depth n : Nat} (h : n ≤ Reader.maxSignificand) : Nested depth (.nat n)
  | arr {depth : Nat} {vs : List Value} (h : ∀ v ∈ vs, Nested depth v) :
    Nested (depth + 1) (.arr vs)
  | obj {depth : Nat} {fs : List (String × Value)} (h : ∀ f ∈ fs, Nested depth f.2)
    (hord : fs.Pairwise fun f f' => f.1 < f'.1) : Nested (depth + 1) (.obj fs)

open Reader in
/-- The text of a value begins neither with a blank nor with the end of a list. -/
theorem Nested.begins {depth : Nat} {v : Value} (h : v.Nested depth) :
    ∃ c l, v.compact.toList = c :: l ∧ isGap c = false ∧ c ≠ ']' := by
  cases h with
  | plain h =>
    cases h with
    | null => exact ⟨'n', "ull".toList, rfl, rfl, by decide⟩
    | bool b =>
      cases b with
      | false => exact ⟨'f', "alse".toList, rfl, rfl, by decide⟩
      | true => exact ⟨'t', "rue".toList, rfl, rfl, by decide⟩
    | str s =>
      rw [compact, toList_quote]
      exact ⟨'"', _, rfl, rfl, by decide⟩
  | @nat _ n h =>
    rw [toList_nat]
    obtain ⟨c, ds, hc⟩ := List.exists_cons_of_ne_nil (Nat.toDigits_ne_nil (n := n) (b := 10))
    have hd : c.isDigit = true :=
      Nat.isDigit_of_mem_toDigits (by decide) (by decide) (hc ▸ List.mem_cons_self)
    exact ⟨c, ds, hc, (digit_starts hd).1, ne_of_isDigit hd ']' rfl⟩
  | arr h =>
    rw [compact, String.toList_append, String.toList_append]
    exact ⟨'[', _, rfl, rfl, by decide⟩
  | obj h =>
    rw [compact, String.toList_append, String.toList_append]
    exact ⟨'{', _, rfl, rfl, by decide⟩

end Value

namespace Reader

variable {l : List Char} {v : Value} {vs : List Value} {depth : Nat}

theorem Closed.ends (h : Closed l) : Ends l := by
  intro ch hch
  rcases h ch hch with rfl | rfl | rfl <;> decide

/-! ## Lists -/

/-- Items as they are written, behind others unless they are the first. -/
def itemsText : Bool → List Value → List Char
  | _, [] => []
  | first, v :: vs => separator first ++ v.compact.toList ++ itemsText false vs

theorem toList_compactItems (vs : List Value) :
    (Value.compactItems vs).toList = itemsText true vs := by
  have hcons (v : Value) (vs : List Value) : (Value.compactItems (v :: vs)).toList =
      v.compact.toList ++ itemsText false vs := by
    induction vs generalizing v with
    | nil => simp [Value.compactItems, itemsText]
    | cons v' vs ih =>
      rw [Value.compactItems]
      · simp [ih, itemsText, separator]
      · simp
  cases vs with
  | nil => rfl
  | cons v vs => exact hcons v vs

/-- An item costs a character at least. -/
theorem length_le_itemsText (first : Bool) (hvs : ∀ v ∈ vs, v.Nested depth) :
    vs.length ≤ (itemsText first vs).length := by
  induction vs generalizing first with
  | nil => exact Nat.zero_le _
  | cons v vs ih =>
    obtain ⟨hv, hvs⟩ := List.forall_mem_cons.mp hvs
    obtain ⟨c, cs, hc, -⟩ := hv.begins
    have hrest := ih false hvs
    simp only [itemsText, hc, List.length_append, List.length_cons]
    omega

theorem itemsText_closed (vs : List Value) (l : List Char) :
    Closed (itemsText false vs ++ ']' :: l) := by
  cases vs with
  | nil =>
    rintro _ ⟨⟩
    exact .inr (.inl rfl)
  | cons v vs =>
    rintro _ ⟨⟩
    exact .inl rfl

theorem listEnd_reads (l : List Char) : Reads listEnd (']' :: l) () l :=
  .peekToken_bind (by rintro _ ⟨⟩; rfl) (.skip ']' l)

theorem moreItems_end (first : Bool) (l : List Char) :
    Reads (moreItems first) (']' :: l) false (']' :: l) :=
  .peekToken_bind (by rintro _ ⟨⟩; rfl) (.pure false _)

theorem moreItems_next (first : Bool) {c : Char} (hgap : isGap c = false) (hend : c ≠ ']')
    (l : List Char) : Reads (moreItems first) (separator first ++ c :: l) true (c :: l) := by
  have hhead : ∀ ch ∈ (c :: l).head?, isGap ch = false := by
    rintro _ ⟨⟩
    exact hgap
  cases first with
  | true =>
    refine .peekToken_bind hhead ?_
    show Reads (if c = ']' then _ else _) _ _ _
    rw [if_neg hend]
    exact .pure true _
  | false =>
    refine .peekToken_bind (by rintro _ ⟨⟩; rfl) (.skip_bind (.peekToken_bind hhead ?_))
    show Reads (if c = ']' then _ else _) _ _ _
    rw [if_neg hend]
    exact .pure true _

/-- The items of a list that are left. -/
theorem items_reads {item : Reader Value} {fuel : Nat} (acc : List Value)
    (hvs : ∀ v ∈ vs, v.Nested depth)
    (hitem : ∀ v ∈ vs, ∀ l, Closed l → Reads item (v.compact.toList ++ l) v l)
    (hfuel : vs.length ≤ fuel) (first : Bool) (l : List Char) :
    Reads (items item fuel first acc) (itemsText first vs ++ ']' :: l) (acc.reverse ++ vs)
      (']' :: l) := by
  induction vs generalizing fuel first acc with
  | nil =>
    rw [List.append_nil]
    cases fuel with
    | zero => exact .pure _ _
    | succ fuel => exact (moreItems_end first l).bind (.pure _ _)
  | cons v vs ih =>
    obtain ⟨n, rfl⟩ := Nat.exists_eq_add_one.mpr (Nat.lt_of_lt_of_le vs.length.succ_pos hfuel)
    have hrest := ih (v :: acc) (fun v' hv' => hvs v' (List.mem_cons_of_mem v hv'))
      (fun v' hv' => hitem v' (List.mem_cons_of_mem v hv')) (Nat.le_of_succ_le_succ hfuel) false
    rw [List.reverse_cons, List.append_assoc, List.singleton_append] at hrest
    have hv := hitem v List.mem_cons_self _ (itemsText_closed vs l)
    obtain ⟨c, cs, hc, hgap, hend⟩ := (hvs v List.mem_cons_self).begins
    have hmore := moreItems_next first hgap hend (cs ++ (itemsText false vs ++ ']' :: l))
    rw [← List.cons_append, ← hc] at hmore
    rw [itemsText, List.append_assoc, List.append_assoc]
    exact hmore.bind (hv.bind hrest)

/-- A list is read as it was written, if its items are. -/
theorem list_reads (hvs : ∀ v ∈ vs, v.Nested depth)
    (hitem : ∀ v ∈ vs, ∀ l, Closed l → Reads (value depth) (v.compact.toList ++ l) v l)
    (l : List Char) :
    Reads (value (depth + 1)) ((Value.arr vs).compact.toList ++ l) (.arr vs) l := by
  have ht : (Value.arr vs).compact.toList ++ l = '[' :: (itemsText true vs ++ ']' :: l) := by
    rw [Value.compact, String.toList_append, String.toList_append, toList_compactItems,
      List.append_assoc, List.append_assoc]
    rfl
  rw [ht]
  refine .peekToken_bind (by rintro _ ⟨⟩; rfl) (.skip_bind (.get_bind fun c hc => ?_))
  have hfuel : vs.length ≤ c.rest.length + 1 := by
    have := length_le_itemsText true hvs
    rw [hc, List.length_append]
    omega
  have hitems := items_reads [] hvs hitem hfuel true l
  exact .closing (hitems.bind (.pure (Value.arr vs) _)) (listEnd_reads l)

/-! ## Texts -/

/-- A value is read as it was written. -/
theorem value_nested (h : v.Nested depth) :
    ∀ l, Closed l → Reads (value depth) (v.compact.toList ++ l) v l := by
  induction h with
  | plain h => exact fun l _ => value_reads h _ l
  | nat h => exact fun l hl => value_simple (g := []) (.nat h) nofun hl.ends _
  | arr h ih => exact fun l _ => list_reads h ih l
  | obj h hord ih => exact fun l _ => object_reads ih hord l

end Reader

/-- A value is what its text is parsed to. -/
theorem parse_nested {v : Value} (h : v.Nested Reader.maxDepth) : parse v.compact = .ok v := by
  have hv := Reader.value_nested h [] Reader.closed_nil
  rw [List.append_nil] at hv
  exact Reader.whole_eq hv

end DrainGuard.Json
