import DrainGuard.Toml.Reader

/-!
# Keys of a document

In a document that is read no key comes twice, neither at its top nor in a table under a key. So it
does not matter in which order the keys are looked up.

- **Distinct keys** (`Table.Distinct`, `Value.Keyed`): a table whose keys differ, and one that holds
  such tables only.
- **Changes** (`Preserves`): what opens a table or adds a key keeps the keys apart, wherever in the
  document it does so (`Preserves.update`).
- **Readers** (`Yields r P`): whatever the reader `r` gives is as `P` says.
- **Documents** (`parse?_keyed`): the keys of the content differ.
-/

namespace DrainGuard.Toml

/-- The keys of a table differ. -/
def Table.Distinct (t : Table) : Prop := (t.entries.map Prod.fst).Nodup

/-- If the value is a table, its keys differ. -/
def Value.Keyed (v : Value) : Prop := ∀ fs, v = .table fs → (fs.map Prod.fst).Nodup

/-- The keys of what an entry holds differ. -/
def Item.Keyed : Item → Prop
  | .value v => v.Keyed
  | .table t => t.Distinct
  | .tables _ => True

/-- The keys of a table differ, and so do those of what it holds. -/
structure Table.Keyed (t : Table) : Prop where
  /-- Its own keys. -/
  distinct : t.Distinct
  /-- The keys of its entries. -/
  entries : ∀ e ∈ t.entries, e.2.Keyed

variable {t t' : Table} {k : String}

theorem Table.Distinct.put (h : t.Distinct) (k : String) (i : Item) : (t.put k i).Distinct :=
  nodup_setEntry k i h

theorem Table.Keyed.put (h : t.Keyed) {i : Item} (hi : i.Keyed) : (t.put k i).Keyed where
  distinct := h.distinct.put k i
  entries e he := by
    rcases mem_setEntry he with rfl | he
    · exact hi
    · exact h.entries e he

theorem Table.Keyed.lookup (h : t.Keyed) {i : Item} (hi : t.entries.lookup k = some i) : i.Keyed :=
  h.entries _ (mem_of_lookup hi)

theorem distinct_new (o : Origin) : (Table.mk o []).Distinct := List.nodup_nil

theorem keyed_new (o : Origin) : (Table.mk o []).Keyed := ⟨distinct_new o, fun _ h => nomatch h⟩

/-! ## Changes -/

/-- A change of a table that keeps keys apart. -/
structure Preserves (f : Table → Option Table) : Prop where
  /-- Those of the table. -/
  distinct : ∀ {t t'}, f t = some t' → t.Distinct → t'.Distinct
  /-- Those of the table and of what it holds. -/
  keyed : ∀ {t t'}, f t = some t' → t.Keyed → t'.Keyed

/-- A change on the way through a key puts an entry under it: a changed table, which was new or
stood there before, or an array of tables. -/
theorem update_cons {f : Table → Option Table} {made : Origin} {path : List String}
    (h : t.update made (k :: path) f = some t') : ∃ i, t' = t.put k i ∧
      ((∃ sub sub', i = .table sub' ∧ sub.update made path f = some sub' ∧
        (sub = .mk made [] ∨ t.entries.lookup k = some (.table sub))) ∨ ∃ ts, i = .tables ts) := by
  rw [Table.update] at h
  split at h
  · obtain ⟨sub', hsub, rfl⟩ := Option.map_eq_some_iff.mp h
    exact ⟨_, rfl, .inl ⟨_, sub', rfl, hsub, .inl rfl⟩⟩
  · cases h
  · next sub hl =>
    split at h
    · cases h
    · obtain ⟨sub', hsub, rfl⟩ := Option.map_eq_some_iff.mp h
      exact ⟨_, rfl, .inl ⟨sub, sub', rfl, hsub, .inr hl⟩⟩
  · cases h
  · obtain ⟨last, -, rfl⟩ := Option.map_eq_some_iff.mp h
    exact ⟨_, rfl, .inr ⟨_, rfl⟩⟩

theorem Preserves.update {f : Table → Option Table} (h : Preserves f) (made : Origin)
    (path : List String) : Preserves (Table.update made path f) := by
  induction path with
  | nil => exact h
  | cons k path ih =>
    constructor
    · intro t t' hu ht
      obtain ⟨i, rfl, -⟩ := update_cons hu
      exact ht.put k i
    · intro t t' hu ht
      obtain ⟨i, rfl, ⟨sub, sub', rfl, hsub, rfl | hl⟩ | ⟨ts, rfl⟩⟩ := update_cons hu
      · exact ht.put (ih.distinct hsub (distinct_new made))
      · exact ht.put (ih.distinct hsub (ht.lookup hl))
      · exact ht.put trivial

theorem preserves_add (viaDots : Bool) (k : String) {v : Value} (hv : v.Keyed) :
    Preserves (Table.add viaDots k v) := by
  have hput (t t' : Table) (h : t.add viaDots k v = some t') : t' = t.put k (.value v) := by
    unfold Table.add at h
    split at h
    · cases h
    · split at h <;> cases h
      rfl
  constructor
  · rintro t t' h ht
    rw [hput t t' h]
    exact ht.put k _
  · rintro t t' h ht
    rw [hput t t' h]
    exact ht.put hv

theorem preserves_addPath (path : List String) (k : String) {v : Value} (hv : v.Keyed) :
    Preserves (Table.addPath path k v) :=
  (preserves_add (!path.isEmpty) k hv).update .dotted path

theorem finishEntries_keys (es : List (String × Item)) :
    (finishEntries es).map Prod.fst = es.map Prod.fst := by
  induction es with
  | nil => rfl
  | cons e es ih => rw [finishEntries, List.map_cons, List.map_cons, ih]

theorem Table.Distinct.finish (ht : t.Distinct) : t.finish.Keyed := by
  obtain ⟨o, es⟩ := t
  rintro fs ⟨⟩
  rw [finishEntries_keys]
  exact ht

namespace Reader

variable {α β : Type} {P : α → Prop} {Q : β → Prop}

/-! ## Readers -/

/-- Whatever a reader gives is as `P` says. -/
def Yields (r : Reader α) (P : α → Prop) : Prop := ∀ l a l', r l = some (a, l') → P a

theorem Yields.bind {r : Reader α} {f : α → Reader β} (h : Yields r P)
    (hf : ∀ a, P a → Yields (f a) Q) : Yields (r >>= f) Q := by
  intro l b l' hb
  obtain ⟨⟨a, l₁⟩, ha, hb⟩ := Option.bind_eq_some_iff.mp hb
  exact hf a (h l a l₁ ha) l₁ b l' hb

theorem Yields.after {r : Reader α} {f : α → Reader β} (hf : ∀ a, Yields (f a) Q) :
    Yields (r >>= f) Q :=
  Yields.bind (P := fun _ => True) (fun _ _ _ _ => trivial) fun a _ => hf a

theorem Yields.pure {a : α} (h : P a) : Yields (pure a) P := by
  rintro l b l' ⟨⟩
  exact h

theorem Yields.failure : Yields (failure : Reader α) P := by
  rintro l a l' ⟨⟩

theorem Yields.lift {o : Option α} (h : ∀ a, o = some a → P a) : Yields (liftM o) P := by
  intro l a l' ha
  obtain ⟨b, rfl, hp⟩ := Option.bind_eq_some_iff.mp (show o.bind _ = _ from ha)
  cases hp
  exact h a rfl

theorem Yields.orElse {r r' : Reader α} (h : Yields r P) (h' : Yields r' P) :
    Yields (r <|> r') P := by
  intro l a l' ha
  have ha : (r l <|> r' l) = some (a, l') := ha
  cases hr : r l with
  | none =>
    rw [hr] at ha
    exact h' l a l' ha
  | some x =>
    rw [hr] at ha
    exact h l a l' (hr.trans ha)

theorem scalar_yields (c : Char) : Yields (scalar c) Value.Keyed := by
  have plain {v : Value} (hv : ∀ fs, v ≠ .table fs) : v.Keyed := fun fs h => absurd h (hv fs)
  unfold scalar
  split
  · exact .after fun s => .pure (plain fun _ h => nomatch h)
  split
  · exact .after fun _ => .pure (plain fun _ h => nomatch h)
  split
  · exact .after fun _ => .pure (plain fun _ h => nomatch h)
  · exact .orElse (.after fun _ => .pure (plain fun _ h => nomatch h)) <|
      .orElse (.after fun _ => .pure (plain fun _ h => nomatch h))
        (.after fun _ => .pure (plain fun _ h => nomatch h))

theorem pair_yields {value : Reader Value} (hv : Yields value Value.Keyed) :
    Yields (pair value) fun p => p.2.Keyed :=
  .after fun _ => .after fun _ => .after fun _ => hv.bind fun _ h => .pure h

/-- The pairs of a table on one line keep its keys apart. -/
theorem pairs_yields {value : Reader Value} (hv : Yields value Value.Keyed) (fuel : Nat) {t : Table}
    (ht : t.Distinct) : Yields (pairs value fuel t) Table.Distinct := by
  induction fuel generalizing t with
  | zero => exact .failure
  | succ fuel ih =>
    refine (pair_yields hv).bind fun p hp => .after fun _ => ?_
    refine .bind (.lift fun t' ht' => (preserves_addPath _ _ hp).distinct ht' ht) fun t' ht' => ?_
    refine .after fun more => ?_
    cases more with
    | true => exact ih ht'
    | false => exact .after fun _ => .pure ht'

theorem value_yields (depth : Nat) : Yields (value depth) Value.Keyed := by
  induction depth with
  | zero =>
    refine .after fun c => ?_
    split
    · split
      · exact .failure
      · exact scalar_yields _
    · exact .failure
  | succ depth ih =>
    refine .after fun c => ?_
    split
    · split
      · exact .after fun _ => .after fun _ => .after fun _ => .pure fun _ h => nomatch h
      · split
        · refine .after fun _ => .after fun _ => .after fun closed => ?_
          cases closed with
          | true => exact .pure fun fs h => by cases h; exact List.nodup_nil
          | false =>
            refine .after fun _ => (pairs_yields ih _ (distinct_new _)).bind fun t ht => ?_
            exact .pure ht.finish
        · exact scalar_yields _
    · exact .failure

/-! ## Documents -/

/-- A table that a header opens has the keys that it had before, or none. -/
theorem openTable_keyed {s s' : State} {path : List String} (h : openTable path k s = some s')
    (hs : s.document.Keyed) : s'.document.Keyed := by
  obtain ⟨document, hu, hs'⟩ := Option.bind_eq_some_iff.mp h
  cases hs'
  refine (Preserves.update ⟨?_, ?_⟩ .passed path).keyed hu hs
  · intro t t' hf ht
    split at hf
    · cases hf
      exact ht.put k _
    · split at hf <;> cases hf
      exact ht.put k _
    · cases hf
  · intro t t' hf ht
    split at hf
    · cases hf
      exact ht.put (distinct_new _)
    · next sub hl =>
      split at hf <;> cases hf
      have hsub : sub.Distinct := ht.lookup hl
      exact ht.put hsub
    · cases hf

theorem openNext_keyed {s s' : State} {path : List String} (h : openNext path k s = some s')
    (hs : s.document.Keyed) : s'.document.Keyed := by
  obtain ⟨document, hu, hs'⟩ := Option.bind_eq_some_iff.mp h
  cases hs'
  refine (Preserves.update ⟨?_, ?_⟩ .passed path).keyed hu hs
  · intro t t' hf ht
    split at hf <;> cases hf <;> exact ht.put k _
  · intro t t' hf ht
    split at hf <;> cases hf <;> exact ht.put trivial

theorem addPair_keyed {s s' : State} {path : List String} {v : Value} (hv : v.Keyed)
    (h : addPair path k v s = some s') (hs : s.document.Keyed) : s'.document.Keyed := by
  obtain ⟨document, hu, hs'⟩ := Option.bind_eq_some_iff.mp h
  cases hs'
  exact ((preserves_addPath path k hv).update .passed s.path).keyed hu hs

theorem header_yields {s : State} (hs : s.document.Keyed) :
    Yields (header s) fun s => s.document.Keyed := by
  refine .after fun next => .after fun key => .after fun _ => ?_
  cases next with
  | true => exact .after fun _ => .after fun _ => .lift fun s' h => openNext_keyed h hs
  | false => exact .after fun _ => .lift fun s' h => openTable_keyed h hs

theorem lines_yields (fuel : Nat) {s : State} (hs : s.document.Keyed) :
    Yields (lines fuel s) fun s => s.document.Keyed := by
  induction fuel generalizing s with
  | zero => exact .failure
  | succ fuel ih =>
    refine .after fun _ => .after fun c => ?_
    split
    · exact .pure hs
    · split
      · exact .after fun _ => ih hs
      split
      · exact .after fun _ => (header_yields hs).bind fun s' hs' => ih hs'
      · refine (pair_yields (value_yields maxDepth)).bind fun p hp => .after fun _ => ?_
        exact .bind (.lift fun s' h => addPair_keyed hp h hs) fun s' hs' => ih hs'

end Reader

theorem Item.Keyed.finish {i : Item} (h : i.Keyed) : i.finish.Keyed := by
  match i with
  | .value _ => exact h
  | .table _ => exact Table.Distinct.finish h
  | .tables _ => exact fun _ h => nomatch h

theorem mem_finishEntries {es : List (String × Item)} {f : String × Value}
    (h : f ∈ finishEntries es) : ∃ e ∈ es, f = (e.1, e.2.finish) := by
  induction es with
  | nil => cases h
  | cons e es ih =>
    rw [finishEntries] at h
    rcases List.mem_cons.mp h with rfl | h
    · exact ⟨e, List.mem_cons_self, rfl⟩
    · obtain ⟨e', he', hf⟩ := ih h
      exact ⟨e', List.mem_cons_of_mem e he', hf⟩

theorem Table.Keyed.finish (ht : t.Keyed) {fs : List (String × Value)} (h : t.finish = .table fs) :
    ∀ f ∈ fs, f.2.Keyed := by
  obtain ⟨o, es⟩ := t
  cases h
  intro f hf
  obtain ⟨e, he, rfl⟩ := mem_finishEntries hf
  exact (ht.entries e he).finish

/-- No key of a document comes twice, and no key of a table that stands under one of them. -/
theorem parse?_keyed {cs : List Char} {fields : List (String × Value)}
    (h : parse? cs = some fields) : (fields.map Prod.fst).Nodup ∧ ∀ f ∈ fields, f.2.Keyed := by
  obtain ⟨⟨s, l⟩, hs, h⟩ := Option.bind_eq_some_iff.mp h
  have hkeyed : s.document.Keyed := Reader.lines_yields _ (keyed_new .header) _ s l hs
  dsimp only at h
  split at h
  · next hfinish =>
    cases h
    exact ⟨hkeyed.distinct.finish _ hfinish, hkeyed.finish hfinish⟩
  · cases h

end DrainGuard.Toml
