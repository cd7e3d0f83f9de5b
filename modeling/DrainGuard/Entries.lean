/-!
# Entries under keys

Lists of pairs that hold at most one value for each key, in the order in which the keys came.

* `setEntry`: puts a value under a key.
* `lookup_setEntry_self`, `lookup_setEntry_of_ne`, `lookup_setEntry`: what is found afterwards.
* `setEntry_new`, `setEntry_setEntry`: a new key comes last, and a value gives way to a later one.
* `nodup_setEntry`: no key comes twice.
* `lookup_of_mem`: where no key comes twice, an entry is what is found under its key.
* `keys_map`, `lookup_map`: where each value is converted, keys stay where they are.
-/

namespace DrainGuard

/-- Puts a value under a key, in place of the one that is there. -/
def setEntry {κ α : Type} [DecidableEq κ] (key : κ) (value : α) : List (κ × α) → List (κ × α)
  | [] => [(key, value)]
  | (k, v) :: rest => if k = key then (k, value) :: rest else (k, v) :: setEntry key value rest

variable {κ α : Type} [DecidableEq κ]

theorem lookup_setEntry_self (key : κ) (value : α) (es : List (κ × α)) :
    (setEntry key value es).lookup key = some value := by
  induction es with
  | nil => simp [setEntry]
  | cons e es ih =>
    obtain ⟨k, v⟩ := e
    by_cases h : k = key
    · simp [setEntry, h]
    · simp [setEntry, h, List.lookup_cons, beq_false_of_ne (Ne.symm h), ih]

theorem lookup_setEntry_of_ne {key other : κ} (h : other ≠ key) (value : α) (es : List (κ × α)) :
    (setEntry key value es).lookup other = es.lookup other := by
  induction es with
  | nil => simp [setEntry, List.lookup_cons, beq_false_of_ne h]
  | cons e es ih =>
    obtain ⟨k, v⟩ := e
    by_cases hk : k = key
    · subst hk; simp [setEntry, List.lookup_cons, beq_false_of_ne h]
    · simp [setEntry, hk, List.lookup_cons, ih]

theorem lookup_setEntry (key other : κ) (value : α) (es : List (κ × α)) :
    (setEntry key value es).lookup other = if other = key then some value else es.lookup other := by
  by_cases h : other = key
  · rw [if_pos h, h, lookup_setEntry_self]
  · rw [if_neg h, lookup_setEntry_of_ne h]

theorem lookup_eq_none {key : κ} {es : List (κ × α)} (h : key ∉ es.map Prod.fst) :
    es.lookup key = none := by
  rw [List.lookup_eq_none_iff]
  intro e he
  simpa using fun heq : key = e.1 => h (heq ▸ List.mem_map_of_mem he)

theorem setEntry_new {key : κ} {es : List (κ × α)} (h : key ∉ es.map Prod.fst) (value : α) :
    setEntry key value es = es ++ [(key, value)] := by
  induction es with
  | nil => rfl
  | cons e es ih =>
    rw [List.map_cons, List.mem_cons, not_or] at h
    rw [setEntry, if_neg (Ne.symm h.1), ih h.2, List.cons_append]

theorem setEntry_setEntry (key : κ) (value earlier : α) (es : List (κ × α)) :
    setEntry key value (setEntry key earlier es) = setEntry key value es := by
  induction es with
  | nil => exact if_pos rfl
  | cons e es ih =>
    by_cases h : e.1 = key
    · simp only [setEntry, if_pos h]
    · simp only [setEntry, if_neg h, ih]

theorem mem_setEntry {key : κ} {value : α} {es : List (κ × α)} {e : κ × α}
    (h : e ∈ setEntry key value es) : e = (key, value) ∨ e ∈ es := by
  induction es with
  | nil => exact .inl (List.mem_singleton.mp h)
  | cons e' es ih =>
    rw [setEntry] at h
    split at h
    · next hk =>
      rw [hk] at h
      exact (List.mem_cons.mp h).imp_right (List.mem_cons_of_mem e')
    · rcases List.mem_cons.mp h with rfl | h
      · exact .inr List.mem_cons_self
      · exact (ih h).imp_right (List.mem_cons_of_mem e')

theorem nodup_setEntry (key : κ) (value : α) {es : List (κ × α)} (h : (es.map Prod.fst).Nodup) :
    ((setEntry key value es).map Prod.fst).Nodup := by
  induction es with
  | nil => simp [setEntry]
  | cons e es ih =>
    rw [List.map_cons, List.nodup_cons] at h
    rw [setEntry]
    split
    · exact List.nodup_cons.mpr h
    · next hk =>
      refine List.nodup_cons.mpr ⟨fun hm => ?_, ih h.2⟩
      obtain ⟨e', he', heq⟩ := List.mem_map.mp hm
      rcases mem_setEntry he' with rfl | he'
      · exact hk heq.symm
      · exact h.1 (heq ▸ List.mem_map_of_mem he')

theorem mem_of_lookup {key : κ} {value : α} {es : List (κ × α)} (h : es.lookup key = some value) :
    (key, value) ∈ es := by
  obtain ⟨before, after, rfl, -⟩ := List.lookup_eq_some_iff.mp h
  exact List.mem_append_right before List.mem_cons_self

theorem lookup_of_mem {key : κ} {value : α} {es : List (κ × α)} (hd : (es.map Prod.fst).Nodup)
    (h : (key, value) ∈ es) : es.lookup key = some value := by
  obtain ⟨before, after, rfl⟩ := List.append_of_mem h
  refine List.lookup_eq_some_iff.mpr ⟨before, after, rfl, fun e he => ?_⟩
  rw [List.map_append, List.map_cons, List.nodup_append] at hd
  simpa using hd.2.2 e.1 (List.mem_map_of_mem he) key List.mem_cons_self |>.symm

section Map

variable {β : Type} (f : α → β) (es : List (κ × α))

omit [DecidableEq κ] in
theorem keys_map : (es.map fun e => (e.1, f e.2)).map Prod.fst = es.map Prod.fst := by
  rw [List.map_map]
  rfl

theorem lookup_map (key : κ) : (es.map fun e => (e.1, f e.2)).lookup key =
    (es.lookup key).map f := by
  induction es with
  | nil => rfl
  | cons e es ih =>
    rw [List.map_cons, List.lookup_cons, ih, List.lookup_cons]
    cases key == e.1 <;> rfl

end Map

end DrainGuard
