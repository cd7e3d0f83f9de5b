import DrainGuard.Settings.Load
import DrainGuard.Proofs.Settings.Decode

/-!
# Layers laid over each other

A document of settings has a section under each name and a value under each key. What is laid over
it changes the settings that it names and no others.

- **Keys** (`ofKey_path`, `variablePath?_variableName`): how the layers name the settings.
- **Single values** (`assign_reads`): a value assigned to the path of a setting.
- **Sections** (`put_section`, `lay_sections`): a section laid over what was there, key by key.
- **Entries** (`lay_entries`): a layer of entries, each under the path of its setting.
-/

namespace DrainGuard

open Toml (Entry)

/-! ## Keys -/

namespace Setting

/-- The path of a setting. -/
def path (x : Setting) : String := x.sectionName ++ "." ++ x.key

/-- A name in capitals. -/
def upper (name : String) : String := String.ofList (name.toList.map Char.toUpper)

/-- The environment variable of a setting. -/
def variableName (x : Setting) : String :=
  "SPOTGUARD_" ++ upper x.sectionName ++ "__" ++ upper x.key

theorem foldKey_sectionName (x : Setting) : foldKey x.sectionName = x.sectionName := by
  cases x <;> decide +kernel

theorem foldKey_key (x : Setting) : foldKey x.key = x.key := by
  cases x <;> decide +kernel

theorem ofKey_sectionName (x : Setting) : PathStep.ofKey x.sectionName = [.name x.sectionName] := by
  cases x <;> decide +kernel

theorem ofKey_path (x : Setting) : PathStep.ofKey x.path = [.name x.sectionName, .name x.key] := by
  cases x <;> decide +kernel

theorem variablePath?_variableName (x : Setting) :
    Layer.variablePath? x.variableName = some x.path := by
  cases x <;> decide +kernel

end Setting

/-! ## Single values -/

variable {P : String → Node → Prop} {fs : List (String × Node)} {root : Node}

theorem Fields.nil : Fields P [] := ⟨List.nodup_nil, fun _ h => nomatch h⟩

theorem Fields.set {k : String} {v : Node} (h : Fields P fs) (hv : P k v) :
    Fields P (setEntry k v fs) where
  distinct := nodup_setEntry k v h.distinct
  each f hf := by
    rcases mem_setEntry hf with rfl | hf
    · exact hv
    · exact h.each f hf

theorem IsDocument.fields (h : IsDocument root) : Fields IsSection root.fields := by
  obtain ⟨_, _, rfl, hf⟩ := h
  exact hf

theorem IsSection.fields {name : String} {v : Node} (h : IsSection name v) :
    Fields (InSection name) v.fields := by
  obtain ⟨-, _, _, rfl, hf⟩ := h
  exact hf

/-- The fields that a document has under a name, if it has any. -/
theorem IsDocument.section (h : IsDocument root) (name : String) (other : Node)
    (ho : other.fields = []) :
    Fields (InSection name) ((root.fields.lookup name).getD other).fields := by
  cases hv : root.fields.lookup name with
  | none => exact ho ▸ .nil
  | some v => exact (h.fields.each _ (mem_of_lookup hv)).fields

/-- A value that stands for an entry replaces what was under its key. -/
theorem put_entry {v : Node} {e : Entry} (he : v.held? = some e) (k : String) (root : Node) :
    Node.put k v root = .table root.asTable.1 (setEntry (foldKey k) v root.fields) := by
  unfold Node.put
  split
  · exact absurd rfl (Node.ne_table_of_held? he _ _)
  · rfl
  · rfl

theorem shown_eq (root : Node) (x : Setting) : root.shown x =
    ((root.fields.lookup x.sectionName).bind fun v => v.fields.lookup x.key).bind Node.held? := rfl

/-- A section that replaces another one decides on its own settings and no others. -/
theorem shown_set (source : Option String) (name : String) (sub root : Node) (y : Setting) :
    (Node.table source (setEntry name sub root.fields)).shown y =
      if y.sectionName = name then (sub.fields.lookup y.key).bind Node.held?
      else root.shown y := by
  have hfields : (Node.table source (setEntry name sub root.fields)).fields =
      setEntry name sub root.fields := rfl
  rw [shown_eq, hfields]
  by_cases hy : y.sectionName = name
  · rw [hy, lookup_setEntry_self, if_pos rfl, Option.bind_some]
  · rw [lookup_setEntry_of_ne hy, if_neg hy, shown_eq]

theorem shown_cons (source : Option String) (name : String) (sub : Node)
    (fs : List (String × Node)) (y : Setting) :
    (Node.table source ((name, sub) :: fs)).shown y =
      if y.sectionName = name then (sub.fields.lookup y.key).bind Node.held?
      else (Node.table source fs).shown y := by
  show ((((name, sub) :: fs).lookup y.sectionName).bind fun v => v.fields.lookup y.key).bind _ = _
  by_cases hy : y.sectionName = name
  · simp [hy]
  · simp only [List.lookup_cons, beq_false_of_ne hy, if_neg hy]
    rfl

theorem shown_eq_none {source : Option String} {y : Setting}
    (h : y.sectionName ∉ fs.map Prod.fst) : (Node.table source fs).shown y = none := by
  show ((fs.lookup y.sectionName).bind fun v => v.fields.lookup y.key).bind _ = _
  rw [lookup_eq_none h]
  rfl

/-- What stands under a name, seen from the section there. -/
theorem shown_section {x : Setting} (other : Node) (ho : other.fields = []) :
    ((((root.fields.lookup x.sectionName).getD other).fields).lookup x.key).bind Node.held? =
      root.shown x := by
  rw [shown_eq]
  cases root.fields.lookup x.sectionName with
  | none => rw [Option.getD_none, ho]; rfl
  | some v => rfl

/-- A value assigned to the path of a setting is the only thing that changes. -/
theorem assign_reads (h : IsDocument root) {x : Setting} {v : Node} {e : Entry}
    (he : v.held? = some e) (hk : e.kind = x.kind) :
    IsDocument (Node.assign v [.name x.sectionName, .name x.key] root) ∧
      ∀ y, (Node.assign v [.name x.sectionName, .name x.key] root).shown y =
        if y = x then some e else root.shown y := by
  have hassign : Node.assign v [.name x.sectionName, .name x.key] root =
      .table root.asTable.1 (setEntry x.sectionName
        (.table ((root.fields.lookup x.sectionName).getD .absent).asTable.1
          (setEntry x.key v ((root.fields.lookup x.sectionName).getD .absent).fields))
        root.fields) := by
    show Node.table root.asTable.1 (setEntry (foldKey x.sectionName) (Node.put x.key v _) _) = _
    rw [put_entry he, x.foldKey_sectionName, x.foldKey_key]
    rfl
  rw [hassign]
  constructor
  · exact ⟨_, _, rfl, h.fields.set ⟨⟨x, rfl⟩, _, _, rfl,
      (h.section _ _ rfl).set ⟨x, rfl, rfl, e, he, hk⟩⟩⟩
  intro y
  rw [shown_set]
  by_cases hs : y.sectionName = x.sectionName
  · rw [if_pos hs]
    show ((setEntry x.key v _).lookup y.key).bind _ = _
    by_cases hy : y = x
    · rw [hy, lookup_setEntry_self, if_pos rfl, Option.bind_some, he]
    · rw [lookup_setEntry_of_ne (mt Setting.key_injective hy), if_neg hy, ← hs,
        shown_section .absent rfl]
  · have hy : y ≠ x := by
      rintro rfl
      exact hs rfl
    rw [if_neg hs, if_neg hy]

/-! ## Sections -/

/-- Fields laid over those of a section replace the ones that they name. -/
theorem putAll_reads {name : String} (hf : Fields (InSection name) fs) (source : Option String)
    {es : List (String × Node)} (he : Fields (InSection name) es) :
    ∃ es', Node.putAll fs (.table source es) = .table source es' ∧ Fields (InSection name) es' ∧
      ∀ k, es'.lookup k = (fs.lookup k).or (es.lookup k) := by
  induction fs generalizing es with
  | nil => exact ⟨es, by rw [Node.putAll], he, fun _ => rfl⟩
  | cons f fs ih =>
    obtain ⟨k, v⟩ := f
    have hv : InSection name k v := hf.each _ List.mem_cons_self
    have hput : Node.put k v (.table source es) = .table source (setEntry k v es) := by
      obtain ⟨x, -, rfl, e, hentry, -⟩ := hv
      rw [put_entry hentry, x.foldKey_key]
      rfl
    obtain ⟨es', hall, hes', hlookup⟩ := ih hf.tail (he.set hv)
    refine ⟨es', by rw [Node.putAll, hput, hall], hes', fun k' => ?_⟩
    rw [hlookup]
    by_cases hk : k' = k
    · have hnone : fs.lookup k = none := lookup_eq_none (List.nodup_cons.mp hf.distinct).1
      simp [hk, hnone, lookup_setEntry_self]
    · rw [lookup_setEntry_of_ne hk]
      simp [List.lookup_cons, beq_false_of_ne hk]

/-- A section laid over a document shows its own settings, and leaves the others as they are. -/
theorem put_section (h : IsDocument root) {name : String} {v : Node} (hv : IsSection name v) :
    IsDocument (Node.put name v root) ∧ ∀ y, (Node.put name v root).shown y =
      if y.sectionName = name then
        ((v.fields.lookup y.key).bind Node.held?).or (root.shown y)
      else root.shown y := by
  obtain ⟨⟨x, rfl⟩, source, fs, rfl, hf⟩ := hv
  have htarget : ∃ source es, (root.fields.lookup x.sectionName).getD .emptyTable =
      .table source es ∧ Fields (InSection x.sectionName) es := by
    cases hl : root.fields.lookup x.sectionName with
    | none => exact ⟨_, _, rfl, .nil⟩
    | some v => exact (h.fields.each _ (mem_of_lookup hl)).2
  obtain ⟨source', es, htable, hes⟩ := htarget
  obtain ⟨es', hall, hes', hlookup⟩ := putAll_reads hf source' hes
  have hput : Node.put x.sectionName (.table source fs) root =
      .table root.asTable.1 (setEntry x.sectionName (.table source' es') root.fields) := by
    rw [Node.put, x.foldKey_sectionName]
    show Node.table root.asTable.1 (setEntry x.sectionName
      (Node.putAll fs ((root.fields.lookup x.sectionName).getD .emptyTable)) root.fields) = _
    rw [htable, hall]
  rw [hput]
  refine ⟨⟨_, _, rfl, h.fields.set ⟨⟨x, rfl⟩, _, _, rfl, hes'⟩⟩, fun y => ?_⟩
  rw [shown_set]
  by_cases hs : y.sectionName = x.sectionName
  · have hold : (es.lookup y.key).bind Node.held? = root.shown y := by
      rw [← shown_section .emptyTable rfl, hs, htable]
      rfl
    rw [if_pos hs, if_pos hs, ← hold]
    show (es'.lookup y.key).bind _ = ((fs.lookup y.key).bind _).or _
    rw [hlookup]
    cases hl : fs.lookup y.key with
    | none => rfl
    | some w =>
      obtain ⟨_, -, -, e, he, -⟩ := hf.each _ (mem_of_lookup hl)
      rw [Option.some_or, Option.bind_some, he, Option.some_or]
  · rw [if_neg hs, if_neg hs]

/-- Sections laid over a document show their own settings, and leave the others as they are. -/
theorem lay_sections (h : IsDocument root) {layer : Layer} (hf : Fields IsSection layer) :
    IsDocument (Layer.lay root layer) ∧ ∀ y, (Layer.lay root layer).shown y =
      ((Node.table none layer).shown y).or (root.shown y) := by
  induction layer generalizing root with
  | nil => exact ⟨h, fun _ => rfl⟩
  | cons f layer ih =>
    obtain ⟨name, v⟩ := f
    have hv : IsSection name v := hf.each _ List.mem_cons_self
    have hkey : PathStep.ofKey name = [.name name] := by
      obtain ⟨⟨x, rfl⟩, -⟩ := hv
      exact x.ofKey_sectionName
    obtain ⟨hput, hshown⟩ := put_section h hv
    obtain ⟨hlay, hrest⟩ := ih hput hf.tail
    have hstep : Layer.lay root ((name, v) :: layer) = Layer.lay (Node.put name v root) layer := by
      show Layer.lay (Node.assign v (PathStep.ofKey name) root) layer = _
      rw [hkey]
      rfl
    rw [hstep]
    refine ⟨hlay, fun y => ?_⟩
    rw [hrest, hshown]
    have hcons : (Node.table none ((name, v) :: layer)).shown y =
        if y.sectionName = name then (v.fields.lookup y.key).bind Node.held?
        else (Node.table none layer).shown y := shown_cons none name v layer y
    rw [hcons]
    by_cases hy : y.sectionName = name
    · have hnone : (Node.table none layer).shown y = none :=
        shown_eq_none (hy ▸ (List.nodup_cons.mp hf.distinct).1)
      rw [if_pos hy, if_pos hy, hnone, Option.none_or]
    · rw [if_neg hy, if_neg hy]

/-! ## Entries -/

theorem held?_ofEntry (e : Entry) : (Layer.ofEntry e).held? = some e := by
  cases e with
  | text s => rfl
  | number n => simp [Layer.ofEntry, Node.held?]
  | texts ss =>
    have hitems : (ss.map fun s => Node.scalar none (.text s)).mapM Node.text? = some ss := by
      rw [List.mapM_map]
      exact List.mapM_pure.trans (congrArg some (List.map_id ss))
    show ((ss.map fun s => Node.scalar none (.text s)).mapM Node.text?).map _ = _
    rw [hitems]
    rfl

/-- A layer that gives entries under the paths of settings shows these, and leaves the others as
they are. -/
theorem lay_entries (h : IsDocument root) (es : List (Setting × Entry))
    (hk : ∀ p ∈ es, p.2.kind = p.1.kind) (hd : (es.map Prod.fst).Nodup) :
    IsDocument (Layer.lay root (es.map fun p => (p.1.path, Layer.ofEntry p.2))) ∧
      ∀ y, (Layer.lay root (es.map fun p => (p.1.path, Layer.ofEntry p.2))).shown y =
        (es.lookup y).or (root.shown y) := by
  induction es generalizing root with
  | nil => exact ⟨h, fun _ => rfl⟩
  | cons p es ih =>
    obtain ⟨x, e⟩ := p
    obtain ⟨hassign, hshown⟩ := assign_reads h (held?_ofEntry e) (hk _ List.mem_cons_self)
    obtain ⟨hlay, hrest⟩ := ih hassign (fun p hp => hk p (List.mem_cons_of_mem _ hp))
      (List.nodup_cons.mp hd).2
    have hstep : Layer.lay root (((x, e) :: es).map fun p => (p.1.path, Layer.ofEntry p.2)) =
        Layer.lay (Node.assign (Layer.ofEntry e) [.name x.sectionName, .name x.key] root)
          (es.map fun p => (p.1.path, Layer.ofEntry p.2)) := by
      rw [← x.ofKey_path]
      rfl
    rw [hstep]
    refine ⟨hlay, fun y => ?_⟩
    rw [hrest, hshown]
    by_cases hy : y = x
    · have hnone : es.lookup x = none := lookup_eq_none (List.nodup_cons.mp hd).1
      simp [hy, hnone]
    · simp [hy, List.lookup_cons, beq_false_of_ne hy]

end DrainGuard
