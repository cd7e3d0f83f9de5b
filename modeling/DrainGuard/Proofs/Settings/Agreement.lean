import Mathlib.Algebra.GroupWithZero.Nat
import DrainGuard.Proofs.Json.Nested
import DrainGuard.Proofs.Settings.Overrides
import DrainGuard.Settings.Strict

/-!
# Two readings of one object

Settings come from a JSON object in two ways: the object is read strictly, field by field, or it is
laid over the defaults and the tree of all layers is read. Both give the same settings.

- **Objects** (`MeansSettings`): sections of settings, each with a value that means something for it
  (`Setting.Means`). A value means one thing (`Setting.Means.unique`).
- **Values** (`Agree`): both ways read a value alike. Records are read alike if their fields are
  (`agree_record`), and so are sections and objects (`MeansSection.agree`, `MeansSettings.agree`).
- **Layers** (`lay_plain`): sections laid over a tree decide on what they name, and leave the rest
  of it as it is.
- **Settings** (`Follows`): each setting has what the object says, and its default otherwise. There
  is one such record of settings (`Follows.unique`), and both ways lead to it
  (`MeansSettings.ofJson_follows`, `MeansSettings.load_follows`, `load_ofJson`).
-/

namespace DrainGuard

open Toml (Entry)
open Json (Value)

/-! ## Objects -/

variable {x : Setting} {v : Value} {e : Option Entry} {name : String} {fs : List (String × Value)}

/-- What a JSON value means for a setting that it has the right type for. -/
inductive Setting.Means (x : Setting) : Value → Option Entry → Prop where
  /-- A text. -/
  | text (h : x.kind = .text) (s : String) : Means x (.str s) (some (.text s))
  /-- No text, for a setting without a default. -/
  | null (h : x.kind = .text) (hnone : Settings.get {} x = none) : Means x .null none
  /-- A number of 63 bits. -/
  | number (h : x.kind = .number) {n : Nat} (hn : n < 2 ^ 63) :
    Means x (.nat n) (some (.number n))
  /-- A list of texts. -/
  | texts (h : x.kind = .texts) (ss : List String) :
    Means x (.arr (ss.map .str)) (some (.texts ss))

/-- Settings of a section, as an object has them. -/
structure MeansSection (name : String) (fs : List (String × Value)) : Prop where
  /-- No key comes twice. -/
  distinct : (fs.map Prod.fst).Nodup
  /-- Each value has the type of the setting under its key. -/
  each : ∀ f ∈ fs, ∃ x : Setting, x.sectionName = name ∧ x.key = f.1 ∧ ∃ e, x.Means f.2 e

/-- An object that has the required sections, and nothing but sections. -/
structure MeansSettings (fields : List (String × Value)) : Prop where
  /-- No section comes twice. -/
  distinct : (fields.map Prod.fst).Nodup
  /-- Only the logs may be left out. -/
  required : ∀ name ∈ ["metadata", "shutdown", "control", "backup"], fields.lookup name ≠ none
  /-- The sections. -/
  each : ∀ f ∈ fields, (∃ x : Setting, x.sectionName = f.1) ∧
    ∃ fs, f.2 = .obj fs ∧ MeansSection f.1 fs

/-- What an object has in it. -/
def Json.Value.fields : Value → List (String × Value)
  | .obj fs => fs
  | _ => []

/-- What an object has under the section and the key of a setting. -/
def Setting.inObject (fields : List (String × Value)) (x : Setting) : Option Value :=
  (fields.lookup x.sectionName).bind fun v => v.fields.lookup x.key

/-- A single value or a list under a key as it is looked up. -/
def Plain (key : String) (v : Node) : Prop :=
  foldKey key = key ∧ ∀ source fs, v ≠ .table source fs

/-! ## Values -/

/-- Both read the same. -/
def Agree {ε ε' α : Type} (r : Except ε α) (r' : Except ε' α) : Prop := ∃ a, r = .ok a ∧ r' = .ok a

theorem Agree.map {ε ε' α β : Type} {r : Except ε α} {r' : Except ε' α} (h : Agree r r')
    (f : α → β) : Agree (do return f (← r)) (do return f (← r')) := by
  obtain ⟨a, rfl, rfl⟩ := h
  exact ⟨f a, rfl, rfl⟩

variable {source : Option String}

theorem ofJson_nat (source : Option String) {n : Nat} (hn : n < 2 ^ 63) :
    Node.ofJson source (.nat n) = .scalar source (.integer n) := by
  show Node.scalar source (Node.ofJsonNumber (.int n)) = _
  rw [Node.ofJsonNumber, if_pos (by omega)]

theorem held?_integer (source : Option String) (n : Nat) :
    (Node.scalar source (.integer n)).held? = some (.number n) := by
  simp [Node.held?]

theorem ofJsonItems_eq (source : Option String) (vs : List Value) :
    Node.ofJsonItems source vs = vs.map (Node.ofJson source) := by
  induction vs with
  | nil => rfl
  | cons v vs ih => rw [Node.ofJsonItems, ih, List.map_cons]

theorem ofJsonFields_eq (source : Option String) (fs : List (String × Value)) :
    Node.ofJsonFields source fs = fs.map fun f => (f.1, Node.ofJson source f.2) := by
  induction fs with
  | nil => rfl
  | cons f fs ih => rw [Node.ofJsonFields, ih, List.map_cons]

theorem strict_texts (ss : List String) : strictFormat.texts (.arr (ss.map .str)) = .ok ss :=
  Format.texts_eq rfl (List.forall₂_map_left_iff.mpr (List.forall₂_same.mpr fun _ _ => rfl))

theorem layered_texts (source : Option String) (ss : List String) :
    layeredFormat.texts (Node.ofJson source (.arr (ss.map .str))) = .ok ss := by
  have hitems : layeredFormat.items (Node.ofJson source (.arr (ss.map .str))) =
      .ok (Node.ofJsonItems source (ss.map .str)) := rfl
  refine Format.texts_eq hitems ?_
  rw [ofJsonItems_eq, List.map_map]
  exact List.forall₂_map_left_iff.mpr (List.forall₂_same.mpr fun _ _ => rfl)

namespace Setting.Means

/-! The reader of a setting's kind reads both alike. -/

theorem agree_natural (h : x.Means v e) (hx : x.kind = .number) :
    Agree (strictFormat.natural v) (layeredFormat.natural (Node.ofJson source v)) := by
  cases h with
  | @number _ n hn =>
    rw [ofJson_nat source hn]
    exact ⟨n, by simp [strictFormat, strictNatural, Value.nat],
      Node.reads_natural (held?_integer source n)⟩
  | text hk | null hk | texts hk => cases hx.symm.trans hk

theorem agree_text (h : x.Means v e) (hx : x.kind = .text)
    (hd : Settings.get {} x ≠ none) :
    Agree (strictFormat.text v) (layeredFormat.text (Node.ofJson source v)) := by
  cases h with
  | text _ s => exact ⟨s, rfl, rfl⟩
  | null _ hnone => exact absurd hnone hd
  | number hk | texts hk => cases hx.symm.trans hk

theorem agree_optionalText (h : x.Means v e) (hx : x.kind = .text) :
    Agree (strictFormat.optionalText v) (layeredFormat.optionalText (Node.ofJson source v)) := by
  cases h with
  | text _ s => exact ⟨some s, rfl, rfl⟩
  | null => exact ⟨none, rfl, rfl⟩
  | number hk | texts hk => cases hx.symm.trans hk

theorem agree_texts (h : x.Means v e) (hx : x.kind = .texts) :
    Agree (strictFormat.texts v) (layeredFormat.texts (Node.ofJson source v)) := by
  cases h with
  | texts _ ss => exact ⟨ss, strict_texts ss, layered_texts source ss⟩
  | text hk | null hk | number hk => cases hx.symm.trans hk

/-- A setting takes a value for what it means. -/
theorem reading (h : x.Means v e) : x.reading (Node.ofJson source v) = .ok e := by
  cases h with
  | text hk s => exact reading_text hk rfl
  | null hk hnone =>
    simp only [Setting.reading, hk, hnone, Option.isNone_none, if_true]
    rfl
  | @number hk n hn =>
    have htakes : x.Takes (.scalar source (.integer n)) := ⟨_, held?_integer source n, hk.symm⟩
    rw [ofJson_nat source hn, htakes.reading, held?_integer]
  | texts hk ss => simp only [Setting.reading, hk, layered_texts source ss, Except.map]

/-- A value means one thing. -/
theorem unique {e' : Option Entry} (h : x.Means v e) (h' : x.Means v e') : e = e' := by
  have hread : x.reading (Node.ofJson none v) = .ok e := h.reading
  exact Except.ok.inj (hread.symm.trans h'.reading)

theorem nested (h : x.Means v e) (depth : Nat) : v.Nested (depth + 1) := by
  cases h with
  | text _ s => exact .plain (.str s)
  | null => exact .plain .null
  | number _ hn => exact .nat (Nat.le_trans hn.le (by decide))
  | texts _ ss =>
    refine .arr fun v hv => ?_
    obtain ⟨s, -, rfl⟩ := List.mem_map.mp hv
    exact .plain (.str s)

theorem plain (h : x.Means v e) : Plain x.key (Node.ofJson source v) := by
  refine ⟨x.foldKey_key, fun source' fs => ?_⟩
  cases h <;> exact Node.noConfusion

end Setting.Means

/-! ## Records -/

/-- Fields set one after the other. -/
inductive Runs {ν ε α : Type} (set : String → ν → α → Except ε α) :
    List (String × ν) → α → α → Prop where
  /-- Nothing is left. -/
  | nil (a : α) : Runs set [] a a
  /-- A field is set, and then the others. -/
  | cons {k : String} {v : ν} {fs : List (String × ν)} {a b c : α} (h : set k v a = .ok b)
    (hfs : Runs set fs b c) : Runs set ((k, v) :: fs) a c

section Record

variable {α : Type} {shape : Shape} {set : String → Value → α → Except String α}
  {set' : String → Node → α → Except ConfigFault α} {a b : α}

/-- What the fields of an object come to, unless a required one is missing. -/
theorem Runs.strict (h : Runs set fs a b) (hc : strictComplete shape (.obj fs) = .ok ()) :
    strictFormat.record shape a set (.obj fs) = .ok b := by
  have hfold : (fs.map fun f => (⟨f.1, f.1, f.2⟩ : Found Value)).foldlM
      (fun a x => strictFormat.readAt x.place (set x.field · a) x.value) a = .ok b := by
    clear hc
    induction h with
    | nil a => rfl
    | cons h _ ih =>
      rw [List.map_cons, List.foldlM_cons, Format.readAt, h]
      exact ih
  show (List.foldlM _ a _ >>= fun b => strictComplete shape (.obj fs) >>= fun _ => pure b) = _
  rw [hfold, hc]
  rfl

theorem Runs.layered {fs : List (String × Node)} (h : Runs set' fs a b) :
    layeredFormat.record shape a set' (.table source fs) = .ok b := by
  induction h with
  | nil a => rfl
  | cons h _ ih => exact record_cons_iff.mpr ⟨_, h, ih⟩

/-- Both ways, the fields come to the same. -/
theorem exists_runs (h : ∀ f ∈ fs, ∀ a,
      Agree (set f.1 f.2 a) (set' f.1 (Node.ofJson source f.2) a)) (a : α) :
    ∃ b, Runs set fs a b ∧ Runs set' (Node.ofJsonFields source fs) a b := by
  induction fs generalizing a with
  | nil => exact ⟨a, .nil a, .nil a⟩
  | cons f fs ih =>
    obtain ⟨hf, hfs⟩ := List.forall_mem_cons.mp h
    obtain ⟨b, hb, hb'⟩ := hf a
    obtain ⟨c, hc, hc'⟩ := ih hfs b
    exact ⟨c, .cons hb hc, .cons hb' hc'⟩

/-- An object is read like the table that it becomes, if its fields are. -/
theorem agree_record (h : ∀ f ∈ fs, ∀ a,
      Agree (set f.1 f.2 a) (set' f.1 (Node.ofJson source f.2) a))
    (hc : strictComplete shape (.obj fs) = .ok ()) (a : α) :
    Agree (strictFormat.record shape a set (.obj fs))
      (layeredFormat.record shape a set' (Node.ofJson source (.obj fs))) := by
  obtain ⟨b, hb, hb'⟩ := exists_runs h a
  exact ⟨b, hb.strict hc, hb'.layered⟩

end Record

/-! ## Sections -/

theorem agree_metadata (hx : x.sectionName = "metadata") (h : x.Means v e) (s : MetadataSettings) :
    Agree (MetadataSettings.set strictFormat x.key v s)
      (MetadataSettings.set layeredFormat x.key (Node.ofJson source v) s) := by
  cases x <;> first
    | exact absurd hx (by decide)
    | exact (h.agree_natural rfl).map _
    | exact (h.agree_text rfl (by decide)).map _
    | exact (h.agree_optionalText rfl).map _

theorem agree_shutdown (hx : x.sectionName = "shutdown") (h : x.Means v e) (s : ShutdownSettings) :
    Agree (ShutdownSettings.set strictFormat x.key v s)
      (ShutdownSettings.set layeredFormat x.key (Node.ofJson source v) s) := by
  cases x <;> first
    | exact absurd hx (by decide)
    | exact (h.agree_natural rfl).map _

theorem agree_control (hx : x.sectionName = "control") (h : x.Means v e) (s : ControlSettings) :
    Agree (ControlSettings.set strictFormat x.key v s)
      (ControlSettings.set layeredFormat x.key (Node.ofJson source v) s) := by
  cases x <;> first
    | exact absurd hx (by decide)
    | exact (h.agree_text rfl (by decide)).map _
    | exact (h.agree_optionalText rfl).map _

theorem agree_backup (hx : x.sectionName = "backup") (h : x.Means v e) (s : BackupSettings) :
    Agree (BackupSettings.set strictFormat x.key v s)
      (BackupSettings.set layeredFormat x.key (Node.ofJson source v) s) := by
  cases x <;> first
    | exact absurd hx (by decide)
    | exact (h.agree_text rfl (by decide)).map _
    | exact (h.agree_texts rfl).map _

theorem agree_logging (hx : x.sectionName = "logging") (h : x.Means v e) (s : LoggingSettings) :
    Agree (LoggingSettings.set strictFormat x.key v s)
      (LoggingSettings.set layeredFormat x.key (Node.ofJson source v) s) := by
  cases x <;> first
    | exact absurd hx (by decide)
    | exact (h.agree_optionalText rfl).map _

/-- A section of right values is read alike. -/
theorem MeansSection.agree (h : MeansSection name fs) {x : Setting} (hx : x.sectionName = name)
    (s : Settings) : Agree (Settings.set strictFormat name (.obj fs) s)
      (Settings.set layeredFormat name (Node.ofJson source (.obj fs)) s) := by
  have hrecord {α : Type} {shape : Shape} {set : String → Value → α → Except String α}
      {set' : String → Node → α → Except ConfigFault α} (hr : shape.required = 0)
      (hset : ∀ {x : Setting} {v e}, x.sectionName = name → x.Means v e → ∀ a,
        Agree (set x.key v a) (set' x.key (Node.ofJson source v) a)) (a : α) :
      Agree (strictFormat.record shape a set (.obj fs))
        (layeredFormat.record shape a set' (Node.ofJson source (.obj fs))) := by
    refine agree_record (fun f hf a => ?_) ?_ a
    · obtain ⟨y, hy, hk, e, hv⟩ := h.each f hf
      exact hk ▸ hset hy hv a
    · simp [strictComplete, hr]
  subst hx
  cases x <;> first
    | exact (hrecord rfl agree_metadata _).map _
    | exact (hrecord rfl agree_shutdown _).map _
    | exact (hrecord rfl agree_control _).map _
    | exact (hrecord rfl agree_backup _).map _
    | exact (hrecord rfl agree_logging _).map _

/-- Settings of right values are read alike. -/
theorem MeansSettings.agree {fields : List (String × Value)} (h : MeansSettings fields)
    (source : Option String) : Agree (Settings.ofJson (.obj fields))
      (Settings.decode layeredFormat (Node.ofJson source (.obj fields))) := by
  refine agree_record (fun f hf s => ?_) ?_ ({} : Settings)
  · obtain ⟨⟨x, hx⟩, fs, hv, hfs⟩ := h.each f hf
    rw [hv]
    exact hfs.agree hx s
  -- no required section is missing
  · have hfind : ["metadata", "shutdown", "control", "backup"].find?
        (fun k => (fields.lookup k).isNone) = none :=
      List.find?_eq_none.mpr fun k hk => by simpa using h.required k hk
    show strictComplete Settings.shape (.obj fields) = _
    unfold strictComplete
    dsimp only [Settings.shape, List.take]
    rw [hfind]

/-! ## Layers -/

/-- A table of plain values under the name of a section. -/
def PlainSection (name : String) (v : Node) : Prop :=
  (∃ x : Setting, x.sectionName = name) ∧ ∃ source fs, v = .table source fs ∧ Fields Plain fs

section Layers

variable {root value : Node} {es : List (String × Node)} {layer : Layer}

/-- What stands under the names of sections are tables. -/
def Node.Sectioned (root : Node) : Prop :=
  ∀ (x : Setting) {v}, root.fields.lookup x.sectionName = some v →
    ∃ source, v = .table source v.fields

/-- A plain value is laid where it belongs as it is. -/
theorem laid_plain {key : String} (h : Plain key value) (old : Option Node) :
    Node.laid value [] old = value := by
  cases value with
  | table source fs => exact absurd rfl (h.2 source fs)
  | scalar | list => rfl

/-- Plain values replace what was under their keys. -/
theorem lookup_putAll (h : Fields Plain es) (root : Node) (key : String) :
    (Node.putAll es root).fields.lookup key = (es.lookup key).or (root.fields.lookup key) := by
  induction es generalizing root with
  | nil => rw [Node.putAll]; rfl
  | cons f es ih =>
    obtain ⟨k, v⟩ := f
    have hv : Plain k v := h.each _ List.mem_cons_self
    have hput : (Node.put k v root).fields = setEntry k v root.fields := by
      have hassign := Node.fields_assign_name v k [] root
      rw [laid_plain hv, hv.1] at hassign
      exact hassign
    rw [Node.putAll, ih h.tail, hput, lookup_setEntry]
    by_cases hk : key = k
    · have hnone : es.lookup k = none := lookup_eq_none (List.nodup_cons.mp h.distinct).1
      simp [hk, hnone]
    · simp [List.lookup_cons, beq_false_of_ne hk, hk]

theorem putAll_table (source : Option String) (fs es : List (String × Node)) :
    ∃ fs', Node.putAll es (.table source fs) = .table source fs' := by
  induction es generalizing fs with
  | nil => exact ⟨fs, by rw [Node.putAll]⟩
  | cons f es ih =>
    obtain ⟨fs', hput⟩ : ∃ fs', Node.put f.1 f.2 (.table source fs) = .table source fs' :=
      ⟨_, Node.assign_name f.2 f.1 [] (.table source fs)⟩
    obtain ⟨fs'', hfs''⟩ := ih fs'
    exact ⟨fs'', by rw [Node.putAll, hput, hfs'']⟩

/-- A section laid over a table decides on what it names, and leaves the rest as it is. -/
theorem lay_section (h : root.Sectioned) {name : String} {value : Node}
    (hv : PlainSection name value) :
    (Node.assign value (PathStep.ofKey name) root).Sectioned ∧
      ∀ y, (Node.assign value (PathStep.ofKey name) root).setting y =
        if y.sectionName = name then (value.fields.lookup y.key).or (root.setting y)
        else root.setting y := by
  obtain ⟨⟨x, rfl⟩, source, es, rfl, hes⟩ := hv
  have htarget : ∃ source' fs, (root.fields.lookup x.sectionName).getD .emptyTable =
      .table source' fs := by
    cases hold : root.fields.lookup x.sectionName with
    | none => exact ⟨_, _, rfl⟩
    | some old =>
      obtain ⟨source', hold'⟩ := h x hold
      exact ⟨source', _, hold'⟩
  rw [x.ofKey_sectionName]
  constructor
  · intro y v hy
    rw [Node.fields_assign_name, x.foldKey_sectionName, lookup_setEntry] at hy
    split at hy
    · cases hy
      obtain ⟨source', fs, htable⟩ := htarget
      obtain ⟨fs', hall⟩ := putAll_table source' fs es
      refine ⟨source', ?_⟩
      show Node.putAll es _ = .table source' (Node.putAll es _).fields
      rw [htable, hall]
      rfl
    · exact h y hy
  · intro y
    rw [Node.setting, Node.fields_assign_name, x.foldKey_sectionName, lookup_setEntry]
    split
    · next hy =>
      rw [Option.bind_some]
      show (Node.putAll es _).fields.lookup y.key = _
      rw [lookup_putAll hes, Node.setting, hy]
      cases root.fields.lookup x.sectionName <;> rfl
    · rfl

/-- Sections laid over a table decide on what they name, and leave the rest as it is. -/
theorem lay_plain (h : root.Sectioned) (hl : Fields PlainSection layer) :
    (Layer.lay root layer).Sectioned ∧ ∀ y, (Layer.lay root layer).setting y =
      ((Node.table none layer).setting y).or (root.setting y) := by
  induction layer generalizing root with
  | nil => exact ⟨h, fun _ => rfl⟩
  | cons f layer ih =>
    obtain ⟨name, value⟩ := f
    obtain ⟨hroot, hsetting⟩ := lay_section h (hl.each _ List.mem_cons_self)
    obtain ⟨hlay, hrest⟩ := ih hroot hl.tail
    refine ⟨hlay, fun y => (hrest y).trans ?_⟩
    rw [hsetting]
    show (((layer.lookup y.sectionName).bind _)).or _ = ((((name, value) :: layer).lookup
      y.sectionName).bind fun v => v.fields.lookup y.key).or _
    by_cases hy : y.sectionName = name
    · have hnone : layer.lookup name = none := lookup_eq_none (List.nodup_cons.mp hl.distinct).1
      simp [hy, hnone]
    · simp [List.lookup_cons, beq_false_of_ne hy, hy]

/-- Sections are a table of tables where no name comes twice. -/
theorem Fields.tidy (hl : Fields PlainSection layer) :
    Tidy (.table none layer) ∧ (Node.table none layer).Sectioned := by
  refine ⟨⟨⟨none, rfl⟩, hl.distinct, fun f hf => ?_⟩, fun x v hv => ?_⟩
  · obtain ⟨-, source, fs, hv, hfs⟩ := hl.each f hf
    rw [hv]
    exact hfs.distinct
  · obtain ⟨-, source, fs, hv, -⟩ := hl.each _ (mem_of_lookup hv)
    obtain rfl : v = .table source fs := hv
    exact ⟨source, rfl⟩

end Layers

/-! ## Settings -/

theorem MeansSection.plain (h : MeansSection name fs) (source : Option String) :
    Fields Plain (Node.ofJsonFields source fs) where
  distinct := by
    rw [ofJsonFields_eq, keys_map]
    exact h.distinct
  each f hf := by
    rw [ofJsonFields_eq] at hf
    obtain ⟨g, hg, rfl⟩ := List.mem_map.mp hf
    obtain ⟨x, -, hk, e, hv⟩ := h.each g hg
    exact hk ▸ hv.plain

section Object

variable {fields : List (String × Value)}

theorem MeansSettings.plain (h : MeansSettings fields) (source : Option String) :
    Fields PlainSection (Node.ofJsonFields source fields) where
  distinct := by
    rw [ofJsonFields_eq, keys_map]
    exact h.distinct
  each f hf := by
    rw [ofJsonFields_eq] at hf
    obtain ⟨g, hg, rfl⟩ := List.mem_map.mp hf
    obtain ⟨hx, fs, hv, hfs⟩ := h.each g hg
    refine ⟨hx, source, Node.ofJsonFields source fs, ?_, hfs.plain source⟩
    show Node.ofJson source g.2 = _
    rw [hv, Node.ofJson]

theorem MeansSettings.setting (h : MeansSettings fields) (source source' : Option String)
    (x : Setting) : (Node.table source' (Node.ofJsonFields source fields)).setting x =
      (x.inObject fields).map (Node.ofJson source) := by
  show ((Node.ofJsonFields source fields).lookup x.sectionName).bind _ = _
  rw [ofJsonFields_eq, lookup_map, Setting.inObject]
  cases hv : fields.lookup x.sectionName with
  | none => rfl
  | some v =>
    obtain ⟨-, fs, hobj, -⟩ := h.each _ (mem_of_lookup hv)
    obtain rfl : v = .obj fs := hobj
    show (Node.ofJsonFields source fs).lookup x.key = _
    rw [ofJsonFields_eq, lookup_map]
    rfl

theorem MeansSettings.means (h : MeansSettings fields) (hv : x.inObject fields = some v) :
    ∃ e, x.Means v e := by
  obtain ⟨w, hw, hv⟩ := Option.bind_eq_some_iff.mp hv
  obtain ⟨-, fs, hobj, hfs⟩ := h.each _ (mem_of_lookup hw)
  obtain rfl : w = .obj fs := hobj
  obtain ⟨y, -, hk, e, hmeans⟩ := hfs.each _ (mem_of_lookup hv)
  obtain rfl := Setting.key_injective hk
  exact ⟨e, hmeans⟩

/-- The keys come in order, as they do in every object that was parsed. -/
structure InOrder (fields : List (String × Value)) : Prop where
  sections : fields.Pairwise fun f f' => f.1 < f'.1
  keys : ∀ f ∈ fields, f.2.fields.Pairwise fun g g' => g.1 < g'.1

/-- A file can hold the object. -/
theorem MeansSettings.parse_bytes (h : MeansSettings fields) (hord : InOrder fields) :
    Json.parse (String.ofList (Text.decode (Layer.withoutMark
      (Text.encode (Value.obj fields).compact.toList)))) = .ok (.obj fields) := by
  have hnested : (Value.obj fields).Nested (124 + 3) := by
    refine .obj (fun f hf => ?_) hord.sections
    obtain ⟨-, fs, hv, hfs⟩ := h.each f hf
    have hkeys := hord.keys f hf
    rw [hv] at hkeys ⊢
    refine .obj (fun g hg => ?_) hkeys
    obtain ⟨x, -, -, e, hmeans⟩ := hfs.each g hg
    exact hmeans.nested 124
  have hhead : ∀ c ∈ (Value.obj fields).compact.toList.head?, c = '[' ∨ c = '{' := by
    rw [Value.compact, String.toList_append, String.toList_append]
    rintro _ ⟨⟩
    exact .inr rfl
  rw [withoutMark_encode hhead, Text.decode_encode, String.ofList_toList]
  exact Json.parse_nested hnested

/-- Settings as an object says, and the defaults where it says nothing. -/
def Follows (fields : List (String × Value)) (c : Settings) : Prop :=
  ∀ x : Setting, (∀ v, x.inObject fields = some v → x.Means v (c.get x)) ∧
    (x.inObject fields = none → c.get x = Settings.default.get x)

theorem Follows.unique {c c' : Settings} (h : Follows fields c) (h' : Follows fields c') :
    c = c' := by
  refine Settings.ext_get fun x => ?_
  obtain ⟨hsome, hnone⟩ := h x
  obtain ⟨hsome', hnone'⟩ := h' x
  cases hv : x.inObject fields with
  | none => rw [hnone hv, hnone' hv]
  | some v => exact (hsome v hv).unique (hsome' v hv)

/-- A tree in which the object lies over a tree that is read as the defaults. -/
theorem MeansSettings.follows (h : MeansSettings fields) {root old : Node} {source : Option String}
    (ht : Tidy root) (hs : root.Sectioned)
    (hold : ∀ x w, old.setting x = some w → x.reading w = .ok (Settings.get {} x))
    (hsetting : ∀ x, root.setting x =
      ((x.inObject fields).map (Node.ofJson source)).or (old.setting x)) :
    ∃ c, Settings.decode layeredFormat root = .ok c ∧ Follows fields c := by
  have hlegible : Legible root := by
    refine ⟨ht.table, ht.distinct, fun x v hv => ⟨hs x hv, ht.sections _ (mem_of_lookup hv)⟩,
      fun x w hw => ?_⟩
    rw [hsetting] at hw
    cases hv : x.inObject fields with
    | none =>
      rw [hv] at hw
      exact ⟨_, hold x w hw⟩
    | some v =>
      rw [hv] at hw
      cases hw
      obtain ⟨e, hmeans⟩ := h.means hv
      exact ⟨e, hmeans.reading⟩
  obtain ⟨c, hc, hget⟩ := hlegible.decode
  refine ⟨c, hc, fun x => ?_⟩
  obtain ⟨htaken, hdefault⟩ := hget x
  rw [hsetting] at htaken hdefault
  constructor
  · intro v hv
    rw [hv] at htaken
    obtain ⟨e, hmeans⟩ := h.means hv
    have hread := htaken _ rfl
    obtain rfl : e = c.get x := Except.ok.inj (hmeans.reading.symm.trans hread)
    exact hmeans
  · intro hv
    rw [hv] at htaken hdefault
    cases hw : old.setting x with
    | none => exact hdefault hw
    | some w => exact Except.ok.inj ((htaken w hw).symm.trans (hold x w hw))

/-- The object alone is read as it says. -/
theorem MeansSettings.ofJson_follows (h : MeansSettings fields) :
    ∃ c, Settings.ofJson (.obj fields) = .ok c ∧ Follows fields c := by
  obtain ⟨c, hc, hlayered⟩ := h.agree none
  obtain ⟨htidy, hsectioned⟩ := (h.plain none).tidy
  -- nothing lies under the object
  have hnothing (x : Setting) : (Node.table none (Node.ofJsonFields none fields)).setting x =
      ((x.inObject fields).map (Node.ofJson none)).or (Node.emptyTable.setting x) :=
    (h.setting none none x).trans Option.or_none.symm
  obtain ⟨c', hc', hfollows⟩ := h.follows htidy hsectioned (fun x w hw => by cases hw) hnothing
  obtain rfl : c = c' := Except.ok.inj (hlayered.symm.trans hc')
  exact ⟨c, hc, hfollows⟩

/-- And so is the object laid over the defaults. -/
theorem MeansSettings.lay_follows (h : MeansSettings fields) (source : Option String) :
    ∃ c, Settings.decode layeredFormat (Layer.lay (Layer.lay .emptyTable Layer.ofDefaults)
      (Node.ofJsonFields source fields)) = .ok c ∧ Follows fields c := by
  obtain ⟨hdocument, hshown⟩ := lay_defaults
  have htidy := tidy_emptyTable.lay Layer.ofDefaults
  generalize Layer.lay .emptyTable Layer.ofDefaults = old at hdocument hshown htidy ⊢
  obtain ⟨hsectioned, hsetting⟩ := lay_plain
    (fun x v hv => (hdocument.legible.sections x hv).1) (h.plain source)
  have hold (x : Setting) (w : Node) (hw : old.setting x = some w) :
      x.reading w = .ok (Settings.get {} x) := by
    have hheld := hshown x
    rw [Node.shown, hw, Option.bind_some] at hheld
    rw [(hdocument.takes hw).reading, hheld]
  exact h.follows (htidy.lay _) hsectioned hold fun x => by rw [hsetting, h.setting]

/-- And so is a file that holds the object. -/
theorem MeansSettings.load_follows (h : MeansSettings fields)
    {read : String → Option (List UInt8)} {path name : String} {bytes : List UInt8}
    {environment : List (String × String)}
    (hfind : ConfigFile.find read path = some (.json, name, bytes))
    (hparse : Json.parse (String.ofList (Text.decode (Layer.withoutMark bytes))) =
      .ok (.obj fields))
    (henv : ∀ v ∈ environment, Layer.variablePath? v.1 = none) :
    ∃ c, Settings.load read path environment = .ok c ∧ Follows fields c := by
  obtain ⟨c, hc, hfollows⟩ := h.lay_follows (some name)
  refine ⟨c, Settings.load_eq_ok_iff.mpr ⟨Node.ofJsonFields (some name) fields, ?_, ?_⟩, hfollows⟩
  · simp [Settings.fileLayer, hfind, Layer.ofFile, hparse]
  · have hempty (root : Node) : Layer.lay root [] = root := rfl
    rw [Settings.tree, ofEnvironment_eq_nil henv, hempty, hc]

end Object

namespace Settings

/-- An object of settings is read alike on its own and from a file that holds it, if there are no
variables for settings. Either way each setting has what the object says, and where it says nothing,
its default. A record without fields and the layer under all files have the same defaults. -/
theorem load_ofJson {fields : List (String × Value)} (h : MeansSettings fields) :
    (∃ c, ofJson (.obj fields) = .ok c ∧ Follows fields c ∧
      ∀ {path : String} {environment : List (String × String)},
        (∀ v ∈ environment, Layer.variablePath? v.1 = none) →
        (∀ {read name bytes}, ConfigFile.find read path = some (.json, name, bytes) →
          Json.parse (String.ofList (Text.decode (Layer.withoutMark bytes))) = .ok (.obj fields) →
          load read path environment = .ok c) ∧
        (InOrder fields → ConfigFile.extension? path = some "json" →
          load (fun _ => some (Text.encode (Value.obj fields).compact.toList)) path environment =
            .ok c)) ∧
    ∀ x : Setting, get {} x = default.get x ∧
      Layer.ofDefaults.lookup x.path = (default.get x).map Layer.ofEntry := by
  refine ⟨?_, fun x => by cases x <;> exact ⟨rfl, rfl⟩⟩
  obtain ⟨c, hc, hfollows⟩ := h.ofJson_follows
  refine ⟨c, hc, hfollows, fun {path environment} henv => ?_⟩
  have hload {read name bytes} (hfind : ConfigFile.find read path = some (.json, name, bytes))
      (hparse : Json.parse (String.ofList (Text.decode (Layer.withoutMark bytes))) =
        .ok (.obj fields)) : load read path environment = .ok c := by
    obtain ⟨c', hc', hfollows'⟩ := h.load_follows hfind hparse henv
    rw [hc', hfollows.unique hfollows']
  refine ⟨hload, fun hord hjson => ?_⟩
  have hfind (bytes : List UInt8) : ConfigFile.find (fun _ => some bytes) path =
      some (.json, ConfigFile.displayName path, bytes) := by
    simp [ConfigFile.find, hjson, FileFormat.ofExtension?]
  exact hload (hfind _) (h.parse_bytes hord)

/-- A number, a list and a null are given; a section is empty, and the logs are left out. -/
theorem load_ofJson_partial :
    let fields : List (String × Value) := [("backup", .obj [("args", .arr [.str "-v"])]),
      ("control", .obj [("pid_file", .null)]), ("metadata", .obj [("poll_interval_secs", .nat 7)]),
      ("shutdown", .obj [])]
    MeansSettings fields ∧ InOrder fields ∧ ∃ c, ofJson (.obj fields) = .ok c ∧
      load (fun _ => some (Text.encode (Value.obj fields).compact.toList)) "/srv/spotguard.json"
        [("PATH", "/bin")] = .ok c ∧
      c.get .pollInterval = some (.number 7) ∧ c.get .args = some (.texts ["-v"]) ∧
      c.get .pidFile = none ∧ c.get .graceDelay = some (.number 15) := by
  intro fields
  have hmeans : MeansSettings fields := by
    refine ⟨by decide, by decide, ?_⟩
    have hbackup : MeansSection "backup" [("args", .arr [.str "-v"])] :=
      ⟨by decide, List.forall_mem_singleton.mpr ⟨.args, rfl, rfl, _, .texts rfl ["-v"]⟩⟩
    have hcontrol : MeansSection "control" [("pid_file", .null)] :=
      ⟨by decide, List.forall_mem_singleton.mpr ⟨.pidFile, rfl, rfl, _, .null rfl rfl⟩⟩
    have hmetadata : MeansSection "metadata" [("poll_interval_secs", .nat 7)] :=
      ⟨by decide, List.forall_mem_singleton.mpr
        ⟨.pollInterval, rfl, rfl, _, .number rfl (by decide)⟩⟩
    have hshutdown : MeansSection "shutdown" [] := ⟨by decide, nofun⟩
    simp only [fields, List.forall_mem_cons]
    exact ⟨⟨⟨.args, rfl⟩, _, rfl, hbackup⟩, ⟨⟨.pidFile, rfl⟩, _, rfl, hcontrol⟩,
      ⟨⟨.pollInterval, rfl⟩, _, rfl, hmetadata⟩, ⟨⟨.graceDelay, rfl⟩, _, rfl, hshutdown⟩, nofun⟩
  have hord : InOrder fields := ⟨by decide, by decide⟩
  obtain ⟨⟨c, hc, hfollows, hload⟩, -⟩ := load_ofJson hmeans
  have henv : ∀ v ∈ [("PATH", "/bin")], Layer.variablePath? v.1 = none :=
    List.forall_mem_singleton.mpr (by decide +kernel)
  have hjson : ConfigFile.extension? "/srv/spotguard.json" = some "json" := by decide +kernel
  refine ⟨hmeans, hord, c, hc, (hload henv).2 hord hjson, ?_, ?_, ?_, ?_⟩
  · exact ((hfollows .pollInterval).1 _ rfl).unique (.number rfl (by decide))
  · exact ((hfollows .args).1 _ rfl).unique (.texts rfl ["-v"])
  · exact ((hfollows .pidFile).1 _ rfl).unique (.null rfl rfl)
  · exact (hfollows .graceDelay).2 rfl

end Settings

end DrainGuard
