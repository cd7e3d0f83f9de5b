import DrainGuard.Proofs.Decimal.Numerals
import DrainGuard.Proofs.Settings.Sources

/-!
# Text settings from the environment

A variable can give a text setting any text, over any file and any other variables.

- **Assignments** (`assign_name`): a value laid at the end of a path changes what is under the first
  name and nothing beside it.
- **Tidiness** (`Tidy`): whatever is laid over a table, no table in it gets a name twice.
- **Overlays** (`Overlaid`): two tables that only differ in the value of one setting still do after
  more was laid over both, if it leads elsewhere.
- **Rereading** (`reread`): a text that looks like a truth value or like a number is taken for it
  and written again. Often, but not always, this is the text itself (`reread_eq_self_iff`).
- **Overrides** (`load_override`): the setting gets the text as it is reread.
-/

namespace DrainGuard

open Toml (Entry)

variable {root root' value : Node} {x : Setting}

/-! ## Assignments -/

namespace Node

/-- What is under a name after a value was laid at the end of the steps behind it. -/
def laid (value : Node) : List PathStep → Option Node → Node
  | [], old => match value with
    | .table _ incoming => putAll incoming (old.getD emptyTable)
    | value => value
  | step :: steps, old => assign value (step :: steps) (old.getD absent)

theorem assign_name (value : Node) (name : String) (steps : List PathStep) (root : Node) :
    assign value (.name name :: steps) root = .table root.asTable.1
      (setEntry (foldKey name) (laid value steps (root.fields.lookup (foldKey name)))
        root.fields) := by
  cases steps with
  | nil =>
    show put name value root = _
    unfold put
    cases value <;> rfl
  | cons step steps => rfl

theorem fields_assign_name (value : Node) (name : String) (steps : List PathStep) (root : Node) :
    (assign value (.name name :: steps) root).fields =
      setEntry (foldKey name) (laid value steps (root.fields.lookup (foldKey name)))
        root.fields := by
  rw [assign_name]
  rfl

end Node

/-- Every key is a path that begins with a name. -/
theorem PathStep.exists_ofKey (key : String) : ∃ name steps, ofKey key = .name name :: steps := by
  unfold ofKey
  cases h : parse? key.toList with
  | none => exact ⟨key, [], rfl⟩
  | some path =>
    obtain ⟨⟨step, rest⟩, hfirst, hrest⟩ := Option.bind_eq_some_iff.mp h
    obtain ⟨steps, -, hpath⟩ := Option.bind_eq_some_iff.mp hrest
    simp only [name?, Option.ite_none_left_eq_some, Option.some.injEq, Prod.mk.injEq] at hfirst
    obtain ⟨-, rfl, -⟩ := hfirst
    exact ⟨_, steps, (Option.some.inj hpath).symm⟩

/-! ## Tidiness -/

/-- No name comes twice in a table. -/
def Node.Distinct (v : Node) : Prop := (v.fields.map Prod.fst).Nodup

/-- A table where no name comes twice, and none in its sections. -/
structure Tidy (root : Node) : Prop where
  table : ∃ source, root = .table source root.fields
  distinct : root.Distinct
  sections : ∀ f ∈ root.fields, f.2.Distinct

theorem Node.Distinct.assign_name (h : root.Distinct) (value : Node) (name : String)
    (steps : List PathStep) : (Node.assign value (.name name :: steps) root).Distinct := by
  rw [Distinct, fields_assign_name]
  exact nodup_setEntry _ _ h

theorem Node.Distinct.putAll (h : root.Distinct) (values : List (String × Node)) :
    (Node.putAll values root).Distinct := by
  induction values generalizing root with
  | nil => rwa [Node.putAll]
  | cons f values ih =>
    rw [Node.putAll]
    exact ih (h.assign_name f.2 f.1 [])

theorem Node.distinct_absent : absent.Distinct := List.nodup_nil

theorem Node.distinct_emptyTable : emptyTable.Distinct := List.nodup_nil

theorem Node.distinct_laid {old : Option Node} (h : ∀ v, old = some v → v.Distinct)
    (steps : List PathStep) : (laid value steps old).Distinct := by
  have hold {other : Node} (ho : other.Distinct) : (old.getD other).Distinct := by
    cases old with
    | none => exact ho
    | some v => exact h v rfl
  rcases steps with _ | ⟨name | i, steps⟩
  · cases value with
    | scalar _ _ => exact List.nodup_nil
    | list _ _ => exact List.nodup_nil
    | table _ incoming => exact (hold distinct_emptyTable).putAll incoming
  · exact (hold distinct_absent).assign_name value name steps
  · rw [laid, assign]
    dsimp only
    split
    · exact hold distinct_absent
    · exact List.nodup_nil

theorem Tidy.assign (h : Tidy root) (value : Node) (key : String) :
    Tidy (Node.assign value (PathStep.ofKey key) root) := by
  obtain ⟨name, steps, hkey⟩ := PathStep.exists_ofKey key
  rw [hkey]
  refine ⟨⟨root.asTable.1, ?_⟩, h.distinct.assign_name value name steps, fun f hf => ?_⟩
  · rw [Node.fields_assign_name, Node.assign_name]
  rw [Node.fields_assign_name] at hf
  rcases mem_setEntry hf with rfl | hf
  · exact Node.distinct_laid (fun v hv => h.sections _ (mem_of_lookup hv)) steps
  · exact h.sections f hf

theorem Tidy.lay (h : Tidy root) (layer : Layer) : Tidy (Layer.lay root layer) := by
  induction layer generalizing root with
  | nil => exact h
  | cons f layer ih => exact ih (h.assign f.2 f.1)

theorem tidy_emptyTable : Tidy .emptyTable := ⟨⟨none, rfl⟩, Node.distinct_emptyTable, nofun⟩

/-! ## Overlays -/

/-- Steps that lead neither to a setting nor into it, and that leave its section a table. -/
def PathStep.Aside (x : Setting) (steps : List PathStep) : Prop :=
  ∃ name rest, steps = .name name :: rest ∧ (foldKey name = x.sectionName →
    ∃ key rest', rest = .name key :: rest' ∧ foldKey key ≠ x.key)

/-- A table that is like another, but has a value at the place of a setting. -/
structure Overlaid (x : Setting) (v : Node) (root root' : Node) : Prop where
  elsewhere : ∀ name, name ≠ x.sectionName → root'.fields.lookup name = root.fields.lookup name
  within : ∃ source fs, root'.fields.lookup x.sectionName = some (.table source fs) ∧
    ∀ key, fs.lookup key = if key = x.key then some v
      else ((root.fields.lookup x.sectionName).getD .absent).fields.lookup key

theorem overlaid_assign (source : Option String) (a : Scalar) (root : Node) :
    Overlaid x (.scalar source a) root
      (Node.assign (.scalar source a) [.name x.sectionName, .name x.key] root) where
  elsewhere name hne := by
    rw [Node.fields_assign_name, x.foldKey_sectionName, lookup_setEntry_of_ne hne]
  within := by
    rw [Node.fields_assign_name, x.foldKey_sectionName, lookup_setEntry_self, Node.laid,
      Node.assign_name, x.foldKey_key]
    exact ⟨_, _, rfl, fun key => lookup_setEntry _ _ _ _⟩

/-- Looking under a name gives the same in two tables after the same was laid over both, if it gave
the same before. -/
theorem lookup_assign_congr {name : String} {steps : List PathStep} {key : String}
    (h : root'.fields.lookup key = root.fields.lookup key) :
    (Node.assign value (.name name :: steps) root').fields.lookup key =
      (Node.assign value (.name name :: steps) root).fields.lookup key := by
  rw [Node.fields_assign_name, Node.fields_assign_name, lookup_setEntry, lookup_setEntry, h]
  split
  · next hk => rw [← hk, h]
  · rfl

theorem Overlaid.assign {v : Node} (h : Overlaid x v root root') (value : Node)
    {steps : List PathStep} (ha : PathStep.Aside x steps) :
    Overlaid x v (Node.assign value steps root) (Node.assign value steps root') := by
  obtain ⟨source, fs, hsection, hfs⟩ := h.within
  obtain ⟨name, rest, rfl, hrest⟩ := ha
  refine ⟨fun other hne => lookup_assign_congr (h.elsewhere other hne), ?_⟩
  rw [Node.fields_assign_name, Node.fields_assign_name]
  by_cases hname : foldKey name = x.sectionName
  · obtain ⟨key, rest, rfl, hkey⟩ := hrest hname
    rw [hname, lookup_setEntry_self, lookup_setEntry_self, hsection]
    refine ⟨source, (Node.assign value (.name key :: rest) (.table source fs)).fields, ?_,
      fun other => ?_⟩
    · rw [Node.fields_assign_name]
      exact congrArg some (Node.assign_name value key rest _)
    by_cases hother : other = x.key
    · rw [if_pos hother, Node.fields_assign_name, lookup_setEntry_of_ne (hother ▸ Ne.symm hkey)]
      exact (hfs other).trans (if_pos hother)
    · rw [if_neg hother]
      exact lookup_assign_congr ((hfs other).trans (if_neg hother))
  · rw [lookup_setEntry_of_ne (Ne.symm hname), lookup_setEntry_of_ne (Ne.symm hname)]
    exact ⟨source, fs, hsection, hfs⟩

theorem Overlaid.lay {v : Node} (h : Overlaid x v root root') {layer : Layer}
    (ha : ∀ f ∈ layer, PathStep.Aside x (PathStep.ofKey f.1)) :
    Overlaid x v (Layer.lay root layer) (Layer.lay root' layer) := by
  induction layer generalizing root root' with
  | nil => exact h
  | cons f layer ih =>
    obtain ⟨hf, hlayer⟩ := List.forall_mem_cons.mp ha
    exact ih (h.assign f.2 hf) hlayer

theorem Node.eq_table_of_lookup {v w : Node} {key : String} (h : v.fields.lookup key = some w) :
    ∃ source, v = .table source v.fields := by
  cases v with
  | scalar _ _ => cases h
  | list _ _ => cases h
  | table source _ => exact ⟨source, rfl⟩

/-- A table that can be read as settings still can with a value that a setting takes in place. -/
theorem Overlaid.decode_succeeds {v : Node} {e : Option Entry} (h : Overlaid x v root root')
    (ht : Tidy root) (ht' : Tidy root') (hv : x.reading v = .ok e)
    (hs : ∃ s, Settings.decode layeredFormat root = .ok s) :
    ∃ s, Settings.decode layeredFormat root' = .ok s := by
  obtain ⟨_, hroot⟩ := ht.table
  obtain ⟨_, hroot'⟩ := ht'.table
  obtain ⟨_, fs, hsection, hfs⟩ := h.within
  obtain ⟨r⟩ := x.sectionReader
  rw [hroot, Settings.decode_succeeds_iff] at hs
  rw [hroot', Settings.decode_succeeds_iff]
  -- the fields beside the value were read before, if there was a table to hold them
  have hbefore {key : String} {w : Node} (hw : ((root.fields.lookup x.sectionName).getD
      .absent).fields.lookup key = some w) : Readable x.sectionName key w := by
    obtain ⟨_, htable⟩ := Node.eq_table_of_lookup hw
    cases hold : root.fields.lookup x.sectionName with
    | none =>
      rw [hold] at hw
      cases hw
    | some old =>
      rw [hold, Option.getD_some] at hw htable
      have hread := hs _ (mem_of_lookup hold)
      rw [htable, r.succeeds_iff] at hread
      exact hread _ (mem_of_lookup hw)
  have hd : (fs.map Prod.fst).Nodup := ht'.sections _ (mem_of_lookup hsection)
  have hfields : ∀ f ∈ fs, Readable x.sectionName f.1 f.2 := by
    rintro ⟨key, w⟩ hw
    have hlookup := hfs key
    rw [lookup_of_mem hd hw] at hlookup
    split at hlookup
    · next hkey =>
      cases hlookup
      exact fun y _ hy => ⟨e, Setting.key_injective (hy.trans hkey) ▸ hv⟩
    · exact hbefore hlookup.symm
  rintro ⟨name, sub⟩ hf
  have hsub : root'.fields.lookup name = some sub := lookup_of_mem ht'.distinct hf
  by_cases hname : name = x.sectionName
  · subst hname
    cases hsection.symm.trans hsub
    exact r.succeeds_iff.mpr hfields
  · rw [h.elsewhere name hname] at hsub
    exact hs _ (mem_of_lookup hsub)

/-- The setting has what it takes the value for. -/
theorem Overlaid.decode_get {v : Node} {e : Option Entry} (h : Overlaid x v root root')
    (ht' : Tidy root') (hv : x.reading v = .ok e) {s : Settings}
    (hs : Settings.decode layeredFormat root' = .ok s) : s.get x = e := by
  obtain ⟨_, hroot'⟩ := ht'.table
  obtain ⟨_, fs, hsection, hfs⟩ := h.within
  rw [hroot'] at hs
  obtain ⟨hshown, -⟩ := Settings.decode_shows ht'.distinct hs x
  obtain ⟨htaken, -⟩ := hshown hsection (ht'.sections _ (mem_of_lookup hsection))
  have hread : x.reading v = .ok (s.get x) := htaken v ((hfs x.key).trans (if_pos rfl))
  exact Except.ok.inj (hread.symm.trans hv)

/-! ## Rereading -/

/-- A text after it was taken for a truth value or for a number, if it looks like one, and written
again. -/
def reread (text : String) : String :=
  if Text.lowerAscii text = "true" ∨ Text.lowerAscii text = "false" then Text.lowerAscii text
  else match Decimal.intText? text.toList with
    | some i => toString i
    | none => match Decimal.realText? text.toList with
      | some r => Decimal.Layout.setting.render r
      | none => text

/-- A text that is what it would be written as: a truth value in small letters, an integer where
nothing could be left out, a number in its own layout, or none of these. -/
def Settled (text : String) : Prop :=
  if Text.lowerAscii text = "true" ∨ Text.lowerAscii text = "false" then Text.lowerAscii text = text
  else match Decimal.intText? text.toList with
    | some _ => text = "0" ∨
        text.toList.head? ≠ some '+' ∧ (Decimal.sign text.toList).2.head? ≠ some '0'
    | none => match Decimal.realText? text.toList with
      | some r => Decimal.Layout.setting.render r = text
      | none => True

theorem reread_eq_self_iff (text : String) : reread text = text ↔ Settled text := by
  unfold reread Settled
  split
  · exact Iff.rfl
  cases hi : Decimal.intText? text.toList with
  | some i =>
    have hwritten := Decimal.toString_eq_iff hi
    rw [String.toList_inj] at hwritten
    have hzero : text.toList = ['0'] ↔ text = "0" := by
      rw [← String.toList_inj]
      rfl
    simpa only [hzero] using hwritten
  | none =>
    cases hr : Decimal.realText? text.toList with
    | some r => exact Iff.rfl
    | none => exact iff_of_true rfl trivial

/-- A variable gives its text as it is reread. -/
theorem text_ofVariable (source : Option String) (text : String) :
    layeredFormat.text (.scalar source (Node.scalarOfVariable text)) = .ok (reread text) := by
  unfold reread Node.scalarOfVariable
  by_cases htrue : Text.lowerAscii text = "true"
  · simp only [htrue]; rfl
  by_cases hfalse : Text.lowerAscii text = "false"
  · simp only [hfalse]; rfl
  simp only [htrue, hfalse]
  cases Decimal.intText? text.toList with
  | some i => rfl
  | none => cases Decimal.realText? text.toList <;> rfl

/-! ## Overrides -/

/-- A variable that has nothing to do with a setting. -/
def Setting.Aside (x : Setting) (name : String) : Prop :=
  ∀ path, Layer.variablePath? name = some path → PathStep.Aside x (PathStep.ofKey path)

/-- The variables of the other settings do not. -/
theorem Setting.aside_variableName {y : Setting} (h : y ≠ x) : x.Aside y.variableName := by
  intro path hpath
  cases y.variablePath?_variableName.symm.trans hpath
  rw [y.ofKey_path]
  refine ⟨_, _, rfl, fun _ => ⟨_, _, rfl, ?_⟩⟩
  rw [y.foldKey_key]
  exact mt Setting.key_injective h

theorem aside_ofEnvironment {environment : List (String × String)}
    (h : ∀ v ∈ environment, x.Aside v.1) :
    ∀ f ∈ Layer.ofEnvironment environment, PathStep.Aside x (PathStep.ofKey f.1) := by
  intro f hf
  obtain ⟨v, hv, hf⟩ := List.mem_filterMap.mp hf
  obtain ⟨path, hpath, rfl⟩ := Option.map_eq_some_iff.mp hf
  exact h v hv path hpath

/-- A variable of a setting puts its value there, over everything before it, and nothing that comes
after it and has to do with other things takes it away. -/
theorem overlaid_override {before after : List (String × String)}
    (hafter : ∀ v ∈ after, x.Aside v.1) (text : String) (root : Node) :
    Overlaid x (.scalar (some "the environment") (Node.scalarOfVariable text))
      (Layer.lay root (Layer.ofEnvironment (before ++ after)))
      (Layer.lay root (Layer.ofEnvironment (before ++ (x.variableName, text) :: after))) := by
  have hlayer : Layer.ofEnvironment (before ++ (x.variableName, text) :: after) =
      Layer.ofEnvironment before ++
        (x.path, .scalar (some "the environment") (Node.scalarOfVariable text)) ::
          Layer.ofEnvironment after := by
    simp [Layer.ofEnvironment, x.variablePath?_variableName]
  have hother : Layer.ofEnvironment (before ++ after) =
      Layer.ofEnvironment before ++ Layer.ofEnvironment after := List.filterMap_append
  rw [hlayer, hother]
  simp only [Layer.lay, List.foldl_append, List.foldl_cons, x.ofKey_path]
  exact (overlaid_assign _ _ _).lay (aside_ofEnvironment hafter)

namespace Settings

variable {read : String → Option (List UInt8)} {path text : String}
  {before after : List (String × String)}

theorem tidy_tree (file : Layer) (environment : List (String × String)) :
    Tidy (tree file environment) :=
  ((tidy_emptyTable.lay _).lay _).lay _

/-- Whatever the file and the variables before it give, and as long as those after it have to do
with other things, a variable named after a text setting gives it the text as it is reread. It never
keeps settings from being loaded, and it gives the text itself if and only if that is settled. -/
theorem load_override (hx : x.kind = .text) (hafter : ∀ v ∈ after, x.Aside v.1) :
    ((∃ s, load read path (before ++ after) = .ok s) →
      ∃ s, load read path (before ++ (x.variableName, text) :: after) = .ok s) ∧
    ∀ s, load read path (before ++ (x.variableName, text) :: after) = .ok s →
      s.get x = some (.text (reread text)) ∧ (s.get x = some (.text text) ↔ Settled text) := by
  have hreading : x.reading (.scalar (some "the environment") (Node.scalarOfVariable text)) =
      .ok (some (.text (reread text))) := Setting.reading_text hx (text_ofVariable _ text)
  have hoverlaid (file : Layer) : Overlaid x _ (tree file (before ++ after))
    (tree file (before ++ (x.variableName, text) :: after)) := overlaid_override hafter text _
  constructor
  · rintro ⟨s, hs⟩
    obtain ⟨file, hfile, hs⟩ := load_eq_ok_iff.mp hs
    obtain ⟨s', hs'⟩ := (hoverlaid file).decode_succeeds (tidy_tree _ _) (tidy_tree _ _) hreading
      ⟨s, hs⟩
    exact ⟨s', load_eq_ok_iff.mpr ⟨file, hfile, hs'⟩⟩
  · intro s hs
    obtain ⟨file, -, hs⟩ := load_eq_ok_iff.mp hs
    have hget := (hoverlaid file).decode_get (tidy_tree _ _) hreading hs
    refine ⟨hget, ?_⟩
    rw [hget, ← reread_eq_self_iff, Option.some.injEq, Entry.text.injEq]

/-- The word for a truth value in capitals, before a variable of another setting and one of none. -/
theorem load_override_word :
    ∃ s, load (fun _ => none) "/srv/spotguard.toml" [("SPOTGUARD_CONTROL__PID_FILE", "TRUE"),
        ("SPOTGUARD_CONTROL__TARGET", "mc"), ("PATH", "/bin")] = .ok s ∧
      s.get .pidFile = some (.text "true") := by
  have hpidFile : "SPOTGUARD_CONTROL__PID_FILE" = Setting.pidFile.variableName := by decide +kernel
  have htarget : "SPOTGUARD_CONTROL__TARGET" = Setting.target.variableName := by decide +kernel
  have hpath : Layer.variablePath? "PATH" = none := by decide +kernel
  have haside (x : Setting) : ∀ v ∈ [("PATH", "/bin")], x.Aside v.1 := by
    refine List.forall_mem_singleton.mpr fun path h => ?_
    rw [hpath] at h
    cases h
  have hafter : ∀ v ∈ [(Setting.target.variableName, "mc"), ("PATH", "/bin")],
      Setting.pidFile.Aside v.1 :=
    List.forall_mem_cons.mpr ⟨Setting.aside_variableName (by decide), haside .pidFile⟩
  have hword : reread "TRUE" = "true" := by decide +kernel
  rw [hpidFile, htarget]
  obtain ⟨hfirst, -⟩ := @load_override .target (fun _ => none) "/srv/spotguard.toml" "mc" [] _ rfl
    (haside .target)
  obtain ⟨hloads, hgets⟩ := @load_override .pidFile (fun _ => none) "/srv/spotguard.toml" "TRUE"
    [] _ rfl hafter
  obtain ⟨s, hs⟩ := hloads (hfirst ⟨{}, load_defaults (List.forall_mem_singleton.mpr hpath)⟩)
  exact ⟨s, hs, (hgets s hs).1.trans (by rw [hword])⟩

/-- A target does not keep the zeros in front of it. -/
theorem load_target_zeros :
    ∃ s, load (fun _ => none) "/srv/spotguard.toml" [("SPOTGUARD_CONTROL__TARGET", "007")] =
        .ok s ∧
      s.control.target = "7" ∧ s.control.target ≠ "007" :=
  ⟨{ control := { target := "7" } }, by decide +kernel, rfl, by decide⟩

end Settings

end DrainGuard
