import DrainGuard.Proofs.Decimal.Numerals
import DrainGuard.Proofs.Settings.Layers
import DrainGuard.Proofs.Text.Utf8
import DrainGuard.Proofs.Toml.Keys

/-!
# What the sources give

Each source names some of the settings and gives an entry for each of them.

- **Files** (`Setting.inFile`, `GivesSettings`): a file gives what stands under the section and the
  key of a setting.
- **Environments** (`Setting.inEnvironment`, `GivesVariables`): an environment gives the text of the
  variable that is named after a setting, taken as what the setting holds.
- **Layers** (`lay_defaults`, `lay_file`, `lay_environment`): each source is laid over what came
  before it, setting by setting.
- **Loading** (`load_eq_ok_iff`, `load_reads`): settings are read from one tree of all layers. With
  a file and an environment that give settings this succeeds, and what each setting has is up to its
  own sources.
-/

namespace DrainGuard

open Toml (Entry Value)

/-! ## Files -/

namespace Toml.Value

/-- The text that a value is. -/
def text? : Value → Option String
  | .text s => some s
  | _ => none

/-- The entry that a value is. -/
def held? : Value → Option Entry
  | .text s => some (.text s)
  | .integer i => if 0 ≤ i then some (.number i.toNat) else none
  | .array vs => (vs.mapM text?).map .texts
  | _ => none

end Toml.Value

/-- What the content of a file gives a setting. -/
def Setting.inFile (fields : List (String × Value)) (x : Setting) : Option Entry :=
  match fields.lookup x.sectionName with
  | some (.table fs) => (fs.lookup x.key).bind Value.held?
  | _ => none

/-- Settings of a section, as a file gives them: each with a value of its own kind. -/
def GivesSection (name : String) (fs : List (String × Value)) : Prop :=
  ∀ g ∈ fs, ∃ x : Setting, x.sectionName = name ∧ x.key = g.1 ∧
    ∃ e, g.2.held? = some e ∧ e.kind = x.kind

/-- The content of a file that holds nothing but settings, each in its section. -/
def GivesSettings (fields : List (String × Value)) : Prop :=
  ∀ f ∈ fields, (∃ x : Setting, x.sectionName = f.1) ∧ ∃ fs, f.2 = .table fs ∧ GivesSection f.1 fs

/-- The byte order mark does not begin with a bracket. -/
theorem withoutMark_encode {cs : List Char} (hcs : ∀ c ∈ cs.head?, c = '[' ∨ c = '{') :
    Layer.withoutMark (Text.encode cs) = Text.encode cs := by
  unfold Layer.withoutMark
  split
  · next h =>
    cases cs with
    | nil => cases h
    | cons c cs =>
      rcases hcs c rfl with rfl | rfl <;> exact absurd (List.cons.inj h).1 (by decide)
  · rfl

theorem withoutMark_write (sections : List Toml.Section) :
    Layer.withoutMark (Text.encode (Toml.write sections)) = Text.encode (Toml.write sections) :=
  withoutMark_encode fun c hc => .inl (Toml.head_write sections c hc)

/-- The bytes of a written document are read as what it was written from. -/
theorem parse?_bytes {sections : List Toml.Section} (hf : ∀ s ∈ sections, s.Fits)
    (hd : (sections.map Toml.Section.name).Nodup) :
    Toml.parse? (Text.decode (Layer.withoutMark (Text.encode (Toml.write sections)))) =
      some (sections.map Toml.Section.content) := by
  rw [withoutMark_write, Text.decode_encode, Toml.parse?_write hf hd]

/-! ## Environments -/

/-- A text that a variable can give to a setting: decimal digits of a number of 63 bits, or what
reads neither as a truth value nor as a number. -/
def Kind.Accepts (s : String) : Kind → Prop
  | .number => s ≠ "" ∧ (∀ c ∈ s.toList, c.isDigit = true) ∧
      Decimal.value s.toList ≤ 0x7FFFFFFFFFFFFFFF
  | .text => Text.lowerAscii s ≠ "true" ∧ Text.lowerAscii s ≠ "false" ∧
      Decimal.intText? s.toList = none ∧ Decimal.realText? s.toList = none
  | .texts => False

/-- The entry that a variable with such a text gives. -/
def Kind.ofText (s : String) : Kind → Option Entry
  | .number => some (.number (Decimal.value s.toList))
  | .text => some (.text s)
  | .texts => none

/-- What an environment gives a setting. -/
def Setting.inEnvironment (environment : List (String × String)) (x : Setting) : Option Entry :=
  (environment.lookup x.variableName).bind x.kind.ofText

/-- An environment with any other variables and some of those that are named after settings, each
with a text that its setting can have. -/
structure GivesVariables (environment : List (String × String)) : Prop where
  /-- No variable comes twice. -/
  distinct : (environment.map Prod.fst).Nodup
  /-- What the variables are. -/
  each : ∀ v ∈ environment, Layer.variablePath? v.1 = none ∨
    ∃ x : Setting, v.1 = x.variableName ∧ x.kind.Accepts v.2

/-! ## Layers -/

variable {root : Node} {fields : List (String × Value)} {environment : List (String × String)}

/-- All settings, in the order of the document. -/
def Setting.all : List Setting :=
  [.endpoint, .pollInterval, .requestTimeout, .tokenEndpoint, .warningDelay, .graceDelay,
    .exitPollInterval, .tmuxBinary, .target, .pidFile, .command, .args, .scheduledAction,
    .preShutdownAction, .logFile]

/-- The settings that have a default. -/
def defaultEntries : List (Setting × Entry) :=
  Setting.all.filterMap fun x => (({} : Settings).get x).map fun e => (x, e)

theorem ofDefaults_eq : Layer.ofDefaults =
    defaultEntries.map fun p => (p.1.path, Layer.ofEntry p.2) := rfl

theorem lookup_defaultEntries (x : Setting) :
    defaultEntries.lookup x = ({} : Settings).get x := by
  cases x <;> rfl

/-- The defaults show themselves. -/
theorem lay_defaults : IsDocument (Layer.lay .emptyTable Layer.ofDefaults) ∧
    ∀ x, (Layer.lay .emptyTable Layer.ofDefaults).shown x = ({} : Settings).get x := by
  have hempty : IsDocument .emptyTable := ⟨none, [], rfl, .nil⟩
  obtain ⟨hlay, hshown⟩ := lay_entries hempty defaultEntries (by decide) (by decide)
  rw [← ofDefaults_eq] at hlay hshown
  refine ⟨hlay, fun x => ?_⟩
  rw [hshown, lookup_defaultEntries]
  exact Option.or_none

theorem ofTomlFields_eq (source : Option String) (fs : List (String × Value)) :
    Node.ofTomlFields source fs = fs.map fun f => (f.1, Node.ofToml source f.2) := by
  induction fs with
  | nil => rfl
  | cons f fs ih => rw [Node.ofTomlFields, ih, List.map_cons]

theorem mapM_ofTomlItems (source : Option String) {vs : List Value} {ss : List String}
    (h : vs.mapM Value.text? = some ss) :
    (Node.ofTomlItems source vs).mapM Node.text? = some ss := by
  induction vs generalizing ss with
  | nil => exact h
  | cons v vs ih =>
    rw [List.mapM_cons] at h
    obtain ⟨s, hs, h⟩ := Option.bind_eq_some_iff.mp h
    obtain ⟨ss', hss, h⟩ := Option.bind_eq_some_iff.mp h
    cases h
    have hv : (Node.ofToml source v).text? = some s := by
      unfold Value.text? at hs
      split at hs <;> cases hs
      rfl
    rw [Node.ofTomlItems, List.mapM_cons, hv, ih hss]
    rfl

/-- A value of a file stands for the entry that it is. -/
theorem held?_ofToml (source : Option String) {v : Value} {e : Entry} (h : v.held? = some e) :
    (Node.ofToml source v).held? = some e := by
  unfold Value.held? at h
  split at h
  · exact h
  · exact h
  · obtain ⟨ss, hss, rfl⟩ := Option.map_eq_some_iff.mp h
    rw [Node.ofToml, Node.held?, mapM_ofTomlItems source hss, Option.map_some]
  · cases h

variable {name : String} {fs : List (String × Value)}

theorem GivesSection.isSection (h : GivesSection name fs) (source : Option String)
    (hd : (fs.map Prod.fst).Nodup) : Fields (InSection name) (Node.ofTomlFields source fs) where
  distinct := by rwa [ofTomlFields_eq, keys_map]
  each f hf := by
    rw [ofTomlFields_eq] at hf
    obtain ⟨g, hg, rfl⟩ := List.mem_map.mp hf
    obtain ⟨x, hs, hkey, e, he, hk⟩ := h g hg
    exact ⟨x, hs, hkey, e, held?_ofToml source he, hk⟩

theorem GivesSettings.isDocument (h : GivesSettings fields) (source : Option String)
    (hd : (fields.map Prod.fst).Nodup) (hk : ∀ f ∈ fields, f.2.Keyed) :
    Fields IsSection (Node.ofTomlFields source fields) where
  distinct := by rwa [ofTomlFields_eq, keys_map]
  each f hf := by
    rw [ofTomlFields_eq] at hf
    obtain ⟨g, hg, rfl⟩ := List.mem_map.mp hf
    obtain ⟨hx, fs, hv, hsection⟩ := h g hg
    refine ⟨hx, source, Node.ofTomlFields source fs, ?_,
      GivesSection.isSection hsection source (hk g hg fs hv)⟩
    show Node.ofToml source g.2 = _
    rw [hv, Node.ofToml]

theorem GivesSettings.shown (h : GivesSettings fields) (source : Option String) (x : Setting) :
    (Node.table none (Node.ofTomlFields source fields)).shown x = x.inFile fields := by
  rw [shown_eq, Setting.inFile]
  show (((Node.ofTomlFields source fields).lookup x.sectionName).bind _).bind _ = _
  rw [ofTomlFields_eq, lookup_map]
  cases hv : fields.lookup x.sectionName with
  | none => rfl
  | some v =>
    obtain ⟨-, fs, rfl, hsection⟩ := h _ (mem_of_lookup hv)
    show ((Node.ofTomlFields source fs).lookup x.key).bind _ = (fs.lookup x.key).bind _
    rw [ofTomlFields_eq, lookup_map]
    cases hw : fs.lookup x.key with
    | none => rfl
    | some w =>
      obtain ⟨_, -, -, e, he, -⟩ := hsection _ (mem_of_lookup hw)
      exact (held?_ofToml source he).trans he.symm

/-- A file that gives settings shows them over what was there before. -/
theorem lay_file (h : IsDocument root) (source : Option String)
    (hd : (fields.map Prod.fst).Nodup) (hk : ∀ f ∈ fields, f.2.Keyed) (hg : GivesSettings fields) :
    IsDocument (Layer.lay root (Node.ofTomlFields source fields)) ∧
      ∀ x, (Layer.lay root (Node.ofTomlFields source fields)).shown x =
        (x.inFile fields).or (root.shown x) := by
  obtain ⟨hlay, hshown⟩ := lay_sections h (hg.isDocument source hd hk)
  exact ⟨hlay, fun x => by rw [hshown, hg.shown]⟩

theorem toLower_digit {c : Char} (h : c.isDigit = true) : c.toLower = c := by
  simp only [Char.isDigit, Bool.and_eq_true, decide_eq_true_eq] at h
  exact dif_neg fun hup => absurd (UInt32.le_trans hup.1 h.2) (by decide)

/-- Digits are no word. -/
theorem lowerAscii_ne {s word : String} (hne : s ≠ "") (hd : ∀ c ∈ s.toList, c.isDigit = true)
    (hw : ∀ c ∈ word.toList.head?, c.isDigit = false) : Text.lowerAscii s ≠ word := by
  rintro rfl
  obtain ⟨c, cs, hcs⟩ := List.exists_cons_of_ne_nil (mt String.toList_eq_nil_iff.mp hne)
  have hc : c.isDigit = true := hd c (hcs ▸ List.mem_cons_self)
  have hhead := hw c.toLower (by simp [Text.lowerAscii, hcs])
  rw [toLower_digit hc, hc] at hhead
  cases hhead

/-- A text that a setting can have is taken as what the setting holds. -/
theorem held?_ofVariable {k : Kind} {s : String} (h : k.Accepts s) (source : Option String) :
    (Node.scalar source (Node.scalarOfVariable s)).held? = k.ofText s ∧
      ∃ e, k.ofText s = some e ∧ e.kind = k := by
  cases k with
  | text =>
    obtain ⟨h₁, h₂, h₃, h₄⟩ := h
    have hs : Node.scalarOfVariable s = .text s := by
      simp only [Node.scalarOfVariable, if_neg h₁, if_neg h₂, h₃, h₄]
    exact ⟨by rw [hs]; rfl, _, rfl, rfl⟩
  | number =>
    obtain ⟨hne, hd, hn⟩ := h
    have hs : Node.scalarOfVariable s = .integer (Decimal.value s.toList) := by
      have h₁ : Text.lowerAscii s ≠ "true" := lowerAscii_ne hne hd (by rintro _ ⟨⟩; decide)
      have h₂ : Text.lowerAscii s ≠ "false" := lowerAscii_ne hne hd (by rintro _ ⟨⟩; decide)
      have hread := Decimal.intText?_digits (mt String.toList_eq_nil_iff.mp hne) hd hn
      simp only [Node.scalarOfVariable, if_neg h₁, if_neg h₂, hread]
    exact ⟨by simp [hs, Node.held?, Kind.ofText], _, rfl, rfl⟩
  | texts => exact h.elim

/-- The names of the variables tell the settings apart. -/
theorem Setting.variableName_injective {x y : Setting} (h : x.variableName = y.variableName) :
    x = y := by
  have hpath : x.path = y.path := by
    have hx := x.variablePath?_variableName
    rw [h, y.variablePath?_variableName] at hx
    exact (Option.some.inj hx).symm
  have hsteps := y.ofKey_path
  rw [← hpath, x.ofKey_path] at hsteps
  cases List.cons.inj hsteps with
  | intro _ h => exact key_injective (PathStep.name.inj (List.cons.inj h).1)

/-- A variable that is not named after a setting gives none. -/
theorem Setting.inEnvironment_cons_of_none {v : String × String}
    (h : Layer.variablePath? v.1 = none) (x : Setting) :
    x.inEnvironment (v :: environment) = x.inEnvironment environment := by
  have hne : x.variableName ≠ v.1 := by
    intro heq
    rw [← heq, x.variablePath?_variableName] at h
    cases h
  obtain ⟨name, text⟩ := v
  simp only [inEnvironment, List.lookup_cons, beq_false_of_ne hne]

/-- An environment without variables for settings is an empty layer. -/
theorem ofEnvironment_eq_nil (h : ∀ v ∈ environment, Layer.variablePath? v.1 = none) :
    Layer.ofEnvironment environment = [] := by
  refine List.filterMap_eq_nil_iff.mpr fun v hv => ?_
  obtain ⟨name, text⟩ := v
  simp [h _ hv]

/-- An environment that gives settings shows them over what was there before. -/
theorem lay_environment (h : IsDocument root) (hg : GivesVariables environment) :
    IsDocument (Layer.lay root (Layer.ofEnvironment environment)) ∧
      ∀ x, (Layer.lay root (Layer.ofEnvironment environment)).shown x =
        (x.inEnvironment environment).or (root.shown x) := by
  induction environment generalizing root with
  | nil => exact ⟨h, fun _ => rfl⟩
  | cons v environment ih =>
    have hrest : GivesVariables environment :=
      ⟨(List.nodup_cons.mp hg.distinct).2, fun v hv => hg.each v (List.mem_cons_of_mem _ hv)⟩
    rcases hg.each _ List.mem_cons_self with hnone | ⟨x, hx, haccepts⟩
    · have hskip : Layer.ofEnvironment (v :: environment) = Layer.ofEnvironment environment := by
        obtain ⟨name, text⟩ := v
        simp [Layer.ofEnvironment, hnone]
      rw [hskip]
      refine ⟨(ih h hrest).1, fun y => ?_⟩
      rw [(ih h hrest).2, Setting.inEnvironment_cons_of_none hnone]
    · obtain ⟨name, text⟩ := v
      obtain rfl : name = x.variableName := hx
      obtain ⟨hentry, e, he, hkind⟩ := held?_ofVariable haccepts (some "the environment")
      obtain ⟨hassign, hshown⟩ := assign_reads h (hentry.trans he) hkind
      obtain ⟨hlay, hall⟩ := ih hassign hrest
      have hstep : Layer.lay root (Layer.ofEnvironment ((x.variableName, text) :: environment)) =
          Layer.lay (Node.assign (.scalar (some "the environment") (Node.scalarOfVariable text))
            [.name x.sectionName, .name x.key] root) (Layer.ofEnvironment environment) := by
        simp [Layer.ofEnvironment, Layer.lay, x.variablePath?_variableName, x.ofKey_path]
      rw [hstep]
      refine ⟨hlay, fun y => ?_⟩
      rw [hall, hshown]
      by_cases hy : y = x
      · have hnone : environment.lookup x.variableName = none :=
          lookup_eq_none (List.nodup_cons.mp hg.distinct).1
        simp [hy, Setting.inEnvironment, hnone, he]
      · have hne : y.variableName ≠ x.variableName := mt Setting.variableName_injective hy
        simp only [if_neg hy, Setting.inEnvironment, List.lookup_cons, beq_false_of_ne hne]

/-! ## Loading -/

namespace Settings

variable {read : String → Option (List UInt8)} {path : String} {bytes : List UInt8} {s : Settings}

/-- The tree that settings are read from. -/
def tree (file : Layer) (environment : List (String × String)) : Node :=
  Layer.lay (Layer.lay (Layer.lay .emptyTable Layer.ofDefaults) file)
    (Layer.ofEnvironment environment)

theorem load_eq_ok_iff : load read path environment = .ok s ↔
    ∃ file, fileLayer read path = .ok file ∧
      decode layeredFormat (tree file environment) = .ok s := by
  unfold load
  cases fileLayer read path with
  | error _ => exact ⟨nofun, nofun⟩
  | ok file =>
    show (decode layeredFormat (tree file environment)).mapError _ = _ ↔ _
    simp only [Except.ok.injEq, exists_eq_left']
    cases decode layeredFormat (tree file environment) <;> simp [Except.mapError]

/-- A file whose name says so is read as TOML. -/
theorem fileLayer_toml (hpath : ConfigFile.extension? path = some "toml")
    (hread : read path = some bytes)
    (hparse : Toml.parse? (Text.decode (Layer.withoutMark bytes)) = some fields) :
    fileLayer read path = .ok (Node.ofTomlFields (some (ConfigFile.displayName path)) fields) := by
  have hfind : ConfigFile.find read path =
      some (.toml, ConfigFile.displayName path, bytes) := by
    simp [ConfigFile.find, hread, hpath, FileFormat.ofExtension?]
  simp [fileLayer, hfind, Layer.ofFile, hparse]

/-- Without a file and without variables for settings, the defaults are loaded. -/
theorem load_defaults (h : ∀ v ∈ environment, Layer.variablePath? v.1 = none) :
    load (fun _ => none) path environment = .ok {} := by
  have hfile : fileLayer (fun _ => none) path = .ok [] := by simp [fileLayer, ConfigFile.find]
  obtain ⟨hdocument, hshown⟩ := lay_defaults
  obtain ⟨s, hs, hget⟩ := decode_reads hdocument
  have hdefault : s = {} := ext_get fun x => by rw [hget, hshown, Option.or_self]
  have hempty (root : Node) : Layer.lay root [] = root := rfl
  refine load_eq_ok_iff.mpr ⟨[], hfile, ?_⟩
  rw [tree, ofEnvironment_eq_nil h, hempty, hempty, hs, hdefault]

/-- Where the environment gives what `given` says, loading succeeds, and each setting has what the
environment gives it, else what the file gives it, else its default. -/
theorem load_reads (hpath : ConfigFile.extension? path = some "toml")
    (hread : read path = some bytes)
    (hparse : Toml.parse? (Text.decode (Layer.withoutMark bytes)) = some fields)
    (hfile : GivesSettings fields) {given : Setting → Option Entry}
    (henv : ∀ {root}, IsDocument root →
      IsDocument (Layer.lay root (Layer.ofEnvironment environment)) ∧
        ∀ x, (Layer.lay root (Layer.ofEnvironment environment)).shown x =
          (given x).or (root.shown x)) :
    ∃ s, load read path environment = .ok s ∧
      ∀ x, s.get x = (given x).or ((x.inFile fields).or (get {} x)) := by
  obtain ⟨hd, hk⟩ := Toml.parse?_keyed hparse
  obtain ⟨hdefaults, hshown₁⟩ := lay_defaults
  obtain ⟨hlaid, hshown₂⟩ := lay_file hdefaults (some (ConfigFile.displayName path)) hd hk hfile
  obtain ⟨hroot, hshown₃⟩ := henv hlaid
  obtain ⟨s, hs, hget⟩ := decode_reads hroot
  refine ⟨s, load_eq_ok_iff.mpr ⟨_, fileLayer_toml hpath hread hparse, hs⟩, fun x => ?_⟩
  rw [hget, hshown₃, hshown₂, hshown₁, Option.or_assoc, Option.or_assoc, Option.or_self]

end Settings

end DrainGuard
