import Mathlib.Data.List.Forall2
import DrainGuard.Settings.Node
import DrainGuard.Proofs.Settings.Entries

/-!
# Settings from layered values

- **Values** (`Node.held?`): the entry that a layered value stands for, if it needs no conversion.
- **Readings** (`Setting.reading`): what a setting takes a value for, converted or not.
- **Records** (`record_succeeds_iff`, `record_shows`): a record is read if each of its fields can
  be, and no field touches what is read from another one.
- **Sections** (`SectionReader`): the record of each section, where a field sets the setting that it
  is named after and changes no other.
- **Settings** (`decode_succeeds_iff`, `decode_shows`): any table is read as settings section by
  section.
- **Legible tables** (`Legible.decode`): where every setting takes what is at its place, this
  succeeds. So it does for a table of sections (`decode_reads`), and where that has none, the
  default stays.
-/

namespace DrainGuard

open Toml (Entry)

/-- The texts of a list are read one by one. -/
theorem Format.texts_eq {ν ε : Type} {f : Format ν ε} {v : ν} {vs : List ν} {ss : List String}
    (h : f.items v = .ok vs) (hvs : List.Forall₂ (fun v s => f.text v = .ok s) vs ss) :
    f.texts v = .ok ss := by
  rw [Format.texts, h]
  clear h
  -- the position of an item only matters to complaints
  have hitems (n : Nat) : (vs.zipIdx n).mapM (fun p =>
      f.readAt ("[" ++ toString p.2 ++ "]") f.text p.1) = .ok ss := by
    induction hvs generalizing n with
    | nil => rfl
    | cons hv _ ih =>
      rw [List.zipIdx_cons, List.mapM_cons, Format.readAt, hv, ih (n + 1)]
      rfl
  exact hitems 0

namespace Node

/-- The text that a value is. -/
def text? : Node → Option String
  | .scalar _ (.text s) => some s
  | _ => none

/-- The entry that a value stands for. -/
def held? : Node → Option Entry
  | .scalar _ (.text s) => some (.text s)
  | .scalar _ (.integer i) => if 0 ≤ i then some (.number i.toNat) else none
  | .list _ vs => (vs.mapM text?).map .texts
  | _ => none

variable {v : Node}

theorem held?_eq_text {s : String} (h : v.held? = some (.text s)) :
    ∃ source, v = .scalar source (.text s) := by
  unfold held? at h
  split at h
  · cases h
    exact ⟨_, rfl⟩
  · split at h <;> cases h
  · cases Option.map_eq_some_iff.mp h with | _ _ h => cases h.2
  · cases h

theorem held?_eq_number {n : Nat} (h : v.held? = some (.number n)) :
    ∃ source i, v = .scalar source (.integer i) ∧ 0 ≤ i ∧ i.toNat = n := by
  unfold held? at h
  split at h
  · cases h
  · split at h <;> cases h
    next hi => exact ⟨_, _, rfl, hi, rfl⟩
  · cases Option.map_eq_some_iff.mp h with | _ _ h => cases h.2
  · cases h

theorem held?_eq_texts {ss : List String} (h : v.held? = some (.texts ss)) :
    ∃ source vs, v = .list source vs ∧ vs.mapM text? = some ss := by
  unfold held? at h
  split at h
  · cases h
  · split at h <;> cases h
  · obtain ⟨ss, hss, h⟩ := Option.map_eq_some_iff.mp h
    cases h
    exact ⟨_, _, rfl, hss⟩
  · cases h

/-- A value that stands for an entry is no table. -/
theorem ne_table_of_held? {e : Entry} (h : v.held? = some e) (source : Option String)
    (fs : List (String × Node)) : v ≠ .table source fs := by
  rintro rfl
  cases h

theorem reads_text {s : String} (h : v.held? = some (.text s)) : layeredFormat.text v = .ok s := by
  obtain ⟨source, rfl⟩ := held?_eq_text h
  rfl

theorem reads_natural {n : Nat} (h : v.held? = some (.number n)) :
    layeredFormat.natural v = .ok n := by
  obtain ⟨source, i, rfl, hi, rfl⟩ := held?_eq_number h
  exact if_pos hi

theorem reads_item {s : String} (h : v.text? = some s) : layeredFormat.text v = .ok s := by
  unfold text? at h
  split at h <;> cases h
  rfl

theorem reads_texts {ss : List String} (h : v.held? = some (.texts ss)) :
    layeredFormat.texts v = .ok ss := by
  obtain ⟨source, vs, rfl, hvs⟩ := held?_eq_texts h
  clear h
  refine Format.texts_eq rfl ?_
  induction vs generalizing ss with
  | nil =>
    cases hvs
    exact .nil
  | cons v vs ih =>
    rw [List.mapM_cons] at hvs
    obtain ⟨s, hs, hvs⟩ := Option.bind_eq_some_iff.mp hvs
    obtain ⟨ss, hss, hvs⟩ := Option.bind_eq_some_iff.mp hvs
    cases hvs
    exact .cons (reads_item hs) (ih hss)

end Node

/-! ## Readings -/

/-- What a setting takes a value for. One without a default may be told that it has none. -/
def Setting.reading (x : Setting) (v : Node) : Except ConfigFault (Option Entry) :=
  match x.kind with
  | .number => (layeredFormat.natural v).map fun n => some (.number n)
  | .texts => (layeredFormat.texts v).map fun ss => some (.texts ss)
  | .text =>
    if (Settings.get {} x).isNone then (layeredFormat.optionalText v).map (Option.map .text)
    else (layeredFormat.text v).map fun s => some (.text s)

/-- A value that a setting can have. -/
def Setting.Takes (x : Setting) (v : Node) : Prop := ∃ e, v.held? = some e ∧ e.kind = x.kind

/-- A text is taken for itself, by settings with a default and without. -/
theorem Setting.reading_text {x : Setting} (hx : x.kind = .text) {v : Node} {s : String}
    (h : layeredFormat.text v = .ok s) : x.reading v = .ok (some (.text s)) := by
  have hpresent : layeredFormat.isAbsent v = false := by
    rcases v with ⟨_, _ | _⟩ | _ | _
    · cases h
    all_goals rfl
  simp only [reading, hx, Format.optionalText, hpresent, h]
  split <;> rfl

/-- A value that needs no conversion is taken for the entry that it stands for. -/
theorem Setting.Takes.reading {x : Setting} {v : Node} (h : x.Takes v) :
    x.reading v = .ok v.held? := by
  obtain ⟨e, he, hk⟩ := h
  rw [he]
  cases e with
  | text s => exact reading_text hk.symm (Node.reads_text he)
  | number n => simp only [Setting.reading, ← hk, Entry.kind, Node.reads_natural he, Except.map]
  | texts ss => simp only [Setting.reading, ← hk, Entry.kind, Node.reads_texts he, Except.map]

/-! ## Records -/

/-- The fields of a record: no name comes twice, and each field is as `P` says of its name. -/
structure Fields (P : String → Node → Prop) (fs : List (String × Node)) : Prop where
  /-- The names differ. -/
  distinct : (fs.map Prod.fst).Nodup
  /-- What stands under the names. -/
  each : ∀ f ∈ fs, P f.1 f.2

variable {P : String → Node → Prop} {fs : List (String × Node)} {source : Option String}

theorem Fields.tail {f : String × Node} (h : Fields P (f :: fs)) : Fields P fs where
  distinct := (List.nodup_cons.mp h.distinct).2
  each g hg := h.each g (List.mem_cons_of_mem f hg)

theorem map_eq_ok_iff {ε α β : Type} {r : Except ε α} {f : α → β} {b : β} :
    r.map f = .ok b ↔ ∃ a, r = .ok a ∧ f a = b := by
  cases r <;> simp [Except.map]

section Record

variable {σ β : Type} {shape : Shape} {set : String → Node → σ → Except ConfigFault σ} {s s' : σ}

/-- A record is read field by field. -/
theorem record_cons_iff {k : String} {v : Node} :
    layeredFormat.record shape s set (.table source ((k, v) :: fs)) = .ok s' ↔
      ∃ t, set k v s = .ok t ∧ layeredFormat.record shape t set (.table source fs) = .ok s' := by
  show (layeredFormat.readAt k (set k · s) v >>= _) >>= _ = _ ↔ _
  cases h : set k v s with
  | error _ => simp [Format.readAt, h, Except.mapError, bind, Except.bind]
  | ok t =>
    simp only [Format.readAt, h, Except.mapError, Except.ok.injEq, exists_eq_left']
    exact Iff.rfl

/-- A record is read if and only if each of its fields can be. -/
theorem record_succeeds_iff (Readable : String → Node → Prop)
    (hset : ∀ k v s, (∃ s', set k v s = .ok s') ↔ Readable k v) :
    (∃ s', layeredFormat.record shape s set (.table source fs) = .ok s') ↔
      ∀ f ∈ fs, Readable f.1 f.2 := by
  induction fs generalizing s with
  | nil => exact ⟨fun _ => nofun, fun _ => ⟨s, rfl⟩⟩
  | cons f fs ih =>
    obtain ⟨k, v⟩ := f
    rw [List.forall_mem_cons]
    constructor
    · rintro ⟨s', h⟩
      obtain ⟨t, ht, h⟩ := record_cons_iff.mp h
      exact ⟨(hset k v s).mp ⟨t, ht⟩, ih.mp ⟨s', h⟩⟩
    · rintro ⟨hv, hfs⟩
      obtain ⟨t, ht⟩ := (hset k v s).mpr hv
      obtain ⟨s', h⟩ := ih.mpr hfs
      exact ⟨s', record_cons_iff.mpr ⟨t, ht, h⟩⟩

/-- If no other field than `name` touches what `view` sees, then this is as it was after that field,
and as it was at the start where the record has no such field. -/
theorem record_shows (view : σ → β) {name : String}
    (hother : ∀ k v s s', name ≠ k → set k v s = .ok s' → view s' = view s)
    (hd : (fs.map Prod.fst).Nodup)
    (h : layeredFormat.record shape s set (.table source fs) = .ok s') :
    (∀ v, fs.lookup name = some v → ∃ t t', set name v t = .ok t' ∧ view s' = view t') ∧
      (fs.lookup name = none → view s' = view s) := by
  induction fs generalizing s with
  | nil =>
    cases h
    exact ⟨nofun, fun _ => rfl⟩
  | cons f fs ih =>
    obtain ⟨k, v⟩ := f
    obtain ⟨t, ht, h⟩ := record_cons_iff.mp h
    obtain ⟨hk, hd⟩ := List.nodup_cons.mp hd
    obtain ⟨hsome, hnone⟩ := ih hd h
    by_cases hn : name = k
    · subst hn
      rw [List.lookup_cons_self]
      -- no later field has the name
      have hlast : view s' = view t := hnone (lookup_eq_none hk)
      exact ⟨fun w hw => Option.some.inj hw ▸ ⟨s, t, ht, hlast⟩, nofun⟩
    · rw [List.lookup_cons, beq_false_of_ne hn]
      exact ⟨hsome, fun h => (hnone h).trans (hother k v s t hn ht)⟩

end Record

/-! ## Sections -/

/-- A value under a key of a section: that of one of its settings. -/
def InSection (name key : String) (v : Node) : Prop :=
  ∃ x : Setting, x.sectionName = name ∧ x.key = key ∧ x.Takes v

/-- A value that can be read under a key of a section. Under keys of no setting, all can. -/
def Readable (name key : String) (v : Node) : Prop :=
  ∀ x : Setting, x.sectionName = name → x.key = key → ∃ e, x.reading v = .ok e

/-- What a setting has after its section was read: what it takes the value under its key for, and
its default where the section has none. -/
def Setting.FromSection (x : Setting) (fs : List (String × Node)) (e : Option Entry) : Prop :=
  (∀ v, fs.lookup x.key = some v → x.reading v = .ok e) ∧
    (fs.lookup x.key = none → e = Settings.get {} x)

/-- How the section of a name is read: as a record from its defaults on. A field gives its value to
the setting that it is named after. -/
structure SectionReader (name : String) where
  /-- What the section is read into. -/
  σ : Type
  /-- The record. -/
  shape : Shape
  /-- Where reading begins. -/
  fresh : σ
  /-- Reads a field. -/
  set : String → Node → σ → Except ConfigFault σ
  /-- Settings with this section in place of their own. -/
  put : σ → Settings → Settings
  /-- The section is read as this record. -/
  reads : ∀ v s, Settings.set layeredFormat name v s =
    (layeredFormat.record shape fresh set v).map (put · s)
  /-- Reading begins with the defaults. -/
  put_fresh : put fresh {} = {}
  /-- The section holds its settings and no others. -/
  get_put : ∀ m s (y : Setting),
    (put m s).get y = if y.sectionName = name then (put m {}).get y else s.get y
  /-- A field named after a setting sets this one alone. -/
  own : ∀ (x : Setting) v m, x.sectionName = name →
    (set x.key v m).map (fun m' => (put m' {}).get) =
      (x.reading v).map fun e y => if y = x then e else (put m {}).get y
  /-- A field named after no setting does not matter. -/
  other : ∀ k v m, (∀ x : Setting, x.sectionName = name → x.key ≠ k) → set k v m = .ok m

theorem return_eq_map {ε α β : Type} (r : Except ε α) (f : α → β) :
    (do return f (← r)) = r.map f := by
  cases r <;> rfl

theorem map_return {ε α β γ δ : Type} {r : Except ε α} {f : α → β} {g : β → γ} {h : α → δ}
    {k : δ → γ} (hall : ∀ a, g (f a) = k (h a)) :
    (do return f (← r) : Except ε β).map g = (r.map h).map k := by
  cases r with
  | error _ => rfl
  | ok a => exact congrArg Except.ok (hall a)

namespace SectionReader

/-- The settings of the watch. -/
def metadata : SectionReader "metadata" where
  σ := MetadataSettings
  shape := MetadataSettings.shape
  fresh := {}
  set := MetadataSettings.set layeredFormat
  put m s := { s with metadata := m }
  reads _ _ := return_eq_map _ _
  put_fresh := rfl
  get_put _ _ y := by cases y <;> rfl
  own x _ _ hx := by
    cases x <;> try exact absurd hx (by decide)
    all_goals exact map_return fun _ => funext fun y => by cases y <;> rfl
  other _ _ _ h := by
    unfold MetadataSettings.set
    split
    · exact absurd rfl (h .endpoint rfl)
    · exact absurd rfl (h .pollInterval rfl)
    · exact absurd rfl (h .requestTimeout rfl)
    · exact absurd rfl (h .tokenEndpoint rfl)
    · rfl

/-- The pace of a shutdown. -/
def shutdown : SectionReader "shutdown" where
  σ := ShutdownSettings
  shape := ShutdownSettings.shape
  fresh := {}
  set := ShutdownSettings.set layeredFormat
  put m s := { s with shutdown := m }
  reads _ _ := return_eq_map _ _
  put_fresh := rfl
  get_put _ _ y := by cases y <;> rfl
  own x _ _ hx := by
    cases x <;> try exact absurd hx (by decide)
    all_goals exact map_return fun _ => funext fun y => by cases y <;> rfl
  other _ _ _ h := by
    unfold ShutdownSettings.set
    split
    · exact absurd rfl (h .warningDelay rfl)
    · exact absurd rfl (h .graceDelay rfl)
    · exact absurd rfl (h .exitPollInterval rfl)
    · rfl

/-- The settings of the console. -/
def control : SectionReader "control" where
  σ := ControlSettings
  shape := ControlSettings.shape
  fresh := {}
  set := ControlSettings.set layeredFormat
  put m s := { s with control := m }
  reads _ _ := return_eq_map _ _
  put_fresh := rfl
  get_put _ _ y := by cases y <;> rfl
  own x _ _ hx := by
    cases x <;> try exact absurd hx (by decide)
    all_goals exact map_return fun _ => funext fun y => by cases y <;> rfl
  other _ _ _ h := by
    unfold ControlSettings.set
    split
    · exact absurd rfl (h .tmuxBinary rfl)
    · exact absurd rfl (h .target rfl)
    · exact absurd rfl (h .pidFile rfl)
    · rfl

/-- The settings of the backups. -/
def backup : SectionReader "backup" where
  σ := BackupSettings
  shape := BackupSettings.shape
  fresh := {}
  set := BackupSettings.set layeredFormat
  put m s := { s with backup := m }
  reads _ _ := return_eq_map _ _
  put_fresh := rfl
  get_put _ _ y := by cases y <;> rfl
  own x _ _ hx := by
    cases x <;> try exact absurd hx (by decide)
    all_goals exact map_return fun _ => funext fun y => by cases y <;> rfl
  other _ _ _ h := by
    unfold BackupSettings.set
    split
    · exact absurd rfl (h .command rfl)
    · exact absurd rfl (h .args rfl)
    · exact absurd rfl (h .scheduledAction rfl)
    · exact absurd rfl (h .preShutdownAction rfl)
    · rfl

/-- The settings of the logs. -/
def logging : SectionReader "logging" where
  σ := LoggingSettings
  shape := LoggingSettings.shape
  fresh := {}
  set := LoggingSettings.set layeredFormat
  put m s := { s with logging := m }
  reads _ _ := return_eq_map _ _
  put_fresh := rfl
  get_put _ _ y := by cases y <;> rfl
  own x _ _ hx := by
    cases x <;> try exact absurd hx (by decide)
    all_goals exact map_return fun _ => funext fun y => by cases y <;> rfl
  other _ _ _ h := by
    unfold LoggingSettings.set
    split
    · exact absurd rfl (h .logFile rfl)
    · rfl

variable {name k : String} {v : Node} {s s' : Settings} (r : SectionReader name)

theorem set_succeeds_iff {m : r.σ} : (∃ m', r.set k v m = .ok m') ↔ Readable name k v := by
  by_cases h : ∃ x : Setting, x.sectionName = name ∧ x.key = k
  · obtain ⟨x, hx, rfl⟩ := h
    have hown := r.own x v m hx
    constructor
    · rintro ⟨m', hm⟩ y - hk
      obtain rfl := Setting.key_injective hk
      rw [hm] at hown
      obtain ⟨e, he, -⟩ := map_eq_ok_iff.mp hown.symm
      exact ⟨e, he⟩
    · intro h
      obtain ⟨e, he⟩ := h x hx rfl
      rw [he] at hown
      obtain ⟨m', hm, -⟩ := map_eq_ok_iff.mp hown
      exact ⟨m', hm⟩
  · have hnone : ∀ x : Setting, x.sectionName = name → x.key ≠ k := fun x hx hk => h ⟨x, hx, hk⟩
    exact ⟨fun _ x hx hk => absurd hk (hnone x hx), fun _ => ⟨m, r.other k v m hnone⟩⟩

/-- A field is read by its own setting, and no other setting of the section changes. -/
theorem set_shows {m m' : r.σ} (h : r.set k v m = .ok m') {y : Setting}
    (hy : y.sectionName = name) :
    (y.key = k → y.reading v = .ok ((r.put m' {}).get y)) ∧
      (y.key ≠ k → (r.put m' {}).get y = (r.put m {}).get y) := by
  by_cases hk : ∃ x : Setting, x.sectionName = name ∧ x.key = k
  · obtain ⟨x, hx, rfl⟩ := hk
    have hown := r.own x v m hx
    rw [h] at hown
    obtain ⟨e, he, hget⟩ := map_eq_ok_iff.mp hown.symm
    have hview : (r.put m' {}).get y = if y = x then e else (r.put m {}).get y :=
      (congrFun hget y).symm
    rw [hview]
    constructor
    · intro hk
      obtain rfl := Setting.key_injective hk
      rw [he, if_pos rfl]
    · intro hk
      rw [if_neg (mt (congrArg Setting.key) hk)]
  · have hnone : ∀ x : Setting, x.sectionName = name → x.key ≠ k := fun x hx hx' => hk ⟨x, hx, hx'⟩
    cases (r.other k v m hnone).symm.trans h
    exact ⟨fun hk => absurd hk (hnone y hy), fun _ => rfl⟩

include r

/-- Whether a section can be read does not depend on what is there already. -/
theorem succeeds_anywhere : (∃ s', Settings.set layeredFormat name v s = .ok s') ↔
    ∃ s', Settings.set layeredFormat name v {} = .ok s' := by
  simp only [r.reads, map_eq_ok_iff]
  constructor <;> rintro ⟨_, m, hm, -⟩ <;> exact ⟨_, m, hm, rfl⟩

theorem succeeds_iff :
    (∃ s', Settings.set layeredFormat name (.table source fs) s = .ok s') ↔
      ∀ f ∈ fs, Readable name f.1 f.2 := by
  have hrecord : (∃ m, layeredFormat.record r.shape r.fresh r.set (.table source fs) = .ok m) ↔
      ∀ f ∈ fs, Readable name f.1 f.2 := record_succeeds_iff _ fun _ _ _ => r.set_succeeds_iff
  rw [← hrecord]
  simp only [r.reads, map_eq_ok_iff]
  constructor
  · rintro ⟨_, m, hm, -⟩
    exact ⟨m, hm⟩
  · rintro ⟨m, hm⟩
    exact ⟨_, m, hm, rfl⟩

/-- A section decides on its settings. -/
theorem shows (hd : (fs.map Prod.fst).Nodup)
    (h : Settings.set layeredFormat name (.table source fs) s = .ok s') {y : Setting}
    (hy : y.sectionName = name) : y.FromSection fs (s'.get y) := by
  rw [r.reads] at h
  obtain ⟨m, hm, rfl⟩ := map_eq_ok_iff.mp h
  rw [r.get_put, if_pos hy]
  have hother (k v m m') (hk : y.key ≠ k) (h : r.set k v m = .ok m') :
      (r.put m' {}).get y = (r.put m {}).get y := (r.set_shows h hy).2 hk
  have hfresh : (r.put r.fresh {}).get y = Settings.get {} y := by rw [r.put_fresh]
  obtain ⟨hsome, hnone⟩ := record_shows (fun m => (r.put m {}).get y) hother hd hm
  refine ⟨fun v hv => ?_, fun h => (hnone h).trans hfresh⟩
  obtain ⟨t, t', ht, heq⟩ := hsome v hv
  rw [heq]
  exact (r.set_shows ht hy).1 rfl

/-- A section leaves the settings of other sections as they are. -/
theorem frame (h : Settings.set layeredFormat name v s = .ok s') {y : Setting}
    (hy : y.sectionName ≠ name) : s'.get y = s.get y := by
  rw [r.reads] at h
  obtain ⟨m, -, rfl⟩ := map_eq_ok_iff.mp h
  rw [r.get_put, if_neg hy]

end SectionReader

theorem Setting.sectionReader (x : Setting) : Nonempty (SectionReader x.sectionName) := by
  cases x <;> first
    | exact ⟨.metadata⟩ | exact ⟨.shutdown⟩ | exact ⟨.control⟩ | exact ⟨.backup⟩ | exact ⟨.logging⟩

/-- A value under the name of a section: a table of its settings. -/
def IsSection (name : String) (v : Node) : Prop :=
  (∃ x : Setting, x.sectionName = name) ∧
    ∃ source fs, v = .table source fs ∧ Fields (InSection name) fs

/-! ## Documents -/

namespace Settings

variable {k : String} {v : Node} {s s' : Settings}

/-- A value under the name of no section does not matter. -/
theorem set_other (h : ∀ x : Setting, x.sectionName ≠ k) (v : Node) (s : Settings) :
    set layeredFormat k v s = .ok s := by
  unfold set
  split
  · exact absurd rfl (h .endpoint)
  · exact absurd rfl (h .warningDelay)
  · exact absurd rfl (h .target)
  · exact absurd rfl (h .command)
  · exact absurd rfl (h .logFile)
  · rfl

theorem set_succeeds_iff : (∃ s', set layeredFormat k v s = .ok s') ↔
    ∃ s', set layeredFormat k v {} = .ok s' := by
  by_cases h : ∃ x : Setting, x.sectionName = k
  · obtain ⟨x, rfl⟩ := h
    obtain ⟨r⟩ := x.sectionReader
    exact r.succeeds_anywhere
  · have hnone : ∀ x : Setting, x.sectionName ≠ k := fun x hx => h ⟨x, hx⟩
    exact ⟨fun _ => ⟨_, set_other hnone v {}⟩, fun _ => ⟨_, set_other hnone v s⟩⟩

/-- A table is read as settings if and only if each of its sections can be. -/
theorem decode_succeeds_iff : (∃ s, decode layeredFormat (.table source fs) = .ok s) ↔
    ∀ f ∈ fs, ∃ s, set layeredFormat f.1 f.2 {} = .ok s :=
  record_succeeds_iff (fun k v => ∃ s, set layeredFormat k v {} = .ok s)
    fun _ _ _ => set_succeeds_iff

/-- What a table is read as: each setting comes from its section alone. -/
theorem decode_shows (hd : (fs.map Prod.fst).Nodup)
    (h : decode layeredFormat (.table source fs) = .ok s) (y : Setting) :
    (∀ {source' fs'}, fs.lookup y.sectionName = some (.table source' fs') →
      (fs'.map Prod.fst).Nodup → y.FromSection fs' (s.get y)) ∧
    (fs.lookup y.sectionName = none → s.get y = get {} y) := by
  obtain ⟨r⟩ := y.sectionReader
  have hother (k v) (s s' : Settings) (hk : y.sectionName ≠ k)
      (h : set layeredFormat k v s = .ok s') : s'.get y = s.get y := by
    by_cases hx : ∃ x : Setting, x.sectionName = k
    · obtain ⟨x, rfl⟩ := hx
      obtain ⟨r⟩ := x.sectionReader
      exact r.frame h hk
    · cases (set_other (fun x hx' => hx ⟨x, hx'⟩) v s).symm.trans h
      rfl
  obtain ⟨hsome, hnone⟩ := record_shows (·.get y) hother hd h
  refine ⟨fun hl hd' => ?_, hnone⟩
  obtain ⟨t, t', ht, heq⟩ := hsome _ hl
  rw [heq]
  exact r.shows hd' ht rfl

end Settings

/-- The fields of a table. -/
def Node.fields (v : Node) : List (String × Node) := v.asTable.2

/-- A table of sections. -/
def IsDocument (root : Node) : Prop := ∃ source fs, root = .table source fs ∧ Fields IsSection fs

/-- The value at the place of a setting. -/
def Node.setting (root : Node) (x : Setting) : Option Node :=
  (root.fields.lookup x.sectionName).bind fun v => v.fields.lookup x.key

/-- The entry at the place of a setting. -/
def Node.shown (root : Node) (x : Setting) : Option Entry := (root.setting x).bind Node.held?

/-- A setting takes whatever is under its key in a section. -/
theorem Fields.takes {name : String} (h : Fields (InSection name) fs) {x : Setting} {v : Node}
    (hv : (x.key, v) ∈ fs) : x.Takes v := by
  obtain ⟨y, -, hk, htakes⟩ := h.each _ hv
  exact Setting.key_injective hk ▸ htakes

/-- A table that can be read as settings: no name comes twice in it or in a section, the sections
are tables, and every setting takes what is at its place. -/
structure Legible (root : Node) : Prop where
  table : ∃ source, root = .table source root.fields
  distinct : (root.fields.map Prod.fst).Nodup
  sections : ∀ (x : Setting) {v}, root.fields.lookup x.sectionName = some v →
    (∃ source, v = .table source v.fields) ∧ (v.fields.map Prod.fst).Nodup
  readable : ∀ (x : Setting) {v}, root.setting x = some v → ∃ e, x.reading v = .ok e

/-- What such a table is read as. -/
theorem Legible.decode {root : Node} (h : Legible root) :
    ∃ s, Settings.decode layeredFormat root = .ok s ∧
      ∀ x, (∀ v, root.setting x = some v → x.reading v = .ok (s.get x)) ∧
        (root.setting x = none → s.get x = Settings.get {} x) := by
  obtain ⟨source, hroot⟩ := h.table
  have hsections : ∀ f ∈ root.fields, ∃ s, Settings.set layeredFormat f.1 f.2 {} = .ok s := by
    rintro ⟨name, v⟩ hf
    by_cases hx : ∃ x : Setting, x.sectionName = name
    · obtain ⟨x, rfl⟩ := hx
      have hv : root.fields.lookup x.sectionName = some v := lookup_of_mem h.distinct hf
      obtain ⟨⟨source', htable⟩, hd⟩ := h.sections x hv
      obtain ⟨r⟩ := x.sectionReader
      rw [htable]
      refine r.succeeds_iff.mpr fun g hg y hy hk => h.readable y ?_
      rw [Node.setting, hy, hv, Option.bind_some, hk]
      exact lookup_of_mem hd hg
    · exact ⟨_, Settings.set_other (fun x hx' => hx ⟨x, hx'⟩) v {}⟩
  have hdecode : ∃ s, Settings.decode layeredFormat root = .ok s := by
    rw [hroot]
    exact Settings.decode_succeeds_iff.mpr hsections
  obtain ⟨s, hs⟩ := hdecode
  refine ⟨s, hs, fun x => ?_⟩
  rw [hroot] at hs
  obtain ⟨hsome, hnone⟩ := Settings.decode_shows h.distinct hs x
  rw [Node.setting]
  cases hv : root.fields.lookup x.sectionName with
  | none =>
    refine ⟨fun v hv' => ?_, fun _ => hnone hv⟩
    cases hv'
  | some v =>
    obtain ⟨⟨source', htable⟩, hd⟩ := h.sections x hv
    rw [htable] at hv
    exact hsome hv hd

theorem IsDocument.takes {root : Node} (h : IsDocument root) {x : Setting} {v : Node}
    (hv : root.setting x = some v) : x.Takes v := by
  obtain ⟨source, fs, rfl, hf⟩ := h
  obtain ⟨w, hw, hv⟩ := Option.bind_eq_some_iff.mp hv
  obtain ⟨-, source', fs', rfl, hf'⟩ := hf.each _ (mem_of_lookup hw)
  exact hf'.takes (mem_of_lookup hv)

theorem IsDocument.legible {root : Node} (h : IsDocument root) : Legible root where
  table := by
    obtain ⟨source, fs, rfl, -⟩ := h
    exact ⟨source, rfl⟩
  distinct := by
    obtain ⟨source, fs, rfl, hf⟩ := h
    exact hf.distinct
  sections x v hv := by
    obtain ⟨source, fs, rfl, hf⟩ := h
    obtain ⟨-, source', fs', rfl, hf'⟩ := hf.each _ (mem_of_lookup hv)
    exact ⟨⟨source', rfl⟩, hf'.distinct⟩
  readable x v hv := ⟨_, (h.takes hv).reading⟩

/-- A table of sections is read setting by setting. -/
theorem Settings.decode_reads {root : Node} (h : IsDocument root) :
    ∃ s, decode layeredFormat root = .ok s ∧ ∀ x, s.get x = (root.shown x).or (get {} x) := by
  obtain ⟨s, hs, hget⟩ := h.legible.decode
  refine ⟨s, hs, fun x => ?_⟩
  obtain ⟨htaken, hdefault⟩ := hget x
  rw [Node.shown]
  cases hv : root.setting x with
  | none => exact hdefault hv
  | some v =>
    have htakes : x.Takes v := h.takes hv
    have hget : v.held? = s.get x := Except.ok.inj (htakes.reading.symm.trans (htaken v hv))
    obtain ⟨e, he, -⟩ := htakes
    rw [Option.bind_some, ← hget, he, Option.some_or]

end DrainGuard
