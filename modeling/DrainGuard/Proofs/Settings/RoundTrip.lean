import Mathlib.Data.List.Nodup
import DrainGuard.Proofs.Settings.Sources

/-!
# Settings survive being written

- **Sections** (`sections_eq`): the document of settings has those that are present, each under its
  section and its key.
- **Contents** (`givesSettings_content`, `inFile_content`): so the document gives each setting what
  it has.
- **Loading** (`load_toToml`): settings that can be written are loaded as they were.
-/

namespace DrainGuard

open Toml (Entry Value Section)

/-- The names of the sections, in the order of the document. -/
def sectionNames : List String := ["metadata", "shutdown", "control", "backup", "logging"]

namespace Settings

variable {c : Settings} {name : String}

/-- The entries of a section: the settings of it that are present. -/
def entriesOf (c : Settings) (name : String) : List (String × Entry) :=
  Setting.all.filterMap fun x =>
    if x.sectionName = name then (c.get x).map fun e => (x.key, e) else none

theorem sections_eq (c : Settings) :
    c.sections = sectionNames.map fun name => ⟨name, c.entriesOf name⟩ := by
  obtain ⟨⟨_, _, _, token⟩, _, ⟨_, _, pid⟩, _, ⟨file⟩⟩ := c
  cases token <;> cases pid <;> cases file <;> rfl

theorem mem_entriesOf {f : String × Entry} : f ∈ c.entriesOf name ↔
    ∃ x : Setting, x.sectionName = name ∧ x.key = f.1 ∧ c.get x = some f.2 := by
  rw [entriesOf, List.mem_filterMap]
  constructor
  · rintro ⟨x, -, h⟩
    split at h
    · next hs =>
      obtain ⟨e, he, rfl⟩ := Option.map_eq_some_iff.mp h
      exact ⟨x, hs, rfl, he⟩
    · cases h
  · rintro ⟨x, hs, hk, he⟩
    refine ⟨x, by cases x <;> decide, ?_⟩
    rw [if_pos hs, he, hk]
    rfl

/-- No two entries of a section have one key, since no two settings have. -/
theorem distinct_entriesOf (c : Settings) (name : String) :
    ((c.entriesOf name).map Prod.fst).Nodup := by
  rw [entriesOf, List.map_filterMap]
  have hall : Setting.all.Nodup := by decide
  refine hall.filterMap fun x y k hx hy => ?_
  have key_of {z : Setting} (h : k ∈ (if z.sectionName = name then
      (c.get z).map fun e => (z.key, e) else none).map Prod.fst) : z.key = k := by
    split at h
    · obtain ⟨f, hf, rfl⟩ := Option.map_eq_some_iff.mp h
      obtain ⟨e, -, rfl⟩ := Option.map_eq_some_iff.mp hf
      rfl
    · cases h
  exact Setting.key_injective ((key_of hx).trans (key_of hy).symm)

theorem lookup_entriesOf (c : Settings) (x : Setting) :
    (c.entriesOf x.sectionName).lookup x.key = c.get x := by
  cases he : c.get x with
  | some e => exact lookup_of_mem (c.distinct_entriesOf _) (mem_entriesOf.mpr ⟨x, rfl, rfl, he⟩)
  | none =>
    refine lookup_eq_none fun hm => ?_
    obtain ⟨f, hf, hk⟩ := List.mem_map.mp hm
    obtain ⟨y, -, hy, hget⟩ := mem_entriesOf.mp hf
    rw [Setting.key_injective (hy.trans hk), he] at hget
    cases hget

/-- The settings whose values are numbers. -/
theorem mem_numbers {x : Setting} {n : Nat} (h : c.get x = some (.number n)) : n ∈ c.numbers := by
  cases x <;> simp_all [get, numbers]

theorem kind_of_get {x : Setting} {e : Entry} (h : c.get x = some e) : e.kind = x.kind := by
  have optional {o : Option String} (h : o.map Entry.text = some e) : e.kind = .text := by
    obtain ⟨s, -, rfl⟩ := Option.map_eq_some_iff.mp h
    rfl
  cases x <;> first | exact optional h | (cases h; rfl)

/-! ## Contents -/

theorem isWord_sectionName (h : name ∈ sectionNames) : Toml.Reader.IsWord name := by
  simp only [sectionNames, List.mem_cons, List.not_mem_nil, or_false] at h
  rcases h with rfl | rfl | rfl | rfl | rfl <;> exact ⟨by decide, List.all_eq_true.mp rfl⟩

theorem isWord_key (x : Setting) : Toml.Reader.IsWord x.key := by
  cases x <;> exact ⟨by decide, List.all_eq_true.mp rfl⟩

theorem exists_sectionName (h : name ∈ sectionNames) : ∃ x : Setting, x.sectionName = name := by
  simp only [sectionNames, List.mem_cons, List.not_mem_nil, or_false] at h
  rcases h with rfl | rfl | rfl | rfl | rfl
  exacts [⟨.endpoint, rfl⟩, ⟨.warningDelay, rfl⟩, ⟨.target, rfl⟩, ⟨.command, rfl⟩, ⟨.logFile, rfl⟩]

theorem mem_sections {s : Section} (h : s ∈ c.sections) :
    ∃ name ∈ sectionNames, s = ⟨name, c.entriesOf name⟩ := by
  rw [sections_eq] at h
  obtain ⟨name, hname, rfl⟩ := List.mem_map.mp h
  exact ⟨name, hname, rfl⟩

/-- Settings whose numbers are in range fit into a document. -/
theorem fits_sections (h : ∀ n ∈ c.numbers, n ≤ 0x7FFFFFFFFFFFFFFF) :
    ∀ s ∈ c.sections, s.Fits := by
  intro s hs
  obtain ⟨name, hname, rfl⟩ := mem_sections hs
  refine ⟨isWord_sectionName hname, fun f hf => ?_, c.distinct_entriesOf name, fun f hf => ?_⟩
  · obtain ⟨x, -, hk, -⟩ := mem_entriesOf.mp hf
    exact hk ▸ isWord_key x
  · obtain ⟨x, -, -, hget⟩ := mem_entriesOf.mp hf
    obtain ⟨k, e⟩ := f
    cases e with
    | number n =>
      have hn := h n (mem_numbers hget)
      show (n : Int) ≤ Toml.maxInteger
      unfold Toml.maxInteger
      omega
    | text _ => trivial
    | texts _ => trivial

theorem held?_toValue (e : Entry) : e.toValue.held? = some e := by
  cases e with
  | text s => rfl
  | number n => simp [Toml.Entry.toValue, Value.held?]
  | texts ss =>
    have hitems : (ss.map Value.text).mapM Value.text? = some ss := by
      rw [List.mapM_map]
      exact List.mapM_pure.trans (congrArg some (List.map_id ss))
    rw [Toml.Entry.toValue, Value.held?, hitems, Option.map_some]

/-- The document of settings holds nothing but settings. -/
theorem givesSettings_content (c : Settings) : GivesSettings (c.sections.map Section.content) := by
  intro f hf
  obtain ⟨s, hs, rfl⟩ := List.mem_map.mp hf
  obtain ⟨name, hname, rfl⟩ := mem_sections hs
  refine ⟨exists_sectionName hname, _, rfl, fun g hg => ?_⟩
  obtain ⟨f, hf, rfl⟩ := List.mem_map.mp hg
  obtain ⟨x, hx, hk, hget⟩ := mem_entriesOf.mp hf
  exact ⟨x, hx, hk, f.2, held?_toValue f.2, kind_of_get hget⟩

/-- The document of settings gives each setting what it has. -/
theorem inFile_content (c : Settings) (x : Setting) :
    x.inFile (c.sections.map Section.content) = c.get x := by
  have hsection : (c.sections.map Section.content).lookup x.sectionName =
      some (.table ((c.entriesOf x.sectionName).map fun f => (f.1, f.2.toValue))) := by
    rw [sections_eq]
    cases x <;> rfl
  have hvalue (es : List (String × Entry)) (k : String) :
      ((es.map fun f => (f.1, f.2.toValue)).lookup k).bind Value.held? = es.lookup k := by
    induction es with
    | nil => rfl
    | cons f es ih =>
      obtain ⟨k', e⟩ := f
      by_cases hk : k = k'
      · simp [hk, held?_toValue]
      · simpa [List.lookup_cons, beq_false_of_ne hk] using ih
  simp only [Setting.inFile, hsection, hvalue, lookup_entriesOf]

/-! ## Loading -/

/-- A setting that is absent has no default that could come back. -/
theorem get_or_default (c : Settings) (x : Setting) : (c.get x).or (get {} x) = c.get x := by
  cases x <;> first | rfl | exact Option.or_none

/-- Settings have a text if their numbers are in range. -/
theorem toToml_eq_ok {text : String} (h : c.toToml = .ok text) :
    (∀ n ∈ c.numbers, n ≤ 0x7FFFFFFFFFFFFFFF) ∧ text = String.ofList (Toml.write c.sections) := by
  unfold toToml at h
  split at h
  · next hall =>
    cases h
    exact ⟨fun n hn => of_decide_eq_true (List.all_eq_true.mp hall n hn), rfl⟩
  · cases h

/-- Settings are written if and only if their numbers have at most 63 bits, and then they are loaded
from the text as they were. -/
theorem load_toToml (c : Settings) :
    ((∃ text, c.toToml = .ok text) ↔
      ∀ n ∈ [c.metadata.pollIntervalSecs, c.metadata.requestTimeoutSecs,
        c.shutdown.warningDelaySecs, c.shutdown.graceDelaySecs, c.shutdown.exitPollIntervalMillis],
        n ≤ 0x7FFFFFFFFFFFFFFF) ∧
    ∀ {text : String}, c.toToml = .ok text → ∀ {read : String → Option (List UInt8)} {path : String}
      {environment : List (String × String)}, ConfigFile.extension? path = some "toml" →
        read path = some (Text.toBytes text) →
        (∀ v ∈ environment, Layer.variablePath? v.1 = none) →
        load read path environment = .ok c := by
  constructor
  · constructor
    · rintro ⟨text, h⟩
      exact (toToml_eq_ok h).1
    · intro h
      refine ⟨_, if_pos (List.all_eq_true.mpr fun n hn => decide_eq_true (h n hn))⟩
  intro text htext read path environment hpath hread henv
  obtain ⟨hnumbers, rfl⟩ := toToml_eq_ok htext
  have hd : (c.sections.map Section.name).Nodup := by
    rw [sections_eq]
    show sectionNames.Nodup
    decide
  have hparse := parse?_bytes (fits_sections hnumbers) hd
  rw [Text.toBytes, String.toList_ofList] at hread
  have hlay {root : Node} (h : IsDocument root) :
      IsDocument (Layer.lay root (Layer.ofEnvironment environment)) ∧
        ∀ x, (Layer.lay root (Layer.ofEnvironment environment)).shown x =
          Option.or none (root.shown x) := by
    rw [ofEnvironment_eq_nil henv]
    exact ⟨h, fun _ => Option.none_or.symm⟩
  obtain ⟨s, hs, hget⟩ := load_reads hpath hread hparse c.givesSettings_content hlay
  rw [hs]
  refine congrArg Except.ok (ext_get fun x => ?_)
  rw [hget, inFile_content, Option.none_or, get_or_default]

/-- Quotes of both kinds, a backslash, line breaks, a control character and a setting that has no
default. -/
theorem load_toToml_quoted :
    let c : Settings :=
      { control := { target := "a \"b\" \x27c\x27\\\n\r\n", pidFile := some "\x01" }
        backup := { args := ["", "\x27\x27\x27", "\"\"\""] } }
    ∃ text, c.toToml = .ok text ∧
      load (fun _ => some (Text.toBytes text)) "/srv/spotguard.toml" [("PATH", "/bin")] =
        .ok c := by
  intro c
  obtain ⟨text, htext⟩ := c.load_toToml.1.mpr (by decide)
  exact ⟨text, htext, c.load_toToml.2 htext (by decide +kernel) rfl (by decide +kernel)⟩

end Settings

end DrainGuard
