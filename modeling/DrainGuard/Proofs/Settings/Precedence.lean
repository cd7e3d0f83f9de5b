import DrainGuard.Proofs.Settings.Sources

/-!
# Environment over file over defaults

- **Sources** (`Sources`): a file that is TOML by its name and gives settings, and an environment
  that gives some, too.
- **Precedence** (`load_precedence`): each setting has what the environment gives it, else what the
  file gives it, else its default. So it depends on its own place in the sources and on nothing
  else.
-/

namespace DrainGuard.Settings

open Toml (Entry Value)

/-- A file that gives the settings in `fields`, and an environment that gives settings. -/
structure Sources (read : String → Option (List UInt8)) (path : String)
    (fields : List (String × Value)) (environment : List (String × String)) : Prop where
  /-- The name of the file says that it is TOML. -/
  toml : ConfigFile.extension? path = some "toml"
  /-- The file is there and can be read. -/
  parsed : ∃ bytes, read path = some bytes ∧
    Toml.parse? (Text.decode (Layer.withoutMark bytes)) = some fields
  /-- The file holds settings. -/
  file : GivesSettings fields
  /-- The variables of the environment that mean settings give them. -/
  given : GivesVariables environment

variable {read : String → Option (List UInt8)} {path : String} {fields : List (String × Value)}
  {environment : List (String × String)}

theorem Sources.loads (h : Sources read path fields environment) :
    ∃ s, load read path environment = .ok s ∧
      ∀ x, s.get x = (x.inEnvironment environment).or ((x.inFile fields).or (get {} x)) := by
  obtain ⟨bytes, hread, hparse⟩ := h.parsed
  exact load_reads h.toml hread hparse h.file fun hroot => lay_environment hroot h.given

/-- Settings are loaded from any sources that give settings. Each has what the environment gives it,
else what the file gives it, else its default, and three have none. Sources that give a setting the
same agree on it, whatever else they give. -/
theorem load_precedence (h : Sources read path fields environment) :
    (∃ s, load read path environment = .ok s ∧
      ∀ x, s.get x = (x.inEnvironment environment).or ((x.inFile fields).or (get {} x))) ∧
    (∀ x, get {} x = none ↔ x = .tokenEndpoint ∨ x = .pidFile ∨ x = .logFile) ∧
    ∀ {read' path' fields' environment'}, Sources read' path' fields' environment' →
      ∀ x : Setting, x.inEnvironment environment' = x.inEnvironment environment →
        x.inFile fields' = x.inFile fields →
        (load read' path' environment').map (get · x) =
          (load read path environment).map (get · x) := by
  obtain ⟨s, hs, hget⟩ := h.loads
  refine ⟨⟨s, hs, hget⟩, fun x => by cases x <;> decide, ?_⟩
  intro read' path' fields' environment' h' x henv hfile
  obtain ⟨s', hs', hget'⟩ := h'.loads
  rw [hs, hs']
  have hsame : s'.get x = s.get x := by rw [hget, hget', henv, hfile]
  exact congrArg Except.ok hsame

/-- A setting from each source and two from both: the environment wins one, and the list of the file
stands as a whole. -/
theorem load_precedence_mixed :
    let sections : List Toml.Section :=
      [⟨"metadata", [("endpoint", .text "http://a/"), ("poll_interval_secs", .number 7)]⟩,
        ⟨"backup", [("args", .texts ["-v", "--all"])]⟩]
    let read (_ : String) := some (Text.encode (Toml.write sections))
    let environment := [("PATH", "/bin"), ("SPOTGUARD_METADATA__POLL_INTERVAL_SECS", "060"),
      ("SPOTGUARD_CONTROL__TARGET", "mc")]
    Sources read "/srv/spotguard.toml" (sections.map Toml.Section.content) environment ∧
      ∃ s, load read "/srv/spotguard.toml" environment = .ok s ∧
        s.get .pollInterval = some (.number 60) ∧ s.get .endpoint = some (.text "http://a/") ∧
        s.get .target = some (.text "mc") ∧ s.get .args = some (.texts ["-v", "--all"]) ∧
        s.get .graceDelay = some (.number 15) ∧ s.get .pidFile = none := by
  intro sections read environment
  have hfits : ∀ s ∈ sections, s.Fits := by
    refine List.forall_mem_cons.mpr ⟨?_, List.forall_mem_singleton.mpr ?_⟩
    · refine ⟨⟨by decide, List.all_eq_true.mp rfl⟩, ?_, by decide, ?_⟩
      · exact List.forall_mem_cons.mpr ⟨⟨by decide, List.all_eq_true.mp rfl⟩,
          List.forall_mem_singleton.mpr ⟨by decide, List.all_eq_true.mp rfl⟩⟩
      · have hseven : ((7 : Nat) : Int) ≤ Toml.maxInteger := by decide
        exact List.forall_mem_cons.mpr ⟨trivial, List.forall_mem_singleton.mpr hseven⟩
    · exact ⟨⟨by decide, List.all_eq_true.mp rfl⟩,
        List.forall_mem_singleton.mpr ⟨by decide, List.all_eq_true.mp rfl⟩, by decide,
        List.forall_mem_singleton.mpr trivial⟩
  have hfile : GivesSettings (sections.map Toml.Section.content) := by
    refine List.forall_mem_cons.mpr ⟨⟨⟨.endpoint, rfl⟩, _, rfl, ?_⟩,
      List.forall_mem_singleton.mpr ⟨⟨.args, rfl⟩, _, rfl, ?_⟩⟩
    · exact List.forall_mem_cons.mpr ⟨⟨.endpoint, rfl, rfl, _, rfl, rfl⟩,
        List.forall_mem_singleton.mpr ⟨.pollInterval, rfl, rfl, _, rfl, rfl⟩⟩
    · exact List.forall_mem_singleton.mpr ⟨.args, rfl, rfl, _, rfl, rfl⟩
  have hvariables : GivesVariables environment := by
    refine ⟨by decide, List.forall_mem_cons.mpr ⟨.inl (by decide +kernel),
      List.forall_mem_cons.mpr ⟨.inr ⟨.pollInterval, by decide +kernel, ?_⟩,
        List.forall_mem_singleton.mpr (.inr ⟨.target, by decide +kernel, ?_⟩)⟩⟩⟩
    · exact ⟨by decide, List.all_eq_true.mp rfl, by decide⟩
    · exact ⟨by decide, by decide, rfl, rfl⟩
  have hsources : Sources read "/srv/spotguard.toml" (sections.map Toml.Section.content)
      environment :=
    ⟨by decide +kernel, ⟨_, rfl, parse?_bytes hfits (by decide)⟩, hfile, hvariables⟩
  obtain ⟨⟨s, hs, hget⟩, -⟩ := load_precedence hsources
  exact ⟨hsources, s, hs, (hget _).trans rfl, (hget _).trans rfl, (hget _).trans rfl,
    (hget _).trans rfl, (hget _).trans rfl, (hget _).trans rfl⟩

end DrainGuard.Settings
