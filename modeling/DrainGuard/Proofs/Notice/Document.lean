import DrainGuard.Watch.Source
import DrainGuard.Proofs.Json.Fields

/-!
# The document of a notice

Which texts are a notice, told by the grammar of JSON and not by its reader.

- **Documents** (`Announces`): a text says an action and a time, by name or by position.
- **Words** (`ReclaimAction.parse_eq_some_iff`): blanks around an action and its case do not matter.
- **Notices** (`Notice.ofDocument_announced`): a text is a notice exactly if it says a known action
  and a time that exists. Every other text is a fault that goes away by looking again.
-/

namespace DrainGuard

open Json (Gap Quotes Members Listed IsRecord named)
open Json.Reader (Gives Reads Ends Means)

/-- A text that says the action `a` and the time `t`: an object in which both names have exactly one
field, among any others, or a list of the two. Only blanks are around it. -/
inductive Announces (a t : String) : List Char → Prop where
  | object {g cs g' va vt : List Char} {ms : List (String × List Char)} (hg : Gap g) (hg' : Gap g')
      (hcs : Members true cs ms) (ha : named ms "action" = [("action", va)]) (hva : Quotes va a)
      (ht : named ms "time" = [("time", vt)]) (hvt : Quotes vt t) :
      Announces a t (g ++ '{' :: (cs ++ '}' :: g'))
  | list {g g₁ va g₂ g₃ vt g₄ g' : List Char} (hg : Gap g) (hg₁ : Gap g₁) (hva : Quotes va a)
      (hg₂ : Gap g₂) (hg₃ : Gap g₃) (hvt : Quotes vt t) (hg₄ : Gap g₄) (hg' : Gap g') :
      Announces a t
        (g ++ '[' :: (g₁ ++ (va ++ (g₂ ++ ',' :: (g₃ ++ (vt ++ (g₄ ++ ']' :: g')))))))

theorem ReclaimAction.parse_eq_some_iff {word : String} {a : ReclaimAction} :
    ReclaimAction.parse word = some a ↔ Text.lowerAscii (Text.trim word) = a.name := by
  simp only [ReclaimAction.parse]
  constructor
  · intro h
    split_ifs at h <;> cases h <;> assumption
  · intro h
    cases a <;> simp [h, ReclaimAction.name]

namespace Notice

/-- What the text of a field says. -/
def Says (name : String) (v : List Char) (f : Field) : Prop :=
  ∃ s, Quotes v s ∧
    if name = "action" then f = .action s else ∃ m, Rfc3339.parse s = .ok m ∧ f = .time m

theorem field_means (names : List String) : Means names field Says where
  written := fun ⟨_, hs, _⟩ => hs.written
  gives := by
    intro k _ l
    refine .ite (fun hk => ?_) fun hk => ?_
    · refine (Json.Reader.text_gives _ _).mono fun f l' ⟨g, v, s, hg, hs, hf, hl⟩ => ?_
      refine ⟨g, v, hg, ⟨s, hs, ?_⟩, hl⟩
      rw [if_pos hk]
      exact (Except.ok.inj hf).symm
    · refine (Json.Reader.text_gives _ _).mono fun f l' ⟨g, v, s, hg, hs, hf, hl⟩ => ?_
      refine ⟨g, v, hg, ⟨s, hs, ?_⟩, hl⟩
      rw [if_neg hk]
      split at hf
      · next m hm => exact ⟨m, hm, (Except.ok.inj hf).symm⟩
      · cases hf
  reads := by
    rintro k v g f _ ⟨s, hs, hf⟩ hg l _
    unfold field
    split at hf
    · next hk =>
      rw [if_pos hk]
      exact Json.Reader.text_quoted hs (hf ▸ rfl) hg l
    · next hk =>
      obtain ⟨m, hm, rfl⟩ := hf
      rw [if_neg hk]
      refine Json.Reader.text_quoted hs ?_ hg l
      rw [hm]

theorem says_action {v : List Char} {f : Field} :
    Says "action" v f ↔ ∃ a, Quotes v a ∧ f = .action a := by
  simp [Says]

theorem says_time {v : List Char} {f : Field} :
    Says "time" v f ↔ ∃ t, Quotes v t ∧ ∃ m, Rfc3339.parse t = .ok m ∧ f = .time m := by
  simp [Says]

/-- The names of the two fields. -/
abbrev names : List String := ["action", "time"]

theorem forall_names {p : String → Prop} : (∀ n ∈ names, p n) ↔ p "action" ∧ p "time" := by
  simp

/-- What the two fields of a record say. -/
def Tells (fs : List (String × Field)) (a : String) (m : Moment) : Prop :=
  fs.lookup "action" = some (.action a) ∧ fs.lookup "time" = some (.time m)

theorem raw_gives {l : List Char} : Gives raw l fun p l' => ∃ g r fs, Gap g ∧
    IsRecord names Says r fs ∧ Tells fs p.1 p.2 ∧ l = g ++ (r ++ l') := by
  refine (Json.Reader.record_gives (field_means _) _).bind fun fs l₁ ⟨g, r, hg, hr, hl⟩ => ?_
  split
  · next a m ha hm => exact .pure ⟨g, r, fs, hg, hr, ⟨ha, hm⟩, hl⟩
  · exact .complain _

theorem raw_reads {g r : List Char} {fs : List (String × Field)} {a : String} {m : Moment}
    (hg : Gap g) (hr : IsRecord names Says r fs) (ht : Tells fs a m) (l : List Char) :
    Reads raw (g ++ (r ++ l)) (a, m) l := by
  refine (Json.Reader.record_reads (field_means _) _ hr hg l).bind ?_
  rw [ht.1, ht.2]
  exact .pure _ l

theorem announces_of_record {g r g' : List Char} {fs : List (String × Field)} {a : String}
    {m : Moment} (hg : Gap g) (hr : IsRecord names Says r fs) (htells : Tells fs a m)
    (hg' : Gap g') : ∃ t, Announces a t (g ++ (r ++ g')) ∧ Rfc3339.parse t = .ok m := by
  obtain ⟨ha, hm⟩ := htells
  cases hr with
  | object hcs hfs _ =>
    obtain ⟨va, hone, hva⟩ := (hfs.lookup (by simp)).1 _ ha
    obtain ⟨vt, hone', hvt⟩ := (hfs.lookup (by simp)).1 _ hm
    obtain ⟨a', hqa, hfa⟩ := says_action.mp hva
    obtain ⟨t, hqt, m', hm', hfm⟩ := says_time.mp hvt
    cases hfa
    cases hfm
    refine ⟨t, ?_, hm'⟩
    simpa using Announces.object hg hg' hcs hone hqa hone' hqt
  | list hcs =>
    cases hcs with
    | @next _ b g₁ va _ _ f _ _ hb hg₁ hva hcs =>
    cases hcs with
    | @next _ b' g₃ vt g₄ _ f' _ _ hb' hg₃ hvt hcs =>
    cases hcs with
    | done _ hg₄ =>
      obtain rfl : b = [] := hb
      obtain ⟨g₂, hg₂, rfl⟩ := hb'
      obtain ⟨a', hqa, rfl⟩ := says_action.mp hva
      obtain ⟨t, hqt, m', hm', rfl⟩ := says_time.mp hvt
      cases ha
      cases hm
      refine ⟨t, ?_, hm'⟩
      simpa using Announces.list hg hg₁ hqa hg₂ hg₃ hqt hg₄ hg'

theorem record_of_announces {a t : String} {l : List Char} {m : Moment} (h : Announces a t l)
    (hm : Rfc3339.parse t = .ok m) : ∃ g r fs g', Gap g ∧ Gap g' ∧ IsRecord names Says r fs ∧
      Tells fs a m ∧ l = g ++ (r ++ g') := by
  cases h with
  | @object g cs g' va vt ms hg hg' hcs hone hva hone' hvt =>
    have hmeans : ∀ n ∈ names, ∃ v f, named ms n = [(n, v)] ∧ Says n v f :=
      forall_names.mpr ⟨⟨va, _, hone, says_action.mpr ⟨a, hva, rfl⟩⟩,
        ⟨vt, _, hone', says_time.mpr ⟨t, hvt, m, hm, rfl⟩⟩⟩
    obtain ⟨fs, hfs⟩ := Json.exists_found fun n hn => .inr (hmeans n hn)
    obtain ⟨f, hf, hsays⟩ := hfs.lookup_of_named (by simp) hone
    obtain ⟨f', hf', hsays'⟩ := hfs.lookup_of_named (by simp) hone'
    obtain ⟨a', hqa, rfl⟩ := says_action.mp hsays
    obtain ⟨t', hqt, m', hm', rfl⟩ := says_time.mp hsays'
    cases hqa.unique hva
    cases hqt.unique hvt
    cases hm'.symm.trans hm
    have hall : ∀ n ∈ names, (fs.lookup n).isSome :=
      forall_names.mpr ⟨Option.isSome_of_eq_some hf, Option.isSome_of_eq_some hf'⟩
    exact ⟨g, _, fs, g', hg, hg', .object hcs hfs hall, ⟨hf, hf'⟩, by simp⟩
  | @list g g₁ va g₂ g₃ vt g₄ g' hg hg₁ hva hg₂ hg₃ hvt hg₄ hg' =>
    have hlast : Listed Says false ["time"] _ _ :=
      .next (v := vt) ⟨g₂, hg₂, rfl⟩ hg₃ (says_time.mpr ⟨t, hvt, m, hm, rfl⟩) (.done false hg₄)
    have hboth : Listed Says true names _ _ :=
      .next (b := []) (v := va) rfl hg₁ (says_action.mpr ⟨a, hva, rfl⟩) hlast
    exact ⟨g, _, _, g', hg, hg', .list hboth, ⟨rfl, rfl⟩, by simp⟩

/-- What the reader of the two fields gives for a text that it takes to its end. -/
theorem whole_raw_eq_ok_iff {body : String} {a : String} {m : Moment} :
    Json.Reader.whole raw body = .ok (a, m) ↔
      ∃ t, Announces a t body.toList ∧ Rfc3339.parse t = .ok m := by
  constructor
  · intro h
    obtain ⟨g', hg', g, r, fs, hg, hr, ht, hbody⟩ := Json.Reader.whole_gives raw_gives h
    rw [hbody]
    exact announces_of_record hg hr ht hg'
  · rintro ⟨t, h, hm⟩
    obtain ⟨g, r, fs, g', hg, hg', hr, ht, hbody⟩ := record_of_announces h hm
    exact Json.Reader.whole_reads hg' (hbody ▸ raw_reads hg hr ht g')

theorem parse_eq_ok_iff {body : String} {n : Notice} : parse body = .ok n ↔
    ∃ a t, Announces a t body.toList ∧ ReclaimAction.parse a = some n.action ∧
      Rfc3339.parse t = .ok n.scheduled := by
  unfold parse
  constructor
  · intro h
    split at h
    · cases h
    · next a m hok =>
      split at h
      · next act hact =>
        cases h
        obtain ⟨t, ht, hm⟩ := whole_raw_eq_ok_iff.mp hok
        exact ⟨a, t, ht, hact, hm⟩
      · cases h
  · rintro ⟨a, t, ht, hact, hm⟩
    rw [whole_raw_eq_ok_iff.mpr ⟨t, ht, hm⟩]
    simp only [hact]

theorem ofDocument_eq_ok_iff {body : String} {n : Notice} : ofDocument body = .ok n ↔
    ∃ a t, Announces a t body.toList ∧ ReclaimAction.parse a = some n.action ∧
      Rfc3339.parse t = .ok n.scheduled := by
  rw [← parse_eq_ok_iff]
  unfold ofDocument
  split
  · next n' hn' => rw [hn', Except.ok.injEq, Except.ok.injEq]
  · next f hf =>
    rw [hf]
    exact ⟨nofun, nofun⟩

/-- A document is a notice exactly if it announces a known action and a time that exists. Whatever
else it is, it is a fault of the document, which the poll loop takes for "no notice". -/
theorem ofDocument_announced (body : String) :
    (∀ n, ofDocument body = .ok n ↔ ∃ a t, Announces a t body.toList ∧
      Text.lowerAscii (Text.trim a) = n.action.name ∧ Rfc3339.parse t = .ok n.scheduled) ∧
    ((∃ n, ofDocument body = .ok n) ∨ ∃ m, ofDocument body = .error (.metadataParse m) ∧
      (Failure.metadataParse m).isTransient) := by
  constructor
  · intro n
    simp only [← ReclaimAction.parse_eq_some_iff]
    exact ofDocument_eq_ok_iff
  · unfold ofDocument
    split
    · exact .inl ⟨_, rfl⟩
    · exact .inr ⟨_, rfl, rfl⟩

end Notice

end DrainGuard
