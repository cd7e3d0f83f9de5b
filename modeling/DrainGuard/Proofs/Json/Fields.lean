import DrainGuard.Proofs.Json.Ignored
import DrainGuard.Proofs.Json.Records

/-!
# Reading a record of any form

A record is read from an object by the names of its fields, in any order and among others, or from a
list by their positions. What is read of it is told by a meaning of the texts of its fields.

- **Meanings** (`Means`): a field is read exactly if the text of its value means something.
- **Fields by name** (`Found`): the known fields of an object, none of them twice. What was found of
  a name is what its only field means (`Found.lookup`).
- **Fields by position** (`Listed`).
- **Records** (`record_gives`, `record_reads`) and **texts** (`whole_gives`, `whole_reads`): a text
  is read exactly if it holds a record and nothing else but blanks.
- **Written objects** (`members_texts`): the members of an object of texts are those texts.
-/

namespace DrainGuard.Json

open Reader (Ends)

/-! ## Strings and blanks -/

theorem Escapes.passes {e : List Char} {c : Char} (h : Escapes e c) {cs : List Char}
    (hcs : Passes cs) : Passes ('\\' :: (e ++ cs)) := by
  cases h with
  | letter h => exact .letter h hcs
  | code h _ => exact .code h hcs
  | pair h h' _ _ =>
    rw [List.cons_append, List.append_assoc]
    exact .code h (.code h' hcs)

/-- A string that is asked for would be passed as well. -/
theorem Spells.passes {cs s : List Char} (h : Spells cs s) : Passes cs := by
  induction h with
  | nil => exact .nil
  | plain hc _ ih => exact .plain hc ih
  | escape he _ ih => exact he.passes ih

theorem Quotes.written {v : List Char} {s : String} : Quotes v s → Written .value v
  | ⟨_, hv, h⟩ => hv ▸ .string h.passes

/-- A reader gives one value only. -/
theorem Reader.Reads.unique {α : Type} {r : Reader α} {l l₁ l₂ : List Char} {a b : α}
    (h : Reads r l a l₁) (h' : Reads r l b l₂) : a = b := by
  obtain ⟨c, hc, -⟩ := h ⟨l, 1, 0⟩ rfl
  obtain ⟨c', hc', -⟩ := h' ⟨l, 1, 0⟩ rfl
  rw [hc] at hc'
  exact Except.ok.inj (Prod.mk.inj hc').1

/-- A string says one text only. -/
theorem Quotes.unique {v : List Char} {s s' : String} (h : Quotes v s) (h' : Quotes v s') :
    s = s' := by
  obtain ⟨cs, rfl, hcs⟩ := h
  obtain ⟨cs', hv, hcs'⟩ := h'
  obtain rfl : cs = cs' := List.append_cancel_right (List.cons.inj hv).2
  exact (Reader.string_spelt hcs []).unique (Reader.string_spelt hcs' [])

theorem Members.append_gap {first : Bool} {cs g : List Char} {ms : List (String × List Char)}
    (h : Members first cs ms) (hg : Gap g) : Members first (cs ++ g) ms := by
  induction h with
  | done first hg' => exact .done first (hg'.append hg)
  | next hb hg' hk hg'' hg''' hv _ ih =>
    simpa using Members.next hb hg' hk hg'' hg''' hv ih

/-! ## Meanings -/

/-- The known fields of an object and their meanings. No name is known twice. -/
inductive Found {α : Type} (names : List String) (M : String → List Char → α → Prop) :
    List (String × List Char) → List (String × α) → Prop where
  | nil : Found names M [] []
  | other {k : String} {v : List Char} {ms : List (String × List Char)} {fs : List (String × α)}
      (hk : k ∉ names) (h : Found names M ms fs) : Found names M ((k, v) :: ms) fs
  | known {k : String} {v : List Char} {a : α} {ms : List (String × List Char)}
      {fs : List (String × α)} (hk : k ∈ names) (hv : M k v a) (hnew : fs.lookup k = none)
      (h : Found names M ms fs) : Found names M ((k, v) :: ms) ((k, a) :: fs)

/-- Fields by position and their meanings, with commas between them. -/
inductive Listed {α : Type} (M : String → List Char → α → Prop) :
    Bool → List String → List Char → List (String × α) → Prop where
  | done (first : Bool) {g : List Char} (hg : Gap g) : Listed M first [] g []
  | next {first : Bool} {b g v cs : List Char} {n : String} {a : α} {ns : List String}
      {fs : List (String × α)} (hb : Comma first b) (hg : Gap g) (hv : M n v a)
      (h : Listed M false ns cs fs) :
      Listed M first (n :: ns) (b ++ (g ++ (v ++ cs))) ((n, a) :: fs)

/-- The text of a record and what its fields mean. -/
inductive IsRecord {α : Type} (names : List String) (M : String → List Char → α → Prop) :
    List Char → List (String × α) → Prop where
  | object {cs : List Char} {ms : List (String × List Char)} {fs : List (String × α)}
      (hcs : Members true cs ms) (hfs : Found names M ms fs)
      (hall : ∀ n ∈ names, (fs.lookup n).isSome) :
      IsRecord names M ('{' :: (cs ++ ['}'])) fs
  | list {cs : List Char} {fs : List (String × α)} (hcs : Listed M true names cs fs) :
      IsRecord names M ('[' :: (cs ++ [']'])) fs

/-- The fields of a name. -/
def named (ms : List (String × List Char)) (n : String) : List (String × List Char) :=
  ms.filter fun m => m.1 = n

theorem Listed.append_gap {α : Type} {M : String → List Char → α → Prop} {first : Bool}
    {ns : List String} {cs g : List Char} {fs : List (String × α)} (h : Listed M first ns cs fs)
    (hg : Gap g) : Listed M first ns (cs ++ g) fs := by
  induction h with
  | done first hg' => exact .done first (hg'.append hg)
  | next hb hg' hv _ ih => simpa using Listed.next hb hg' hv ih

section Found

variable {α : Type} {names : List String} {M : String → List Char → α → Prop}
  {ms : List (String × List Char)} {fs : List (String × α)} {k n : String} {v : List Char}

theorem named_cons_self : named ((n, v) :: ms) n = (n, v) :: named ms n :=
  List.filter_cons_of_pos (by simp)

theorem named_cons_ne (h : k ≠ n) : named ((k, v) :: ms) n = named ms n :=
  List.filter_cons_of_neg (by simpa using h)

/-- What was found of a name is what its only field means. -/
theorem Found.lookup (h : Found names M ms fs) (hn : n ∈ names) :
    (∀ a, fs.lookup n = some a → ∃ v, named ms n = [(n, v)] ∧ M n v a) ∧
    (fs.lookup n = none → named ms n = []) := by
  induction h with
  | nil => exact ⟨nofun, fun _ => rfl⟩
  | @other k v ms fs hk _ ih =>
    have hkn : k ≠ n := fun hkn => hk (hkn.symm ▸ hn)
    rwa [named_cons_ne hkn]
  | @known k v a ms fs hk hv hnew _ ih =>
    by_cases hkn : k = n
    · subst hkn
      rw [named_cons_self, ih.2 hnew, List.lookup_cons_self]
      exact ⟨fun b hb => ⟨v, rfl, Option.some.inj hb ▸ hv⟩, nofun⟩
    · have hlook : ((k, a) :: fs).lookup n = fs.lookup n := by
        rw [List.lookup_cons, beq_false_of_ne (Ne.symm hkn)]
      rwa [named_cons_ne hkn, hlook]

/-- What the only field of a name means is what was found of it. -/
theorem Found.lookup_of_named (h : Found names M ms fs) (hn : n ∈ names)
    (hone : named ms n = [(n, v)]) : ∃ a, fs.lookup n = some a ∧ M n v a := by
  rcases hlook : fs.lookup n with _ | a
  · rw [(h.lookup hn).2 hlook] at hone
    cases hone
  · obtain ⟨v', hone', ha⟩ := (h.lookup hn).1 a hlook
    cases hone.symm.trans hone'
    exact ⟨a, rfl, ha⟩

/-- Fields of which each known name has one at most, with a meaning, can be found. -/
theorem exists_found (h : ∀ n ∈ names, named ms n = [] ∨ ∃ v a, named ms n = [(n, v)] ∧ M n v a) :
    ∃ fs, Found names M ms fs := by
  induction ms with
  | nil => exact ⟨[], .nil⟩
  | cons m ms ih =>
    obtain ⟨k, v⟩ := m
    by_cases hk : k ∈ names
    · -- no other field has the name of the first
      obtain ⟨hnone, a, ha⟩ : named ms k = [] ∧ ∃ a, M k v a := by
        rcases h k hk with hnone | ⟨v', a, hone, ha⟩
        · rw [named_cons_self] at hnone
          cases hnone
        · rw [named_cons_self] at hone
          obtain ⟨hv, hms⟩ := List.cons.inj hone
          exact ⟨hms, a, (Prod.mk.inj hv).2 ▸ ha⟩
      obtain ⟨fs, hfs⟩ := ih fun n hn => by
        by_cases hkn : k = n
        · exact .inl (hkn ▸ hnone)
        · rw [← named_cons_ne hkn]
          exact h n hn
      have hnew : fs.lookup k = none := by
        rcases hlook : fs.lookup k with _ | b
        · rfl
        · obtain ⟨v', hone, -⟩ := (hfs.lookup hk).1 b hlook
          rw [hnone] at hone
          cases hone
      exact ⟨_, .known hk ha hnew hfs⟩
    · obtain ⟨fs, hfs⟩ := ih fun n hn => by
        have hkn : k ≠ n := fun hkn => hk (hkn.symm ▸ hn)
        rw [← named_cons_ne hkn]
        exact h n hn
      exact ⟨fs, .other hk hfs⟩

end Found

namespace Reader

variable {α : Type} {l : List Char}

/-! ## Between fields -/

theorem moreFields_gives (first : Bool) : Gives (moreFields first) l fun more l' =>
    (more = false ∧ ∃ g, Gap g ∧ l = g ++ l') ∨
    (more = true ∧ ∃ b g t, Comma first b ∧ Gap g ∧ l' = '"' :: t ∧ l = b ++ (g ++ l')) := by
  refine .token_cases (fun _ => .failAhead _) fun g c l₁ hg _ hl => .ite (fun _ => ?_) fun _ =>
    .ite (fun hf => .ite (fun hc => ?_) fun _ => .failAhead _) fun hf =>
    .ite (fun hc => .skip_bind ?_) fun _ => .failAhead _
  · exact .pure (.inl ⟨rfl, g, hg, hl⟩)
  · exact .pure (.inr ⟨rfl, [], g, l₁, by simp [Comma, hf], hg, by rw [hc], hl⟩)
  · refine .token_cases (fun _ => .failAhead _) fun g' d l₂ hg' _ hl₁ => .ite (fun hd => ?_)
      fun _ => .ite (fun _ => .failAhead _) fun _ => .failAhead _
    refine .pure (.inr ⟨rfl, g ++ [','], g', l₂, ?_, hg', by rw [hd], ?_⟩)
    · simpa [Comma, hf] using hg
    · rw [hl, hl₁, hc]
      simp

theorem moreFields_done (first : Bool) {g : List Char} (hg : Gap g) (l : List Char) :
    Reads (moreFields first) (g ++ '}' :: l) false ('}' :: l) :=
  .token_bind hg rfl (.pure false _)

theorem moreFields_again {first : Bool} {b g : List Char} (hb : Comma first b) (hg : Gap g)
    (l : List Char) : Reads (moreFields first) (b ++ (g ++ '"' :: l)) true ('"' :: l) := by
  cases first with
  | true =>
    obtain rfl : b = [] := hb
    exact .token_bind hg rfl (.pure true _)
  | false =>
    obtain ⟨g', hg', rfl⟩ : ∃ g', Gap g' ∧ b = g' ++ [','] := hb
    rw [List.append_assoc]
    exact .token_bind hg' rfl (.skip_bind (.token_bind hg rfl (.pure true _)))

theorem moreItems_gives (first : Bool) : Gives (moreItems first) l fun more l' =>
    more = true → ∃ b g, Comma first b ∧ Gap g ∧ l = b ++ (g ++ l') := by
  refine .token_cases (fun _ => .failAhead _) fun g c l₁ hg _ hl => .ite (fun _ => ?_) fun _ =>
    .ite (fun hf => ?_) fun hf => .ite (fun hc => .skip_bind ?_) fun _ => .failAhead _
  · exact .pure nofun
  · exact .pure fun _ => ⟨[], g, by simp [Comma, hf], hg, hl⟩
  · refine .token_cases (fun _ => .failAhead _) fun g' d l₂ hg' _ hl₁ => .ite
      (fun _ => .failAhead _) fun _ => .pure fun _ => ⟨g ++ [','], g', ?_, hg', ?_⟩
    · simpa [Comma, hf] using hg
    · rw [hl, hl₁, hc]
      simp

theorem moreItems_again {first : Bool} {b g : List Char} (hb : Comma first b) (hg : Gap g)
    {c : Char} (hc : Starts c) (l : List Char) :
    Reads (moreItems first) (b ++ (g ++ c :: l)) true (c :: l) := by
  have hclose : ¬c = ']' := hc.close .list
  cases first with
  | true =>
    obtain rfl : b = [] := hb
    refine .token_bind hg hc.gap ?_
    show Reads (if c = ']' then _ else if true then _ else _) _ _ _
    rw [if_neg hclose, if_pos rfl]
    exact .pure true _
  | false =>
    obtain ⟨g', hg', rfl⟩ : ∃ g', Gap g' ∧ b = g' ++ [','] := hb
    rw [List.append_assoc]
    refine .token_bind hg' rfl (.skip_bind (.token_bind hg hc.gap ?_))
    show Reads (if c = ']' then _ else _) _ _ _
    rw [if_neg hclose]
    exact .pure true _

theorem colon_gives : Gives colon l fun _ l' => ∃ g, Gap g ∧ l = g ++ ':' :: l' := by
  refine .token_cases (fun _ => .failAhead _) fun g c l₁ hg _ hl => .ite (fun hc => ?_) fun _ =>
    .failAhead _
  exact .of_reads (.skip c l₁) ⟨g, hg, by rw [hl, hc]⟩

theorem objectEnd_gives : Gives objectEnd l fun _ l' => ∃ g, Gap g ∧ l = g ++ '}' :: l' := by
  refine .token_cases (fun _ => .failAhead _) fun g c l₁ hg _ hl => .ite (fun hc => ?_) fun _ =>
    .ite (fun _ => .failAhead _) fun _ => .failAhead _
  exact .of_reads (.skip c l₁) ⟨g, hg, by rw [hl, hc]⟩

theorem listEnd_gives : Gives listEnd l fun _ l' => ∃ g, Gap g ∧ l = g ++ ']' :: l' := by
  refine .token_cases (fun _ => .failAhead _) fun g c l₁ hg _ hl => .ite (fun hc => ?_) fun _ =>
    .ite (fun _ => .skip_bind ?_) fun _ => .failAhead _
  · exact .of_reads (.skip c l₁) ⟨g, hg, by rw [hl, hc]⟩
  · exact .token_cases (fun _ => .failAhead _) fun _ _ _ _ _ _ =>
      .ite (fun _ => .failAhead _) fun _ => .failAhead _

/-! ## Fields -/

/-- A field is read exactly if the text of its value means something. -/
structure Means (names : List String) (field : String → Reader α)
    (M : String → List Char → α → Prop) : Prop where
  written {k : String} {v : List Char} {a : α} : M k v a → Written .value v
  gives {k : String} (hk : k ∈ names) (l : List Char) : Gives (field k) l fun a l' =>
    ∃ g v, Gap g ∧ M k v a ∧ l = g ++ (v ++ l')
  reads {k : String} {v g : List Char} {a : α} (hk : k ∈ names) (hv : M k v a) (hg : Gap g)
    (l : List Char) (hl : Ends l) : Reads (field k) (g ++ (v ++ l)) a l

section Records

variable {names : List String} {field : String → Reader α} {M : String → List Char → α → Prop}
  {acc fs : List (String × α)} {cs g : List Char} {ms : List (String × List Char)} {first : Bool}

theorem lookup_append_none {a : α} {k n : String} : (acc ++ [(k, a)]).lookup n = none ↔
    acc.lookup n = none ∧ n ≠ k := by
  rw [List.lookup_append, Option.or_eq_none_iff]
  simp [List.lookup_eq_none_iff]

theorem knownFields_gives (hM : Means names field M) (fuel : Nat) (first : Bool)
    (acc : List (String × α)) : Gives (knownFields names field fuel first acc) l fun found l' =>
      ∃ cs ms fs, Members first cs ms ∧ Found names M ms fs ∧ found = acc ++ fs ∧
        (∀ f ∈ fs, acc.lookup f.1 = none) ∧ l = cs ++ l' := by
  induction fuel generalizing first acc l with
  | zero =>
    exact .pure ⟨[], [], [], .done first gap_nil, .nil, (List.append_nil acc).symm, nofun, rfl⟩
  | succ fuel ih =>
    refine (moreFields_gives first).bind fun more l₁ hmore => ?_
    rcases hmore with ⟨rfl, g, hg, hl⟩ | ⟨rfl, b, g, t, hb, hg, rfl, hl⟩
    · exact .pure ⟨g, [], [], .done first hg, .nil, (List.append_nil acc).symm, nofun, hl⟩
    · -- a known name goes to what was found, so the later fields cannot have it again
      refine .skip_bind (string_gives.bind fun k l₂ ⟨name, hname, hl₁⟩ => ?_)
      have hquotes : Quotes ('"' :: (name ++ ['"'])) k := ⟨name, rfl, hname⟩
      refine .ite (fun hk => .ite (fun _ => .complain _) fun hnew => ?_) fun hk => ?_
      · refine colon_gives.bind fun _ l₃ ⟨g', hg', hl₂⟩ => ?_
        refine (hM.gives hk l₃).bind fun a l₄ ⟨g'', v, hg'', hv, hl₃⟩ => ?_
        refine (ih false _).mono fun found l' => ?_
        rintro ⟨cs, ms, fs, hfs, hfound, rfl, hall, hl₄⟩
        have hother : fs.lookup k = none := List.lookup_eq_none_iff.mpr fun f hf =>
          bne_iff_ne.mpr (Ne.symm (lookup_append_none.mp (hall f hf)).2)
        refine ⟨_, _, (k, a) :: fs, .next hb hg hquotes hg' hg'' (hM.written hv) hfs,
          .known hk hv hother hfound, List.append_assoc .., ?_, ?_⟩
        · exact List.forall_mem_cons.mpr ⟨Option.not_isSome_iff_eq_none.mp hnew,
            fun f hf => (lookup_append_none.mp (hall f hf)).1⟩
        · rw [hl, hl₁, hl₂, hl₃, hl₄]
          simp
      · refine colon_gives.bind fun _ l₃ ⟨g', hg', hl₂⟩ => ?_
        refine ignore_gives.bind fun _ l₄ ⟨g'', v, hg'', hv, hl₃⟩ => ?_
        refine (ih false _).mono fun found l' => ?_
        rintro ⟨cs, ms, fs, hfs, hfound, rfl, hall, hl₄⟩
        refine ⟨_, _, fs, .next hb hg hquotes hg' hg'' hv hfs, .other hk hfound, rfl, hall, ?_⟩
        rw [hl, hl₁, hl₂, hl₃, hl₄]
        simp

/-- Nothing before a field, or behind the last, would go on with a number. -/
theorem fields_ends (h : Members false cs ms) (l : List Char) : Ends (cs ++ '}' :: l) := by
  cases h with
  | done _ hg => exact ends_close hg .object
  | next hb =>
    obtain ⟨g, hg, rfl⟩ := hb
    simp only [List.append_assoc, List.singleton_append]
    exact ends_gap hg (by decide)

theorem knownFields_reads (hM : Means names field M) (h : Members first cs ms)
    (hfound : Found names M ms fs) {fuel : Nat} (hfuel : cs.length < fuel)
    (acc : List (String × α)) (hacc : ∀ f ∈ fs, acc.lookup f.1 = none) (l : List Char) :
    Reads (knownFields names field fuel first acc) (cs ++ '}' :: l) (acc ++ fs) ('}' :: l) := by
  induction h generalizing fuel fs acc with
  | done first hg =>
    obtain ⟨n, rfl⟩ := Nat.exists_eq_add_one.mpr (Nat.zero_lt_of_lt hfuel)
    cases hfound
    rw [List.append_nil]
    exact (moreFields_done first hg l).bind (.pure acc _)
  | @next first b g k g' g'' v cs name ms hb hg hk hg' hg'' hv h ih =>
    obtain ⟨n, rfl⟩ := Nat.exists_eq_add_one.mpr (Nat.zero_lt_of_lt hfuel)
    have hn : cs.length < n := by
      simp only [List.length_append, List.length_cons] at hfuel
      omega
    obtain ⟨spelt, rfl, hspelt⟩ := hk
    have hends := fields_ends h l
    simp only [List.append_assoc, List.cons_append, List.nil_append]
    refine (moreFields_again hb hg _).bind (.skip_bind ((string_spelt hspelt _).bind ?_))
    cases hfound with
    | other hname hfound =>
      rw [if_neg hname]
      refine (Reads.token_bind hg' rfl (.skip _ _)).bind ?_
      exact (ignore_written hv hg'' hends).bind (ih hfound hn acc hacc)
    | @known _ _ a _ fs hname hmean hnew hfound =>
      have hdup : ¬(acc.lookup name).isSome :=
        Option.not_isSome_iff_eq_none.mpr (hacc _ List.mem_cons_self)
      have hacc' : ∀ f ∈ fs, (acc ++ [(name, a)]).lookup f.1 = none := fun f hf =>
        lookup_append_none.mpr ⟨hacc f (List.mem_cons_of_mem _ hf),
          (bne_iff_ne.mp (List.lookup_eq_none_iff.mp hnew f hf)).symm⟩
      rw [if_pos hname, if_neg hdup]
      refine (Reads.token_bind hg' rfl (.skip _ _)).bind ?_
      have hrest := ih hfound hn _ hacc'
      rw [List.append_assoc] at hrest
      exact (hM.reads hname hmean hg'' _ hends).bind hrest

theorem positional_gives (hM : Means names field M) (record : String) (total : Nat)
    {ns : List String} (hns : ∀ n ∈ ns, n ∈ names) (taken : Nat) (acc : List (String × α)) :
    Gives (positional record total field ns taken acc) l fun found l' =>
      ∃ cs fs, Listed M (taken = 0) ns cs fs ∧ found = acc ++ fs ∧ l = cs ++ l' := by
  induction ns generalizing taken acc l with
  | nil => exact .pure ⟨[], [], .done _ gap_nil, (List.append_nil acc).symm, rfl⟩
  | cons n ns ih =>
    refine (moreItems_gives _).bind fun more l₁ hmore => .ite (fun hm => ?_) fun _ => .complain _
    obtain ⟨b, g, hb, hg, hl⟩ := hmore hm
    refine (hM.gives (hns n List.mem_cons_self) l₁).bind fun a l₂ ⟨g', v, hg', hv, hl₁⟩ => ?_
    refine (ih (fun n' hn' => hns n' (List.mem_cons_of_mem n hn')) (taken + 1) _).mono ?_
    rintro found l' ⟨cs, fs, hfs, rfl, hl₂⟩
    refine ⟨_, _, .next hb (hg.append hg') hv hfs, List.append_assoc .., ?_⟩
    rw [hl, hl₁, hl₂]
    simp

/-- Nothing before an item, or behind the last, would go on with a number. -/
theorem listed_ends {ns : List String} (h : Listed M false ns cs fs) (l : List Char) :
    Ends (cs ++ ']' :: l) := by
  cases h with
  | done _ hg => exact ends_close hg .list
  | next hb =>
    obtain ⟨g, hg, rfl⟩ := hb
    simp only [List.append_assoc, List.singleton_append]
    exact ends_gap hg (by decide)

theorem positional_reads (hM : Means names field M) (record : String) (total : Nat)
    {ns : List String} (hns : ∀ n ∈ ns, n ∈ names) (taken : Nat)
    (hfirst : first = decide (taken = 0)) (h : Listed M first ns cs fs) (acc : List (String × α))
    (l : List Char) :
    ∃ g, Gap g ∧ Reads (positional record total field ns taken acc) (cs ++ ']' :: l) (acc ++ fs)
      (g ++ ']' :: l) := by
  induction h generalizing taken acc with
  | @done first g hg =>
    rw [List.append_nil]
    exact ⟨g, hg, .pure acc _⟩
  | @next first b g v cs n a ns fs hb hg hv h ih =>
    obtain ⟨c, t, rfl, hc⟩ := value_starts (hM.written hv)
    have hnext : false = decide (taken + 1 = 0) := rfl
    obtain ⟨g', hg', hrest⟩ :=
      ih (fun n' hn' => hns n' (List.mem_cons_of_mem n hn')) (taken + 1) hnext (acc ++ [(n, a)])
    rw [List.append_assoc] at hrest
    refine ⟨g', hg', ?_⟩
    simp only [List.append_assoc, List.cons_append]
    have hitem := hM.reads (hns n List.mem_cons_self) hv gap_nil _ (listed_ends h l)
    refine Reads.bind (a := true) (hfirst ▸ moreItems_again hb hg hc _) ?_
    rw [if_pos rfl]
    exact hitem.bind hrest

end Records

/-! ## Records -/

theorem Gives.trivial (r : Reader α) : Gives r l fun _ _ => True := fun _ _ _ _ => True.intro

theorem Gives.placed {r : Reader α} {P : α → List Char → Prop} (h : Gives r l P) :
    Gives (placed r) l P := by
  intro c hc a ha
  have hr := h c hc a
  revert ha hr
  show (Reader.placed r c).1 = .ok a → ((r.runAt c).1 = .ok a → P a (r.runAt c).2.rest) →
    P a (Reader.placed r c).2.rest
  unfold Reader.placed
  split
  · exact fun h => nomatch h
  · exact fun h hr => hr h

theorem Gives.closing {r : Reader α} {ending : Reader Unit} {P : α → List Char → Prop}
    {Q : List Char → List Char → Prop} (h : Gives r l P)
    (hend : ∀ l, Gives ending l fun _ l' => Q l l') :
    Gives (closing r ending) l fun a l' => ∃ l₁, P a l₁ ∧ Q l₁ l' := by
  intro c hc a ha
  have hr := h c hc
  rcases hrun : r.runAt c with ⟨e | b, c₁⟩
  · have hout : (Reader.closing r ending).runAt c = (.error e, (ending.runAt c₁).2) := by
      show Reader.closing r ending c = _
      simp only [Reader.closing, hrun]
    rw [hout] at ha
    cases ha
  · have hr' := hend c₁.rest c₁ rfl
    rw [hrun] at hr
    rcases hrun' : ending.runAt c₁ with ⟨e | u, c₂⟩
    · have hout : (Reader.closing r ending).runAt c = (.error e, c₂) := by
        show Reader.closing r ending c = _
        simp only [Reader.closing, hrun, hrun']
      rw [hout] at ha
      cases ha
    · have hout : (Reader.closing r ending).runAt c = (.ok b, c₂) := by
        show Reader.closing r ending c = _
        simp only [Reader.closing, hrun, hrun']
      rw [hrun'] at hr'
      rw [hout] at ha ⊢
      cases ha
      exact ⟨c₁.rest, hr _ rfl, hr' u rfl⟩

theorem requireAll_gives (found : List (String × α)) (ns : List String) :
    Gives (requireAll found ns) l fun _ l' => l' = l ∧ ∀ n ∈ ns, (found.lookup n).isSome := by
  induction ns with
  | nil => exact .pure ⟨rfl, nofun⟩
  | cons n ns ih =>
    refine .ite (fun hn => ih.mono fun _ l' ⟨hl, hns⟩ => ⟨hl, ?_⟩) fun _ => .complain _
    exact List.forall_mem_cons.mpr ⟨hn, hns⟩

theorem mismatch_gives (expected : String) (P : α → List Char → Prop) :
    Gives (mismatch expected) l P := by
  refine .placed (.peek_cases (fun _ => .failAhead _) fun c l₁ _ => .ite (fun _ => .complain _)
    fun _ => .ite (fun _ => .complain _) fun _ => ?_)
  exact (Gives.trivial _).bind fun _ _ _ => .complain _

theorem text_gives (expected : String) (meaning : String → Except String α) :
    Gives (text expected meaning) l fun a l' => ∃ g v s, Gap g ∧ Quotes v s ∧ meaning s = .ok a ∧
      l = g ++ (v ++ l') := by
  refine .token_cases (fun _ => .failAhead _) fun g c l₁ hg _ hl => .ite (fun hc => ?_) fun _ =>
    mismatch_gives expected _
  refine .placed (.skip_bind (string_gives.bind fun s l₂ ⟨cs, hcs, hl₁⟩ => ?_))
  split
  · next a ha =>
    refine .pure ⟨g, _, s, hg, ⟨cs, rfl, hcs⟩, ha, ?_⟩
    rw [hl, hc, hl₁]
    simp
  · exact .complain _

theorem text_quoted {expected : String} {meaning : String → Except String α} {v g : List Char}
    {s : String} {a : α} (hv : Quotes v s) (ha : meaning s = .ok a) (hg : Gap g) (l : List Char) :
    Reads (text expected meaning) (g ++ (v ++ l)) a l := by
  obtain ⟨cs, rfl, hcs⟩ := hv
  rw [List.cons_append, List.append_assoc]
  refine .token_bind hg rfl (Reads.placed (.skip_bind ((string_spelt hcs l).bind ?_)))
  rw [ha]
  exact .pure a l

section Records

variable {names : List String} {field : String → Reader α} {M : String → List Char → α → Prop}
  {fs : List (String × α)} {cs g : List Char} {ms : List (String × List Char)}

theorem allFields_gives (hM : Means names field M) (fuel : Nat) :
    Gives (do
      let found ← knownFields names field fuel true []
      requireAll found names
      return found) l fun found l' => ∃ cs ms, Members true cs ms ∧ Found names M ms found ∧
        (∀ n ∈ names, (found.lookup n).isSome) ∧ l = cs ++ l' := by
  refine (knownFields_gives hM fuel true []).bind fun found l₁ hfound => ?_
  obtain ⟨cs, ms, fs, hcs, hfs, rfl, -, hl⟩ := hfound
  exact (requireAll_gives _ names).bind fun _ l₂ ⟨hl₂, hall⟩ =>
    .pure ⟨cs, ms, hcs, hfs, hall, by rw [hl, hl₂]⟩

theorem record_gives (hM : Means names field M) (name : String) :
    Gives (record name names field) l fun found l' => ∃ g r, Gap g ∧ IsRecord names M r found ∧
      l = g ++ (r ++ l') := by
  refine .token_cases (fun _ => .failAhead _) fun g c l₁ hg _ hl => .placed (.ite (fun hc => ?_)
    fun _ => .ite (fun hc => ?_) fun _ => mismatch_gives _ _)
  · refine .skip_bind ((Gives.closing (positional_gives hM name _ (fun _ h => h) 0 [])
      fun _ => listEnd_gives).mono ?_)
    rintro found l' ⟨l₂, ⟨cs, fs, hfs, rfl, hl₁⟩, g', hg', hl₂⟩
    refine ⟨g, _, hg, .list (hfs.append_gap hg'), ?_⟩
    rw [hl, hc, hl₁, hl₂]
    simp
  · refine .skip_bind (.get_bind fun cur _ => (Gives.closing (allFields_gives hM _)
      fun _ => objectEnd_gives).mono ?_)
    rintro found l' ⟨l₂, ⟨cs, ms, hcs, hfs, hall, hl₁⟩, g', hg', hl₂⟩
    refine ⟨g, _, hg, .object (hcs.append_gap hg') hfs hall, ?_⟩
    rw [hl, hc, hl₁, hl₂]
    simp

theorem record_reads (hM : Means names field M) (name : String) {r : List Char}
    (h : IsRecord names M r fs) (hg : Gap g) (l : List Char) :
    Reads (record name names field) (g ++ (r ++ l)) fs l := by
  cases h with
  | @object cs ms fs hcs hfs hall =>
    simp only [List.cons_append, List.append_assoc, List.nil_append]
    refine .token_bind hg rfl (Reads.placed (.skip_bind (.get_bind fun c hc => ?_)))
    have hfuel : cs.length < c.rest.length + 1 := by
      rw [hc, List.length_append]
      omega
    have hfields := knownFields_reads hM hcs hfs hfuel [] (fun _ _ => rfl) l
    exact .closing (hfields.bind ((requireAll_reads names hall).bind (.pure _ _)))
      (objectEnd_reads l)
  | list hcs =>
    simp only [List.cons_append, List.append_assoc, List.nil_append]
    obtain ⟨g', hg', hitems⟩ :=
      positional_reads hM name names.length (fun _ h => h) 0 rfl hcs [] l
    refine .token_bind hg rfl (Reads.placed (.skip_bind ?_))
    exact .closing hitems (.token_bind hg' rfl (.skip ']' l))

end Records

/-! ## Texts -/

theorem whole_gives {r : Reader α} {s : String} {P : α → List Char → Prop}
    (h : Gives r s.toList P) {a : α} (ha : whole r s = .ok a) : ∃ g, Gap g ∧ P a g := by
  refine Gives.result (P := fun a => ∃ g, Gap g ∧ P a g) (h.bind fun a l₁ hP => ?_) ha
  exact .token_cases (fun hg => .pure ⟨l₁, hg, hP⟩) fun _ _ _ _ _ _ => .failAhead _

theorem whole_reads {r : Reader α} {s : String} {a : α} {g : List Char} (hg : Gap g)
    (h : Reads r s.toList a g) : whole r s = .ok a := by
  refine (h.bind (show Reads _ g a [] from ?_)).result
  rw [← List.append_nil g]
  exact reads_iff_runs.mpr
    (.peekToken_bind (gap_iff.mp hg) (by rintro _ ⟨⟩) (reads_iff_runs.mp (.pure a [])))

end Reader

/-! ## Written objects -/

/-- An object of texts has these texts under their names, as it is written. -/
theorem members_texts (first : Bool) (fs : List (String × String)) :
    Members first (Reader.fieldsText first (fs.map fun f => (f.1, Value.str f.2)))
      (fs.map fun f => (f.1, quoteList f.2.toList)) := by
  induction fs generalizing first with
  | nil => exact .done first gap_nil
  | cons f fs ih =>
    have hcomma : Comma first (Reader.separator first) := by
      cases first with
      | true => rfl
      | false => exact ⟨[], gap_nil, rfl⟩
    have hnext := Members.next hcomma gap_nil (quotes_quoteList f.1) gap_nil gap_nil
      (quotes_quoteList f.2).written (ih false)
    simpa [Reader.fieldsText, Reader.fieldText, Value.compact, Reader.toList_quote] using hnext

end DrainGuard.Json
