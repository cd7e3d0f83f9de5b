import DrainGuard.Proofs.Json.Cut

/-!
# Reading a record, whole or cut off

A record is written over several lines. A reader that asks for its fields by name gets them back,
and fails on every text that stops before the last brace.

- **Values** (`Value.Simple`, `value_simple`, `value_cut`): a whole number or a text.
- **Lines** (`knownFields_line`, `knownFields_cutLine`): the name that begins a line, or a part of
  it.
- **Records** (`record_pretty`, `record_cut`): all lines, or a part of them.
-/

namespace DrainGuard.Json

/-- A text, or a whole number that a reader takes as a whole. -/
inductive Value.Simple : Value → Prop where
  | nat {n : Nat} (h : n ≤ Reader.maxSignificand) : Simple (.nat n)
  | str (s : String) : Simple (.str s)

namespace Reader

variable {α : Type} {l : List Char}

/-! ## Values -/

theorem toList_nat (n : Nat) : (Value.nat n).compact.toList = Nat.toDigits 10 n := by
  rw [← Nat.toList_repr]
  rfl

theorem ne_of_isDigit {c : Char} (hc : c.isDigit = true) (d : Char) (hd : d.isDigit = false) :
    c ≠ d := by
  rintro rfl
  rw [hc] at hd
  cases hd

theorem scalar_digit {c : Char} (hc : c.isDigit = true) :
    scalar c = (do return .num (← number true)) := by
  have hne := ne_of_isDigit hc
  unfold scalar
  rw [if_neg (hne 'n' rfl), if_neg (hne 't' rfl), if_neg (hne 'f' rfl), if_neg (hne '-' rfl),
    if_pos hc]

theorem digit_starts {c : Char} (hc : c.isDigit = true) :
    isGap c = false ∧ ¬(c = '[' ∨ c = '{') := by
  have hne := ne_of_isDigit hc
  simp [isGap, hne ' ' rfl, hne '\n' rfl, hne '\t' rfl, hne '\r' rfl, hne '[' rfl, hne '{' rfl]

/-- A simple value behind blanks is read as it was written. -/
theorem value_simple {v : Value} (hv : v.Simple) {g : List Char} (hg : ∀ ch ∈ g, isGap ch = true)
    (hl : Ends l) (depth : Nat) : Reads (value depth) (g ++ (v.compact.toList ++ l)) v l := by
  refine reads_iff_runs.mpr ?_
  cases hv with
  | nat hn =>
    have hds := numeral_toDigits hn
    have hr := number_reads hds Nat.toDigits_ne_nil hl
    rw [Nat.ofDigitChars_ten_toDigits] at hr
    rw [toList_nat]
    obtain ⟨c, ds, hc⟩ := List.exists_cons_of_ne_nil (Nat.toDigits_ne_nil (n := _) (b := 10))
    rw [hc] at hds hr ⊢
    have hd := hds.digits c List.mem_cons_self
    refine .value_of_scalar hg (digit_starts hd).1 (digit_starts hd).2 (reads_iff_runs.mp ?_) depth
    rw [scalar_digit hd]
    exact hr.bind (.pure _ l)
  | str s =>
    rw [Value.compact, toList_quote, quoteList_append]
    refine .value_of_scalar hg (by decide) (by decide) (reads_iff_runs.mp ?_) depth
    exact .skip_bind ((string_reads s l).bind (.pure (Value.str s) l))

/-- A simple value that stops early is not read, or nothing is left behind it. -/
theorem value_cut {v : Value} (hv : v.Simple) {g p q : List Char} (hg : ∀ ch ∈ g, isGap ch = true)
    (h : p ++ q = g ++ v.compact.toList) (hq : q ≠ []) (depth : Nat) : Spends (value depth) p := by
  have hgap {p : List Char} (hp : ∀ ch ∈ p, isGap ch = true) : Spends (value depth) p := by
    cases depth <;> exact Fails.spends (peekToken_gap hp (failAhead_fails _))
  rcases cut_append h with ⟨r, -, rfl⟩ | ⟨p', rfl, h'⟩
  · exact hgap fun ch hch => hg ch (List.mem_append_left r hch)
  · cases p' with
    | nil => exact hgap (by rwa [List.append_nil])
    | cons c p' =>
      cases hv with
      | nat hn =>
        rw [toList_nat] at h'
        have hds := numeral_toDigits hn
        rw [← h'] at hds
        have hd := hds.digits c List.mem_cons_self
        refine .value_of_scalar hg (digit_starts hd).1 (digit_starts hd).2 ?_ depth
        rw [scalar_digit hd]
        exact (number_cut hds rfl).bind fun _ => (Reads.pure _ []).spends
      | str s =>
        rw [Value.compact, toList_quote] at h'
        obtain ⟨rfl, hs⟩ := List.cons.inj h'
        refine .value_of_scalar hg (by decide) (by decide) ?_ depth
        exact Fails.spends (.skip_bind (Fails.bind (string_cut s hs hq)))

/-! ## Lines -/

/-- What comes before a name: a comma behind other fields, and a line of its own. -/
def lineStart (first : Bool) : List Char := separator first ++ ['\n', ' ', ' ']

/-- The start of a line up to the colon behind its name. -/
def lineHead (first : Bool) (k : String) : List Char :=
  lineStart first ++ '"' :: ((k.toList.flatMap escapeChar ++ ['"']) ++ [':'])

/-- Fields as they are written over several lines. -/
def linesText : Bool → List (String × Value) → List Char
  | _, [] => []
  | first, f :: fs => lineHead first f.1 ++ ((' ' :: f.2.compact.toList) ++ linesText false fs)

/-- What may stand behind a field. -/
def Behind (l : List Char) : Prop := ∀ ch ∈ l.head?, ch = ',' ∨ ch = '\n'

theorem Behind.ends (h : Behind l) : Ends l := by
  intro ch hch
  rcases h ch hch with rfl | rfl <;> decide

theorem linesText_behind (fs : List (String × Value)) (l : List Char) :
    Behind (linesText false fs ++ '\n' :: l) := by
  cases fs with
  | nil =>
    rintro _ ⟨⟩
    exact .inr rfl
  | cons f fs =>
    rintro _ ⟨⟩
    exact .inl rfl

theorem Behind.of_prefix {p q : List Char} (h : Behind (p ++ q)) : Behind p := by
  cases p with
  | nil => rintro _ ⟨⟩
  | cons ch p => exact h

theorem isGap_newline : ∀ ch ∈ ['\n'], isGap ch = true := List.all_eq_true.mp rfl

theorem isGap_lineStart : ∀ ch ∈ ['\n', ' ', ' '], isGap ch = true := List.all_eq_true.mp rfl

theorem moreFields_line (first : Bool) (l : List Char) :
    Reads (moreFields first) (lineStart first ++ '"' :: l) true ('"' :: l) := by
  refine reads_iff_runs.mpr ?_
  cases first with
  | true =>
    refine .peekToken_bind isGap_lineStart (by rintro _ ⟨⟩; rfl) ?_
    exact reads_iff_runs.mp (.pure true _)
  | false =>
    refine .peekToken_bind (g := []) (fun _ h => nomatch h) (by rintro _ ⟨⟩; rfl) (.skip_bind ?_)
    refine .peekToken_bind isGap_lineStart (by rintro _ ⟨⟩; rfl) ?_
    exact reads_iff_runs.mp (.pure true _)

theorem moreFields_close (first : Bool) (l : List Char) :
    Reads (moreFields first) ('\n' :: '}' :: l) false ('}' :: l) := by
  refine reads_iff_runs.mpr (.peekToken_bind isGap_newline (by rintro _ ⟨⟩; rfl) ?_)
  exact reads_iff_runs.mp (.pure false _)

theorem moreFields_gap (first : Bool) (hl : ∀ ch ∈ l, isGap ch = true) :
    Fails (moreFields first) l := peekToken_gap hl (failAhead_fails _)

/-- The start of a line holds no name. -/
theorem moreFields_cut {first : Bool} {p q : List Char} (h : p ++ q = lineStart first) :
    Fails (moreFields first) p := by
  have hgap {p q : List Char} (h : p ++ q = ['\n', ' ', ' ']) : ∀ ch ∈ p, isGap ch = true := by
    intro ch hch
    exact isGap_lineStart ch (h ▸ List.mem_append_left q hch)
  cases first with
  | true => exact moreFields_gap true (hgap h)
  | false =>
    cases p with
    | nil => exact moreFields_gap false fun _ h => nomatch h
    | cons ch p =>
      obtain ⟨rfl, hp⟩ := List.cons.inj h
      refine .peekToken_bind (g := []) (fun _ h => nomatch h) (by rintro _ ⟨⟩; rfl) (.skip_bind ?_)
      exact peekToken_gap (hgap hp) (failAhead_fails _)

section Fields

variable {names : List String} {field : String → Reader α} {acc : List (String × α)} {fuel : Nat}
  {k : String}

/-- The name that begins a line, and the field behind it. -/
theorem knownFields_line {Q : Except Fault (List (String × α)) → List Char → Prop} (first : Bool)
    (hk : k ∈ names) (hnew : acc.lookup k = none)
    (h : Runs (field k >>= fun v => knownFields names field fuel false (acc ++ [(k, v)])) l Q) :
    Runs (knownFields names field (fuel + 1) first acc) (lineHead first k ++ l) Q := by
  have hdup : ¬(acc.lookup k).isSome := by simp [hnew]
  rw [lineHead, List.append_assoc, List.cons_append, List.append_assoc, List.append_assoc]
  refine (moreFields_line first _).runs_bind (.skip_bind ((string_reads k _).runs_bind ?_))
  rw [if_pos hk, if_neg hdup]
  exact (colon_reads l).runs_bind h

/-- The start of a line that stops before the colon. -/
theorem knownFields_cutLine {first : Bool} (hk : k ∈ names) (hnew : acc.lookup k = none)
    {p q : List Char} (h : p ++ q = lineHead first k) (hq : q ≠ []) :
    Fails (knownFields names field (fuel + 1) first acc) p := by
  have hdup : ¬(acc.lookup k).isSome := by simp [hnew]
  rcases cut_append h with ⟨r, -, hp⟩ | ⟨p, rfl, hp⟩
  · exact (moreFields_cut hp).bind
  · cases p with
    | nil => exact (moreFields_cut (q := []) (by simp)).bind
    | cons ch p =>
      obtain ⟨rfl, hp'⟩ := List.cons.inj hp
      refine (moreFields_line first _).bind_fails (.skip_bind ?_)
      rcases cut_append hp' with ⟨r, hr, hs⟩ | ⟨p, rfl, hcolon⟩
      · exact (string_cut k hs hr).bind
      · rw [cut_singleton hcolon hq, List.append_nil]
        refine (string_reads k _).bind_fails ?_
        rw [if_pos hk, if_neg hdup]
        exact Fails.bind (peekToken_gap (fun _ h => nomatch h) (failAhead_fails _))

end Fields

/-! ## Records -/

/-- Fields of different names, each read by `field` as `answer` says, and no further than its last
character. -/
structure Answers (names : List String) (field : String → Reader α) (answer : String × Value → α)
    (fs : List (String × Value)) : Prop where
  known : ∀ f ∈ fs, f.1 ∈ names
  distinct : fs.Pairwise fun f f' => f.1 ≠ f'.1
  reads : ∀ f ∈ fs, ∀ l, Behind l →
    Reads (field f.1) ((' ' :: f.2.compact.toList) ++ l) (answer f) l
  cut : ∀ f ∈ fs, ∀ p q, p ++ q = ' ' :: f.2.compact.toList → q ≠ [] → Spends (field f.1) p

section Records

variable {names : List String} {field : String → Reader α} {answer : String × Value → α}
  {f : String × Value} {fs : List (String × Value)} {acc : List (String × α)} {fuel : Nat}

theorem Answers.tail (h : Answers names field answer (f :: fs)) :
    Answers names field answer fs where
  known f' hf := h.known f' (List.mem_cons_of_mem f hf)
  distinct := (List.pairwise_cons.mp h.distinct).2
  reads f' hf := h.reads f' (List.mem_cons_of_mem f hf)
  cut f' hf := h.cut f' (List.mem_cons_of_mem f hf)

/-- A field that has been read is none of those that are left. -/
theorem Answers.lookup_append (h : Answers names field answer (f :: fs)) (a : α)
    (hnew : ∀ f' ∈ f :: fs, acc.lookup f'.1 = none) :
    ∀ f' ∈ fs, (acc ++ [(f.1, a)]).lookup f'.1 = none := by
  intro f' hf'
  have hne : (f'.1 == f.1) = false :=
    beq_false_of_ne (Ne.symm ((List.pairwise_cons.mp h.distinct).1 f' hf'))
  rw [List.lookup_append, hnew f' (List.mem_cons_of_mem f hf'), List.lookup_cons, hne]
  rfl

/-- The lines that are left are read as they were written. -/
theorem knownFields_lines (h : Answers names field answer fs) (acc : List (String × α))
    (hnew : ∀ f ∈ fs, acc.lookup f.1 = none) (hfuel : fs.length < fuel) (first : Bool)
    (l : List Char) :
    Reads (knownFields names field fuel first acc) (linesText first fs ++ '\n' :: '}' :: l)
      (acc ++ fs.map fun f => (f.1, answer f)) ('}' :: l) := by
  induction fs generalizing fuel first acc with
  | nil =>
    obtain ⟨n, rfl⟩ := Nat.exists_eq_add_one.mpr hfuel
    rw [List.map_nil, List.append_nil]
    exact (moreFields_close first l).bind (.pure acc _)
  | cons f fs ih =>
    obtain ⟨n, rfl⟩ := Nat.exists_eq_add_one.mpr (Nat.zero_lt_of_lt hfuel)
    have hrest := ih h.tail (acc ++ [(f.1, answer f)]) (h.lookup_append (answer f) hnew)
      (Nat.lt_of_succ_lt_succ hfuel) false
    rw [List.append_assoc] at hrest
    rw [linesText, List.append_assoc, List.append_assoc]
    refine reads_iff_runs.mpr (knownFields_line first (h.known f List.mem_cons_self)
      (hnew f List.mem_cons_self) (reads_iff_runs.mp ?_))
    exact (h.reads f List.mem_cons_self _ (linesText_behind fs _)).bind hrest

/-- Lines that stop before the last brace. -/
theorem knownFields_cut (h : Answers names field answer fs) (acc : List (String × α))
    (hnew : ∀ f ∈ fs, acc.lookup f.1 = none) (first : Bool) {p q : List Char}
    (hp : p ++ q = linesText first fs ++ ['\n', '}']) (hq : q ≠ []) (hfuel : p.length < fuel) :
    Fails (knownFields names field fuel first acc) p := by
  induction fs generalizing fuel first acc p with
  | nil =>
    obtain ⟨n, rfl⟩ := Nat.exists_eq_add_one.mpr (Nat.zero_lt_of_lt hfuel)
    refine Fails.bind (moreFields_gap first ?_)
    cases p with
    | nil => exact fun _ h => nomatch h
    | cons ch p =>
      obtain ⟨rfl, hbrace⟩ := List.cons.inj hp
      rw [cut_singleton hbrace hq]
      exact isGap_newline
  | cons f fs ih =>
    obtain ⟨n, rfl⟩ := Nat.exists_eq_add_one.mpr (Nat.zero_lt_of_lt hfuel)
    have hk := h.known f List.mem_cons_self
    have hf := hnew f List.mem_cons_self
    rw [linesText, List.append_assoc, List.append_assoc] at hp
    rcases cut_append hp with ⟨r, hr, hhead⟩ | ⟨p, rfl, hvalue⟩
    · exact knownFields_cutLine hk hf hhead hr
    · rw [List.length_append] at hfuel
      have hpos : 0 < (lineHead first f.1).length := by
        rw [lineHead, List.length_append, List.length_cons]
        omega
      refine knownFields_line first hk hf ?_
      rcases cut_append hvalue with ⟨r, hr, hcut⟩ | ⟨p, rfl, hrest⟩
      · obtain ⟨m, rfl⟩ := Nat.exists_eq_add_one.mpr (show 0 < n by omega)
        refine (h.cut f List.mem_cons_self p r hcut hr).bind_fails fun v => ?_
        exact Fails.bind (moreFields_gap false fun _ h => nomatch h)
      · have hbehind : Behind p := Behind.of_prefix (hrest ▸ linesText_behind fs ['}'])
        rw [List.length_append] at hfuel
        exact (h.reads f List.mem_cons_self p hbehind).bind_fails
          (ih h.tail _ (h.lookup_append (answer f) hnew) false hrest (by omega))

/-- A field as it is written on its line. -/
def line (f : String × Value) : String := "  " ++ quote f.1 ++ ": " ++ f.2.compact

theorem toList_intercalate_line (f : String × Value) (fs : List (String × Value)) :
    '\n' :: (String.intercalate ",\n" ((f :: fs).map line)).toList = linesText true (f :: fs) := by
  induction fs generalizing f with
  | nil => simp [line, linesText, lineHead, lineStart, separator, toList_quote, quoteList]
  | cons f' fs ih =>
    have hnext : linesText false (f' :: fs) = ',' :: linesText true (f' :: fs) := rfl
    rw [List.map_cons, List.map_cons, String.intercalate_cons_cons, ← List.map_cons, linesText,
      hnext, ← ih f']
    simp [line, lineHead, lineStart, separator, toList_quote, quoteList]

theorem toList_pretty (hne : fs ≠ []) :
    (pretty fs).toList = '{' :: (linesText true fs ++ ['\n', '}']) := by
  obtain ⟨f, fs, rfl⟩ := List.exists_cons_of_ne_nil hne
  rw [← toList_intercalate_line]
  simp [pretty, line, Function.comp_def]

/-- A field takes a character at least. -/
theorem length_le_linesText (first : Bool) (fs : List (String × Value)) :
    fs.length ≤ (linesText first fs).length := by
  induction fs generalizing first with
  | nil => exact Nat.zero_le _
  | cons f fs ih =>
    have hfs := ih false
    simp only [linesText, List.length_append, List.length_cons]
    omega

theorem requireAll_reads {found : List (String × α)} (ns : List String)
    (h : ∀ n ∈ ns, (found.lookup n).isSome) : Reads (requireAll found ns) l () l := by
  induction ns with
  | nil => exact .pure () l
  | cons n ns ih =>
    rw [requireAll, if_pos (h n List.mem_cons_self)]
    exact ih fun n' hn' => h n' (List.mem_cons_of_mem n hn')

theorem Reads.placed {r : Reader α} {a : α} {l₁ : List Char} (h : Reads r l a l₁) :
    Reads (placed r) l a l₁ := by
  intro c hc
  obtain ⟨c', hr, hc'⟩ := h c hc
  refine ⟨c', ?_, hc'⟩
  show Reader.placed r c = _
  simp only [Reader.placed, hr]

theorem Fails.placed {r : Reader α} (h : Fails r l) : Fails (placed r) l := by
  intro c hc
  obtain ⟨e, he⟩ := h c hc
  show ∃ e, (Reader.placed r c).1 = .error e
  unfold Reader.placed
  split
  · exact ⟨_, rfl⟩
  · exact ⟨e, he⟩

theorem Fails.closing {inside : Reader α} {ending : Reader Unit} (h : Fails inside l) :
    Fails (closing inside ending) l := by
  intro c hc
  obtain ⟨e, he⟩ := h c hc
  show ∃ e, (Reader.closing inside ending c).1 = .error e
  unfold Reader.closing
  split
  · next hok =>
    rw [hok] at he
    cases he
  · exact ⟨_, rfl⟩

/-- A record is read as it was written, if it has all the fields that are asked for. -/
theorem record_pretty (name : String) (h : Answers names field answer fs) (hne : fs ≠ [])
    (hall : ∀ n ∈ names, ((fs.map fun f => (f.1, answer f)).lookup n).isSome) :
    Reads (record name names field) (pretty fs).toList (fs.map fun f => (f.1, answer f)) [] := by
  rw [toList_pretty hne]
  refine .peekToken_bind (by rintro _ ⟨⟩; rfl) (Reads.placed (.skip_bind ?_))
  refine .get_bind fun c hc => ?_
  have hfuel : fs.length < c.rest.length + 1 := by
    have := length_le_linesText true fs
    rw [hc, List.length_append]
    omega
  have hlines := knownFields_lines h [] (fun _ _ => rfl) hfuel true []
  exact .closing (hlines.bind ((requireAll_reads names hall).bind (.pure _ _))) (objectEnd_reads [])

/-- A record that stops before its last brace is none. -/
theorem record_cut (name : String) (h : Answers names field answer fs) (hne : fs ≠ [])
    {p q : List Char} (hp : p ++ q = (pretty fs).toList) (hq : q ≠ []) :
    Fails (record name names field) p := by
  rw [toList_pretty hne] at hp
  cases p with
  | nil => exact peekToken_gap (fun _ h => nomatch h) (failAhead_fails _)
  | cons ch p =>
    obtain ⟨rfl, hlines⟩ := List.cons.inj hp
    refine .peekToken_bind (g := []) (fun _ h => nomatch h) (by rintro _ ⟨⟩; rfl) ?_
    refine Fails.placed (.skip_bind (.get_bind fun c hc => Fails.closing (Fails.bind ?_)))
    have hfuel : p.length < c.rest.length + 1 := by rw [hc]; exact Nat.lt_succ_self _
    exact knownFields_cut h [] (fun _ _ => rfl) true hlines hq hfuel

end Records

end Reader
end DrainGuard.Json
