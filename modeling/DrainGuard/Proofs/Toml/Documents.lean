import DrainGuard.Toml.Reader
import DrainGuard.Proofs.Toml.Numbers
import DrainGuard.Proofs.Toml.Texts

/-!
# Documents read back

Sections of entries are written one after the other, and a document of them is read as what it was
written from.

- **Readings** (`Reads r before a after`): from the characters `before`, the reader `r` gives `a`
  and leaves `after`. Readings follow one another (`Reads.bind`).
- **Values** (`entry_reads`): an entry is read as it was written, up to the end of its line.
- **Tables** (`openTable_new`, `addPair_new`): a header that is new opens a table, and a key that is
  new is added to it.
- **Lines** (`Completes`): one line after the other, what is written takes a document from some
  sections to more of them.
- **Documents** (`parse?_write`): the content of what was written.
-/

namespace DrainGuard.Toml

/-- The value of an entry. -/
def Entry.toValue : Entry → Value
  | .text s => .text s
  | .number n => .integer n
  | .texts ss => .array (ss.map .text)

namespace Reader

variable {α β : Type} {l l₁ l₂ : List Char}

/-- From the characters `before`, a reader gives a value and leaves the characters `after`. -/
def Reads (r : Reader α) (before : List Char) (a : α) (after : List Char) : Prop :=
  r before = some (a, after)

/-! ## Steps -/

theorem Reads.pure (a : α) (l : List Char) : Reads (pure a) l a l := rfl

theorem Reads.bind {r : Reader α} {f : α → Reader β} {a : α} {b : β} (h : Reads r l a l₁)
    (hf : Reads (f a) l₁ b l₂) : Reads (r >>= f) l b l₂ := by
  show (r l).bind (fun p => f p.1 p.2) = some (b, l₂)
  rw [h]
  exact hf

theorem bind_none {r : Reader α} {f : α → Reader β} (h : r l = none) : (r >>= f) l = none := by
  show (r l).bind (fun p => f p.1 p.2) = none
  rw [h]
  rfl

theorem Reads.orElse {r r' : Reader α} {a : α} (h : r l = none) (h' : Reads r' l a l₁) :
    Reads (r <|> r') l a l₁ := by
  show (r l <|> r' l) = some (a, l₁)
  rw [h]
  exact h'

theorem Reads.lift {o : Option α} {a : α} (h : o = some a) (l : List Char) :
    Reads (liftM o) l a l := by
  subst h
  rfl

theorem Reads.get_bind {f : List Char → Reader β} {b : β} (h : Reads (f l) l b l₂) :
    Reads (get >>= f) l b l₂ := h

theorem Reads.peek_bind {f : Option Char → Reader β} {b : β} (h : Reads (f l.head?) l b l₂) :
    Reads (peek >>= f) l b l₂ := h

theorem expect_reads (c : Char) (l : List Char) : Reads (expect c) (c :: l) () l := by
  simp [Reads, expect, mark?]

theorem accept_reads (c : Char) (l : List Char) : Reads (accept c) (c :: l) true l := by
  simp [Reads, accept, mark?]

theorem accept_other {c : Char} (h : ∀ d ∈ l.head?, d ≠ c) : Reads (accept c) l false l := by
  cases l with
  | nil => rfl
  | cons d l => simp [Reads, accept, mark?, h d rfl]

theorem gap_reads {g : List Char} (hg : ∀ c ∈ g, isGap c = true)
    (hl : ∀ c ∈ l.head?, isGap c = false) : Reads gap (g ++ l) () l := by
  have hrest : l.dropWhile isGap = l := by
    cases l with
    | nil => rfl
    | cons c l => exact List.dropWhile_cons_of_neg (by simp [hl c rfl])
  show some ((), (g ++ l).dropWhile isGap) = some ((), l)
  rw [List.dropWhile_append_of_pos hg, hrest]

/-- A token comes next: neither a blank nor a comment nor a line break. -/
def Token (l : List Char) : Prop :=
  ∀ c ∈ l.head?, isGap c = false ∧ c ≠ '#' ∧ c ≠ '\n' ∧ c ≠ '\r'

theorem token_cons {c : Char} (h : isGap c = false ∧ c ≠ '#' ∧ c ≠ '\n' ∧ c ≠ '\r')
    (l : List Char) : Token (c :: l) := by
  rintro _ ⟨⟩
  exact h

theorem Token.gap_reads (h : Token l) : Reads gap l () l :=
  Reader.gap_reads (g := []) (fun _ h => nomatch h) fun c hc => (h c hc).1

theorem lineEnd_reads (l : List Char) : Reads lineEnd ('\n' :: l) () l := rfl

/-- Blanks lead to the token behind them. -/
theorem breaks_blanks {g : List Char} (hg : ∀ c ∈ g, isGap c = true) (h : Token l) (fuel : Nat) :
    Reads (breaks (fuel + 1)) (g ++ l) () l := by
  refine (gap_reads hg fun c hc => (h c hc).1).bind (.peek_bind ?_)
  split
  · next c hc =>
    obtain ⟨-, h₁, h₂, h₃⟩ := h c hc
    rw [if_neg (by simp [h₁, h₂, h₃])]
    exact .pure () l
  · exact .pure () l

theorem breaks_token (h : Token l) (fuel : Nat) : Reads (breaks (fuel + 1)) l () l :=
  breaks_blanks (g := []) (fun _ h => nomatch h) h fuel

/-- A line break and blanks lead to the token behind them. -/
theorem breaks_line {g : List Char} (hg : ∀ c ∈ g, isGap c = true) (h : Token l) (fuel : Nat) :
    Reads (breaks (fuel + 2)) ('\n' :: (g ++ l)) () l := breaks_blanks hg h fuel

/-! ## Keys -/

/-- A key that is written without quotes. -/
def IsWord (w : String) : Prop := w ≠ "" ∧ ∀ c ∈ w.toList, isKeyChar c = true

theorem isKeyChar_of_isGap {c : Char} (h : isGap c = true) : isKeyChar c = false := by
  simp only [isGap, Bool.or_eq_true, decide_eq_true_eq] at h
  rcases h with rfl | rfl <;> rfl

theorem isGap_of_isKeyChar {c : Char} (h : isKeyChar c = true) : isGap c = false :=
  Bool.eq_false_iff.mpr fun hg => Bool.false_ne_true ((isKeyChar_of_isGap hg).symm.trans h)

theorem isKeyChar_ne {c d : Char} (hc : isKeyChar c = true) (hd : isKeyChar d = false) : c ≠ d := by
  rintro rfl
  rw [hc] at hd
  cases hd

theorem IsWord.exists_cons {w : String} (hw : IsWord w) :
    ∃ c cs, w.toList = c :: cs ∧ isKeyChar c = true := by
  obtain ⟨c, cs, hcs⟩ := List.exists_cons_of_ne_nil (mt String.toList_eq_nil_iff.mp hw.1)
  exact ⟨c, cs, hcs, hw.2 c (hcs ▸ List.mem_cons_self)⟩

theorem IsWord.head {w : String} (hw : IsWord w) {c : Char} (hc : c ∈ (w.toList ++ l).head?) :
    isKeyChar c = true := by
  obtain ⟨d, cs, hcs, hd⟩ := hw.exists_cons
  rw [hcs] at hc
  cases hc
  exact hd

theorem keyPart_reads {w : String} (hw : IsWord w) (hl : ∀ c ∈ l.head?, isKeyChar c = false) :
    Reads keyPart (w.toList ++ l) w l := by
  have hrest : l.takeWhile isKeyChar = [] ∧ l.dropWhile isKeyChar = l := by
    cases l with
    | nil => exact ⟨rfl, rfl⟩
    | cons c l => simp [hl c rfl]
  have htext : lineText? (w.toList ++ l) = none := by
    unfold lineText?
    split
    · next h => exact absurd (hw.head (congrArg List.head? h)) (by decide)
    · next h => exact absurd (hw.head (congrArg List.head? h)) (by decide)
    · rfl
  simp [Reads, keyPart, htext, List.takeWhile_append_of_pos hw.2, List.dropWhile_append_of_pos hw.2,
    hrest, hw.1]

/-- A key that is a word, with blanks behind it. -/
theorem key_reads {w : String} (hw : IsWord w) {g : List Char} (hg : ∀ c ∈ g, isGap c = true)
    (hl : ∀ c ∈ l.head?, isGap c = false ∧ isKeyChar c = false ∧ c ≠ '.') :
    Reads key (w.toList ++ (g ++ l)) ([], w) l := by
  have hgap : Reads gap (w.toList ++ (g ++ l)) () (w.toList ++ (g ++ l)) :=
    gap_reads (g := []) (fun _ h => nomatch h) fun _ hc => isGap_of_isKeyChar (hw.head hc)
  have hend : ∀ c ∈ (g ++ l).head?, isKeyChar c = false := by
    cases g with
    | nil => exact fun c hc => (hl c hc).2.1
    | cons d g =>
      rintro _ ⟨⟩
      exact isKeyChar_of_isGap (hg d List.mem_cons_self)
  have hparts : Reads (keyParts maxDepth) (w.toList ++ (g ++ l)) [w] l :=
    hgap.bind ((keyPart_reads hw hend).bind
      ((gap_reads hg fun c hc => (hl c hc).1).bind
        ((accept_other fun c hc => (hl c hc).2.2).bind (.pure [w] l))))
  exact hparts.bind (.pure ([], w) l)

/-! ## Values -/

theorem exists_writeText (cs : List Char) :
    ∃ q t, writeText cs = q :: t ∧ (q = '"' ∨ q = '\'') := by
  unfold writeText
  cases Form.ofText cs
  case basic => exact ⟨_, _, rfl, .inl rfl⟩
  case literal => exact ⟨_, _, rfl, .inr rfl⟩
  case block => exact ⟨_, _, rfl, .inl rfl⟩
  case literalBlock => exact ⟨_, _, rfl, .inr rfl⟩

/-- Nothing comes next that would still belong to a text. -/
def Unquoted (l : List Char) : Prop := ∀ c ∈ l.head?, c ≠ '"' ∧ c ≠ '\''

/-- A value that is neither a list nor a table is read at every depth. -/
theorem value_scalar {c : Char} {cs : List Char} {v : Value} (hc : c ≠ '[' ∧ c ≠ '{')
    (h : Reads (scalar c) (c :: cs) v l) (depth : Nat) : Reads (value depth) (c :: cs) v l := by
  cases depth with
  | zero =>
    refine .peek_bind ?_
    show Reads (if c = '[' ∨ c = '{' then failure else scalar c) _ _ _
    rwa [if_neg (by simp [hc])]
  | succ depth =>
    refine .peek_bind ?_
    show Reads (if c = '[' then _ else if c = '{' then _ else scalar c) _ _ _
    rwa [if_neg hc.1, if_neg hc.2]

theorem value_text (s : String) (hl : Unquoted l) (depth : Nat) :
    Reads (value depth) (writeText s.toList ++ l) (.text s) l := by
  obtain ⟨q, t, ht, hq⟩ := exists_writeText s.toList
  have hread : Reads (ofOption text?) (writeText s.toList ++ l) s.toList l :=
    text?_written s.toList hl
  have hscalar : Reads (scalar q) (writeText s.toList ++ l) (.text s) l := by
    rw [scalar, if_pos hq]
    refine hread.bind ?_
    rw [String.ofList_toList]
    exact .pure _ l
  rw [ht] at hscalar ⊢
  exact value_scalar (by rcases hq with rfl | rfl <;> decide) hscalar depth

theorem value_number {n : Nat} (hn : (n : Int) ≤ maxInteger) (depth : Nat) (l : List Char) :
    Reads (value depth) (Nat.toDigits 10 n ++ '\n' :: l) (.integer n) ('\n' :: l) := by
  have h := digits_toDigits n
  have hinteger := integer?_digits (l := l) hn
  have hmoment := moment?_digits (l := l) h
  have hfloat := float?_digits (l := l) n
  obtain ⟨d, ds, hds⟩ := List.exists_cons_of_ne_nil (Nat.toDigits_ne_nil (n := n) (b := 10))
  rw [hds] at h hinteger hmoment hfloat ⊢
  refine value_scalar ⟨h.ne rfl, h.ne rfl⟩ ?_ depth
  have hread : Reads (ofOption integer?) (d :: (ds ++ '\n' :: l)) n ('\n' :: l) := hinteger
  rw [scalar, if_neg (by simp [h.ne (c := '"') rfl, h.ne (c := '\'') rfl]), if_neg (h.ne rfl),
    if_neg (h.ne rfl)]
  exact .orElse (bind_none hmoment) (.orElse (bind_none hfloat) (hread.bind (.pure _ _)))

theorem token_text (s : String) (l : List Char) : Token (writeText s.toList ++ l) := by
  obtain ⟨q, t, ht, hq⟩ := exists_writeText s.toList
  rw [ht]
  exact token_cons (by rcases hq with rfl | rfl <;> decide) _

theorem text_ne_bracket (s : String) (l : List Char) :
    ∀ c ∈ (writeText s.toList ++ l).head?, c ≠ ']' := by
  obtain ⟨q, t, ht, hq⟩ := exists_writeText s.toList
  rw [ht]
  rintro _ ⟨⟩
  rcases hq with rfl | rfl <;> decide

/-- The lines of a list, one for each text, and its closing bracket. -/
def listLines (ss : List String) : List Char :=
  ss.flatMap (fun s => ' ' :: ' ' :: ' ' :: ' ' :: writeText s.toList ++ [',', '\n']) ++ [']']

theorem length_lt_listLines (ss : List String) : ss.length < (listLines ss).length := by
  induction ss with
  | nil => exact Nat.one_pos
  | cons s ss ih =>
    simp only [listLines, List.flatMap_cons, List.length_append, List.length_cons] at ih ⊢
    omega

theorem items_lines (ss : List String) (depth : Nat) {fuel : Nat} (hf : ss.length < fuel)
    (l : List Char) : Reads (items (value depth) fuel) ('\n' :: (listLines ss ++ l))
      (ss.map .text) l := by
  induction ss generalizing fuel with
  | nil =>
    obtain ⟨fuel, rfl⟩ := Nat.exists_eq_add_one.mpr hf
    refine .get_bind ((breaks_line (g := []) (fun _ h => nomatch h)
      (token_cons (by decide) l) _).bind ?_)
    exact (accept_reads ']' l).bind (.pure [] l)
  | cons s ss ih =>
    obtain ⟨fuel, rfl⟩ := Nat.exists_eq_add_one.mpr (Nat.zero_lt_of_lt hf)
    have ih := ih (Nat.lt_of_succ_lt_succ hf)
    have hlines : listLines (s :: ss) ++ l = [' ', ' ', ' ', ' '] ++
        (writeText s.toList ++ ',' :: '\n' :: (listLines ss ++ l)) := by
      simp [listLines]
    rw [hlines]
    refine .get_bind ((breaks_line (List.all_eq_true.mp rfl) (token_text s _) _).bind ?_)
    refine (accept_other (text_ne_bracket s _)).bind ?_
    refine (value_text s (by rintro _ ⟨⟩; decide) depth).bind ?_
    refine .get_bind ((breaks_token (token_cons (by decide) _) _).bind ?_)
    exact (accept_reads ',' _).bind (ih.bind (.pure _ l))

theorem items_one (s : String) (depth fuel : Nat) (l : List Char) :
    Reads (items (value depth) (fuel + 1)) (writeText s.toList ++ ']' :: l) [.text s] l := by
  refine .get_bind ((breaks_token (token_text s _) _).bind ?_)
  refine (accept_other (text_ne_bracket s _)).bind ?_
  refine (value_text s (by rintro _ ⟨⟩; decide) depth).bind ?_
  refine .get_bind ((breaks_token (token_cons (by decide) _) _).bind ?_)
  exact (accept_other (by rintro _ ⟨⟩; decide)).bind ((expect_reads ']' l).bind (.pure _ l))

theorem items_none (depth fuel : Nat) (l : List Char) :
    Reads (items (value depth) (fuel + 1)) (']' :: l) [] l :=
  .get_bind ((breaks_token (token_cons (by decide) l) _).bind
    ((accept_reads ']' l).bind (.pure [] l)))

/-- A list is read from behind its bracket on. -/
theorem value_list {vs : List Value} {depth : Nat} {cs : List Char}
    (h : ∀ fuel, cs.length < fuel → Reads (items (value depth) fuel) cs vs l) :
    Reads (value (depth + 1)) ('[' :: cs) (.array vs) l :=
  .peek_bind ((expect_reads '[' cs).bind (.get_bind ((h _ (Nat.lt_succ_self _)).bind (.pure _ l))))

end Reader

/-- An entry that a document can hold. -/
def Entry.Fits : Entry → Prop
  | .number n => (n : Int) ≤ maxInteger
  | .text _ | .texts _ => True

open Reader

/-- An entry is read as it was written. -/
theorem entry_reads {e : Entry} (he : e.Fits) (depth : Nat) (l : List Char) :
    Reads (value (depth + 1)) (e.write ++ '\n' :: l) e.toValue ('\n' :: l) := by
  match e with
  | .text s => exact value_text s (by rintro _ ⟨⟩; decide) _
  | .number n => exact value_number he _ l
  | .texts [] =>
    refine value_list fun fuel hf => ?_
    obtain ⟨fuel, rfl⟩ := Nat.exists_eq_add_one.mpr (Nat.zero_lt_of_lt hf)
    exact items_none depth fuel _
  | .texts [s] =>
    have hw : Entry.write (.texts [s]) ++ '\n' :: l =
        '[' :: (writeText s.toList ++ ']' :: '\n' :: l) := by
      simp [Entry.write]
    rw [hw]
    refine value_list fun fuel hf => ?_
    obtain ⟨fuel, rfl⟩ := Nat.exists_eq_add_one.mpr (Nat.zero_lt_of_lt hf)
    exact items_one s depth fuel _
  | .texts (s :: t :: ss) =>
    have hw : Entry.write (.texts (s :: t :: ss)) ++ '\n' :: l =
        '[' :: '\n' :: (listLines (s :: t :: ss) ++ '\n' :: l) := by
      simp [Entry.write, listLines]
    rw [hw]
    refine value_list fun fuel hf => items_lines _ depth ?_ _
    have hlen := length_lt_listLines (s :: t :: ss)
    rw [List.length_cons, List.length_append] at hf
    omega

/-- No blank comes in front of an entry. -/
theorem entry_head (e : Entry) (l : List Char) : ∀ c ∈ (e.write ++ l).head?, isGap c = false := by
  match e with
  | .text s => exact fun c hc => (token_text s l c hc).1
  | .number n =>
    intro c hc
    rw [Entry.write, Decimal.head?_append Nat.toDigits_ne_nil] at hc
    have hd := digits_toDigits n c (List.mem_of_mem_head? hc)
    rw [Bool.eq_false_iff]
    intro hg
    simp only [isGap, Bool.or_eq_true, decide_eq_true_eq] at hg
    rcases hg with rfl | rfl <;> cases hd
  | .texts [] | .texts [_] | .texts (_ :: _ :: _) =>
    rintro _ ⟨⟩
    rfl

/-- The line of an entry. -/
def writeLine (f : String × Entry) : List Char :=
  f.1.toList ++ [' ', '=', ' '] ++ f.2.write ++ ['\n']

theorem pair_reads {f : String × Entry} (hw : IsWord f.1) (he : f.2.Fits) (depth : Nat)
    (l : List Char) : Reads (pair (value (depth + 1))) (writeLine f ++ l) (([], f.1), f.2.toValue)
      ('\n' :: l) := by
  have hline : writeLine f ++ l =
      f.1.toList ++ ([' '] ++ '=' :: ([' '] ++ (f.2.write ++ '\n' :: l))) := by
    simp [writeLine]
  rw [hline]
  refine (key_reads hw (List.all_eq_true.mp rfl) (by rintro _ ⟨⟩; decide)).bind ?_
  exact (expect_reads '=' _).bind ((gap_reads (List.all_eq_true.mp rfl) (entry_head f.2 _)).bind
    ((entry_reads he depth l).bind (.pure _ _)))

/-! ## Tables -/

/-- The table of a section. -/
def Section.table (s : Section) : Table :=
  .mk .header (s.entries.map fun f => (f.1, .value f.2.toValue))

/-- A section in the table of a document. -/
def Section.item (s : Section) : String × Item := (s.name, .table s.table)

/-- The table of a document of sections. -/
def documentOf (sections : List Section) : Table := .mk .header (sections.map Section.item)

theorem keys_item (sections : List Section) :
    (sections.map Section.item).map Prod.fst = sections.map Section.name := by
  rw [List.map_map]
  rfl

theorem keys_entries (es : List (String × Entry)) :
    (es.map fun f => (f.1, Item.value f.2.toValue)).map Prod.fst = es.map Prod.fst := by
  rw [List.map_map]
  rfl

/-- A further section comes last. -/
theorem documentOf_append {sections : List Section} {s : Section}
    (h : s.name ∉ sections.map Section.name) :
    documentOf (sections ++ [s]) = (documentOf sections).put s.name s.item.2 := by
  rw [documentOf, List.map_append, Table.put, documentOf, Table.entries,
    setEntry_new (keys_item sections ▸ h)]
  rfl

theorem openTable_new {sections : List Section} {name : String} (path : List String)
    (h : name ∉ sections.map Section.name) :
    openTable [] name ⟨documentOf sections, path⟩ =
      some ⟨documentOf (sections ++ [⟨name, []⟩]), [name]⟩ := by
  have hnone : (documentOf sections).entries.lookup name = none :=
    lookup_eq_none (keys_item sections ▸ h)
  rw [documentOf_append (s := ⟨name, []⟩) h]
  simp [openTable, Table.update, hnone, Section.item, Section.table]

theorem addPath_new {s : Section} {k : String} (e : Entry) (hk : k ∉ s.entries.map Prod.fst) :
    s.table.addPath [] k e.toValue = some (Section.table ⟨s.name, s.entries ++ [(k, e)]⟩) := by
  have hnew : k ∉ s.table.entries.map Prod.fst := keys_entries s.entries ▸ hk
  have horigin : s.table.origin = .header := rfl
  have hput : s.table.put k (.value e.toValue) =
      Section.table ⟨s.name, s.entries ++ [(k, e)]⟩ := by
    rw [Table.put, setEntry_new hnew]
    simp [Section.table, Table.origin, Table.entries]
  simp [Table.addPath, Table.update, Table.add, lookup_eq_none hnew, hput, horigin]

theorem addPair_new {sections : List Section} {s : Section} {k : String} (e : Entry)
    (hs : s.name ∉ sections.map Section.name) (hk : k ∉ s.entries.map Prod.fst) :
    addPair [] k e.toValue ⟨documentOf (sections ++ [s]), [s.name]⟩ =
      some ⟨documentOf (sections ++ [⟨s.name, s.entries ++ [(k, e)]⟩]), [s.name]⟩ := by
  have hlast : (documentOf (sections ++ [s])).entries.lookup s.name = some (.table s.table) := by
    rw [documentOf_append hs]
    exact lookup_setEntry_self s.name _ _
  have hput (t : Section) (ht : t.name = s.name) :
      (documentOf (sections ++ [s])).put s.name (.table t.table) =
        documentOf (sections ++ [t]) := by
    rw [documentOf_append hs, documentOf_append (ht ▸ hs), ht]
    exact congrArg (Table.mk .header) (setEntry_setEntry _ _ _ _)
  simp [addPair, Table.update, hlast, addPath_new e hk, hput ⟨s.name, s.entries ++ [(k, e)]⟩ rfl]

/-! ## Lines -/

/-- The lines `cs` take a document from one state to another, up to their end. -/
def Completes (s : State) (cs : List Char) (t : State) : Prop :=
  ∀ fuel, cs.length < fuel → Reads (lines fuel s) cs t []

theorem completes_nil (s : State) : Completes s [] s := by
  intro fuel hf
  obtain ⟨fuel, rfl⟩ := Nat.exists_eq_add_one.mpr hf
  rfl

variable {s s' t : State} {l : List Char}

theorem Completes.blank (h : Completes s l t) : Completes s ('\n' :: l) t := by
  intro fuel hf
  obtain ⟨fuel, rfl⟩ := Nat.exists_eq_add_one.mpr (Nat.zero_lt_of_lt hf)
  exact h fuel (Nat.lt_of_succ_lt_succ hf)

theorem Completes.header {name : String} (hw : IsWord name) (hs : openTable [] name s = some s')
    (h : Completes s' l t) : Completes s ('[' :: (name.toList ++ ']' :: '\n' :: l)) t := by
  intro fuel hf
  obtain ⟨fuel, rfl⟩ := Nat.exists_eq_add_one.mpr (Nat.zero_lt_of_lt hf)
  have hkey : Reads key (name.toList ++ ']' :: '\n' :: l) ([], name) (']' :: '\n' :: l) :=
    key_reads (g := []) hw (fun _ h => nomatch h) (by rintro _ ⟨⟩; decide)
  have hheader : Reads (Reader.header s) (name.toList ++ ']' :: '\n' :: l) s' l := by
    refine (accept_other fun c hc => isKeyChar_ne (hw.head hc) (by decide)).bind ?_
    exact hkey.bind ((expect_reads ']' _).bind ((lineEnd_reads l).bind (.lift hs l)))
  have hrest : l.length < fuel := by
    simp only [List.length_cons, List.length_append] at hf
    omega
  refine (token_cons (by decide) _).gap_reads.bind (.peek_bind ?_)
  exact (expect_reads '[' _).bind (hheader.bind (h fuel hrest))

theorem Completes.line {f : String × Entry} (hw : IsWord f.1) (he : f.2.Fits)
    (hs : addPair [] f.1 f.2.toValue s = some s') (h : Completes s' l t) :
    Completes s (writeLine f ++ l) t := by
  intro fuel hf
  obtain ⟨fuel, rfl⟩ := Nat.exists_eq_add_one.mpr (Nat.zero_lt_of_lt hf)
  have hrest : l.length < fuel := by
    simp only [writeLine, List.length_cons, List.length_append] at hf
    omega
  have hpair := pair_reads hw he (maxDepth - 1) l
  obtain ⟨c, cs, hcs, hc⟩ := hw.exists_cons
  obtain ⟨rest, hline⟩ : ∃ rest, writeLine f ++ l = c :: rest := by
    simp [writeLine, hcs]
  rw [hline] at hpair ⊢
  have hne {d : Char} (hd : isKeyChar d = false) : c ≠ d := isKeyChar_ne hc hd
  refine (token_cons ⟨isGap_of_isKeyChar hc, hne rfl, hne rfl, hne rfl⟩ _).gap_reads.bind
    (.peek_bind ?_)
  show Reads (if c = '#' ∨ c = '\n' ∨ c = '\r' then _ else if c = '[' then _ else _) _ _ _
  rw [if_neg (by simp [hne (d := '#') rfl, hne (d := '\n') rfl, hne (d := '\r') rfl]),
    if_neg (hne rfl)]
  exact hpair.bind ((lineEnd_reads l).bind ((Reads.lift hs l).bind (h fuel hrest)))

/-- A section that a document can hold. -/
structure Section.Fits (s : Section) : Prop where
  /-- The header needs no quotes. -/
  name : IsWord s.name
  /-- The keys need none either. -/
  keys : ∀ f ∈ s.entries, IsWord f.1
  /-- No key comes twice. -/
  distinct : (s.entries.map Prod.fst).Nodup
  /-- The numbers are in range. -/
  entries : ∀ f ∈ s.entries, f.2.Fits

variable {done sections : List Section}

/-- The lines of the entries `es`, behind those of the entries that the section has. -/
theorem Completes.entries {s : Section} {es : List (String × Entry)}
    (hs : s.name ∉ done.map Section.name) (hw : ∀ f ∈ es, IsWord f.1) (hf : ∀ f ∈ es, f.2.Fits)
    (hd : ((s.entries ++ es).map Prod.fst).Nodup)
    (h : Completes ⟨documentOf (done ++ [⟨s.name, s.entries ++ es⟩]), [s.name]⟩ l t) :
    Completes ⟨documentOf (done ++ [s]), [s.name]⟩ (es.flatMap writeLine ++ l) t := by
  induction es generalizing s with
  | nil => simpa using h
  | cons f es ih =>
    have hnew : f.1 ∉ s.entries.map Prod.fst := by
      simp only [List.map_append, List.map_cons, List.nodup_append] at hd
      exact fun hm => hd.2.2 _ hm _ List.mem_cons_self rfl
    have hsplit : s.entries ++ f :: es = s.entries ++ [f] ++ es := by simp
    rw [List.flatMap_cons, List.append_assoc]
    refine (ih (s := ⟨s.name, s.entries ++ [f]⟩) hs (fun g hg => hw g (List.mem_cons_of_mem f hg))
      (fun g hg => hf g (List.mem_cons_of_mem f hg)) (hsplit ▸ hd) (hsplit ▸ h)).line
        (hw f List.mem_cons_self) (hf f List.mem_cons_self) (addPair_new f.2 hs hnew)

theorem Completes.section {s : Section} (path : List String)
    (hs : s.name ∉ done.map Section.name) (hf : s.Fits)
    (h : Completes ⟨documentOf (done ++ [s]), [s.name]⟩ l t) :
    Completes ⟨documentOf done, path⟩ (s.write ++ l) t := by
  have hwrite : s.write ++ l =
      '[' :: (s.name.toList ++ ']' :: '\n' :: (s.entries.flatMap writeLine ++ l)) := by
    rw [show s.write = '[' :: s.name.toList ++ [']', '\n'] ++ s.entries.flatMap writeLine from rfl]
    simp
  rw [hwrite]
  exact (Completes.entries (s := ⟨s.name, []⟩) hs hf.keys hf.entries hf.distinct h).header hf.name
    (openTable_new path hs)

/-- What is written for sections adds them to a document. -/
theorem completes_write (done : List Section) (path : List String) (hf : ∀ s ∈ sections, s.Fits)
    (hd : ((done ++ sections).map Section.name).Nodup) :
    ∃ path', Completes ⟨documentOf done, path⟩ (write sections)
      ⟨documentOf (done ++ sections), path'⟩ := by
  induction sections generalizing done path with
  | nil =>
    rw [List.append_nil]
    exact ⟨path, completes_nil _⟩
  | cons s sections ih =>
    have hnew : s.name ∉ done.map Section.name := by
      simp only [List.map_append, List.map_cons, List.nodup_append] at hd
      exact fun hm => hd.2.2 _ hm _ List.mem_cons_self rfl
    have hsplit : done ++ s :: sections = done ++ [s] ++ sections := by simp
    obtain ⟨path', ih⟩ := ih (done ++ [s]) [s.name]
      (fun s' hs' => hf s' (List.mem_cons_of_mem s hs')) (hsplit ▸ hd)
    refine ⟨path', ?_⟩
    have hfit := hf s List.mem_cons_self
    rw [hsplit]
    cases sections with
    | nil => simpa [write] using Completes.section path hnew hfit ih
    | cons s' sections =>
      have hwrite : write (s :: s' :: sections) = s.write ++ '\n' :: write (s' :: sections) := by
        simp [write]
      rw [hwrite]
      exact Completes.section path hnew hfit ih.blank

/-! ## Documents -/

/-- The content of a section. -/
def Section.content (s : Section) : String × Value :=
  (s.name, .table (s.entries.map fun f => (f.1, f.2.toValue)))

theorem finish_table (s : Section) : s.table.finish = s.content.2 := by
  have hentries (es : List (String × Entry)) :
      finishEntries (es.map fun f => (f.1, .value f.2.toValue)) =
        es.map fun f => (f.1, f.2.toValue) := by
    induction es with
    | nil => rfl
    | cons f es ih => simp [finishEntries, Item.finish, ih]
  simp [Section.table, Table.finish, hentries, Section.content]

theorem finish_documentOf (sections : List Section) :
    (documentOf sections).finish = .table (sections.map Section.content) := by
  have hentries : finishEntries (sections.map Section.item) = sections.map Section.content := by
    induction sections with
    | nil => rfl
    | cons s sections ih =>
      simp [finishEntries, Section.item, Item.finish, finish_table, ih, Section.content]
  simp [documentOf, Table.finish, hentries]

theorem head_write (sections : List Section) : ∀ c ∈ (write sections).head?, c = '[' := by
  cases sections with
  | nil => rintro _ ⟨⟩
  | cons s sections => cases sections <;> rintro _ ⟨⟩ <;> rfl

/-- A document is read as the sections that it was written from. -/
theorem parse?_write (hf : ∀ s ∈ sections, s.Fits) (hd : (sections.map Section.name).Nodup) :
    parse? (write sections) = some (sections.map Section.content) := by
  obtain ⟨path, h⟩ := completes_write [] [] hf hd
  have hlines : lines ((write sections).length + 1) {} (write sections) =
      some (⟨documentOf sections, path⟩, []) := h _ (Nat.lt_succ_self _)
  have hhead := head_write sections
  have hfinish := finish_documentOf sections
  unfold parse?
  cases hcs : write sections with
  | nil =>
    rw [hcs] at hlines
    simp only [hlines, hfinish, Option.bind_eq_bind, Option.bind_some]
  | cons c cs =>
    rw [hcs] at hlines hhead
    obtain rfl := hhead c rfl
    have hmark : ¬ '['.toNat = 0xFEFF := by decide
    simp only [hlines, hfinish, Option.bind_eq_bind, Option.bind_some, if_neg hmark]

end DrainGuard.Toml
