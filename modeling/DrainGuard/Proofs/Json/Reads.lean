import DrainGuard.Json.Reader
import DrainGuard.Json.Writer

/-!
# Reading what was written

What a reader makes of a text, told by the characters before and after it. The place of the cursor
does not matter as long as nothing goes wrong.

- **Runs** (`Runs r before Q`): from the characters `before`, what the reader `r` ends with and what
  it leaves are as `Q` says. Runs follow one another (`Runs.bind`), and blanks before a token do not
  count (`Runs.peekToken_bind`).
- **Readings** (`Reads r before a after`): from the characters `before`, the reader `r` gives `a`
  and leaves `after`. Readings follow one another (`Reads.bind`).
- **Strings** (`string_reads`): a text that was escaped is read as it was, whatever its characters.
- **Objects** (`fields_reads`): fields that were written in the order of their keys are read as they
  were.
- **Texts** (`parse_compact`): an object of plain values is what its text is parsed to.
-/

namespace DrainGuard.Json

/-- A value that is neither a number nor made of other values. -/
inductive Value.Plain : Value → Prop where
  | null : Plain .null
  | bool (b : Bool) : Plain (.bool b)
  | str (s : String) : Plain (.str s)

section Insert

variable {α : Type} {fs : List (String × α)} {k : String}

/-- A key that comes before all others is put first. -/
theorem insertField_first (v : α) (h : ∀ f ∈ fs, k < f.1) : insertField k v fs = (k, v) :: fs := by
  cases fs with
  | nil => rfl
  | cons f fs =>
    have hf := h f List.mem_cons_self
    have hne : k ≠ f.1 := fun e => String.lt_irrefl k (e ▸ hf)
    rw [insertField, if_neg hne, if_pos hf]

/-- A key that comes after all others is put last. -/
theorem insertField_last (v : α) (h : ∀ f ∈ fs, f.1 < k) : insertField k v fs = fs ++ [(k, v)] := by
  induction fs with
  | nil => rfl
  | cons f fs ih =>
    have hf := h f List.mem_cons_self
    have hne : k ≠ f.1 := fun e => String.lt_irrefl k (e ▸ hf)
    rw [insertField, if_neg hne, if_neg (String.lt_asymm hf),
      ih fun f' hf' => h f' (List.mem_cons_of_mem f hf')]
    rfl

end Insert

namespace Reader

variable {α β : Type}

/-- From the characters `before`, what a reader ends with and the characters that it leaves are as
`Q` says. -/
def Runs (r : Reader α) (before : List Char) (Q : Except Fault α → List Char → Prop) : Prop :=
  ∀ c : Cursor, c.rest = before → Q (r.runAt c).1 (r.runAt c).2.rest

/-- From the characters `before`, a reader gives a value and leaves the characters `after`. -/
def Reads (r : Reader α) (before : List Char) (a : α) (after : List Char) : Prop :=
  ∀ c : Cursor, c.rest = before → ∃ c', r.runAt c = (.ok a, c') ∧ c'.rest = after

theorem reads_iff_runs {r : Reader α} {l l₁ : List Char} {a : α} :
    Reads r l a l₁ ↔ Runs r l fun x l' => x = .ok a ∧ l' = l₁ := by
  constructor
  · intro h c hc
    obtain ⟨c', hr, hc'⟩ := h c hc
    rw [hr]
    exact ⟨rfl, hc'⟩
  · intro h c hc
    obtain ⟨hx, hl⟩ := h c hc
    exact ⟨(r.runAt c).2, Prod.ext hx rfl, hl⟩

/-! ## Steps -/

/-- Passing blanks leads to the character behind them. -/
theorem skipGap_rest {g l : List Char} {n : Nat} {c : Cursor} (hc : c.rest = g ++ l)
    (hg : ∀ ch ∈ g, isGap ch = true) (hl : ∀ ch ∈ l.head?, isGap ch = false) (hn : g.length ≤ n) :
    (skipGap n c).rest = l := by
  induction n generalizing g c with
  | zero =>
    rw [List.length_eq_zero_iff.mp (Nat.le_zero.mp hn)] at hc
    exact hc
  | succ n ih =>
    cases g with
    | nil =>
      cases l with
      | nil => simp [skipGap, hc]
      | cons ch l => simp [skipGap, hc, hl ch rfl]
    | cons ch g =>
      have hc' : c.advance.rest = g ++ l := by rw [c.advance_rest, hc]; rfl
      simp only [skipGap, hc, List.cons_append, hg ch List.mem_cons_self, ↓reduceIte]
      exact ih hc' (fun d hd => hg d (List.mem_cons_of_mem ch hd)) (Nat.le_of_succ_le_succ hn)

namespace Runs

variable {l l₁ : List Char} {a : α} {Q : Except Fault α → List Char → Prop}

theorem bind {r : Reader β} {f : β → Reader α} {P : Except Fault β → List Char → Prop}
    (h : Runs r l P) (hok : ∀ b l', P (.ok b) l' → Runs (f b) l' Q)
    (herr : ∀ e l', P (.error e) l' → Q (.error e) l') : Runs (r >>= f) l Q := by
  intro c hc
  have hp := h c hc
  rw [show runAt (r >>= f) c = ExceptT.bindCont f (r.runAt c).1 (r.runAt c).2 from rfl]
  cases hx : (r.runAt c).1 with
  | ok b =>
    rw [hx] at hp
    exact hok b _ hp _ rfl
  | error e =>
    rw [hx] at hp
    exact herr e _ hp

theorem get_bind {f : Cursor → Reader α} (h : ∀ c : Cursor, c.rest = l → Runs (f c) l Q) :
    Runs (get >>= f) l Q := fun c hc => h c hc c hc

theorem set_bind {c : Cursor} {f : PUnit → Reader α} (hc : c.rest = l₁) (h : Runs (f ⟨⟩) l₁ Q) :
    Runs (set c >>= f) l Q := fun _ _ => h c hc

theorem peek_bind {f : Option Char → Reader α} (h : Runs (f l.head?) l Q) :
    Runs (peek >>= f) l Q := by
  rintro c rfl
  exact h c rfl

theorem skip_bind {ch : Char} {f : Unit → Reader α} (h : Runs (f ()) l Q) :
    Runs (skip >>= f) (ch :: l) Q :=
  fun c hc => h c.advance (by rw [c.advance_rest, hc, List.tail_cons])

/-- The next token is behind the blanks that come first. -/
theorem peekToken_bind {g : List Char} {f : Option Char → Reader α} (hg : ∀ ch ∈ g, isGap ch = true)
    (hl : ∀ ch ∈ l.head?, isGap ch = false) (h : Runs (f l.head?) l Q) :
    Runs (peekToken >>= f) (g ++ l) Q := by
  intro c hc
  have hrest : (skipGap c.rest.length c).rest = l :=
    skipGap_rest hc hg hl (by rw [hc, List.length_append]; omega)
  have hf : runAt (peekToken >>= f) c =
      (f (skipGap c.rest.length c).rest.head?).runAt (skipGap c.rest.length c) := rfl
  rw [hf, hrest]
  exact h _ hrest

end Runs

namespace Reads

variable {l l₁ l₂ : List Char} {a : α} {b : β}

theorem pure (a : α) (l : List Char) : Reads (Pure.pure a) l a l := fun c hc => ⟨c, rfl, hc⟩

/-- A reading, and whatever comes after it. -/
theorem runs_bind {r : Reader α} {f : α → Reader β} {Q : Except Fault β → List Char → Prop}
    (h : Reads r l a l₁) (hf : Runs (f a) l₁ Q) : Runs (r >>= f) l Q := by
  refine (reads_iff_runs.mp h).bind ?_ ?_
  · rintro _ _ ⟨⟨⟩, rfl⟩
    exact hf
  · rintro _ _ ⟨⟨⟩, -⟩

theorem bind {r : Reader α} {f : α → Reader β} (h : Reads r l a l₁) (hf : Reads (f a) l₁ b l₂) :
    Reads (r >>= f) l b l₂ :=
  reads_iff_runs.mpr (h.runs_bind (reads_iff_runs.mp hf))

theorem get_bind {f : Cursor → Reader α} (h : ∀ c : Cursor, c.rest = l → Reads (f c) l a l₁) :
    Reads (get >>= f) l a l₁ := fun c hc => h c hc c hc

theorem set_bind {c : Cursor} {f : PUnit → Reader α} (hc : c.rest = l₁)
    (h : Reads (f ⟨⟩) l₁ a l₂) : Reads (set c >>= f) l a l₂ := fun _ _ => h c hc

theorem peek_bind {f : Option Char → Reader α} (h : Reads (f l.head?) l a l₁) :
    Reads (peek >>= f) l a l₁ :=
  reads_iff_runs.mpr (.peek_bind (reads_iff_runs.mp h))

theorem skip_bind {ch : Char} {f : Unit → Reader α} (h : Reads (f ()) l a l₁) :
    Reads (skip >>= f) (ch :: l) a l₁ :=
  reads_iff_runs.mpr (.skip_bind (reads_iff_runs.mp h))

theorem skip (ch : Char) (l : List Char) : Reads skip (ch :: l) () l :=
  skip_bind (f := Pure.pure) (pure () l)

/-- Where no blank comes next, the next token is the next character. -/
theorem peekToken_bind {f : Option Char → Reader α} (hl : ∀ ch ∈ l.head?, isGap ch = false)
    (h : Reads (f l.head?) l a l₁) : Reads (peekToken >>= f) l a l₁ :=
  reads_iff_runs.mpr (.peekToken_bind (g := []) (fun _ h => nomatch h) hl (reads_iff_runs.mp h))

theorem closing {inside : Reader α} {ending : Reader Unit} (h : Reads inside l a l₁)
    (he : Reads ending l₁ () l₂) : Reads (closing inside ending) l a l₂ := by
  intro c hc
  obtain ⟨c₁, hr, hc₁⟩ := h c hc
  obtain ⟨c₂, hr₂, hc₂⟩ := he c₁ hc₁
  refine ⟨c₂, ?_, hc₂⟩
  show Reader.closing inside ending c = (.ok a, c₂)
  simp only [Reader.closing, hr, hr₂]

end Reads

/-! ## Words and strings -/

theorem word_reads (ws l : List Char) : Reads (word ws) (ws ++ l) () l := by
  induction ws with
  | nil => exact .pure () l
  | cons w ws ih =>
    refine .peek_bind ?_
    show Reads (if w = w then do Reader.skip; word ws else failAhead .expectedWord) _ _ _
    rw [if_pos rfl]
    exact .skip_bind ih

/-- The digits of an escaped control character. -/
theorem hexFour?_control : ∀ n < 32, hexFour? ['0', '0', hexDigit (n / 16), hexDigit (n % 16)] =
    some n ∧ (hexDigit (n / 16)).utf8Size = 1 ∧ (hexDigit (n % 16)).utf8Size = 1 := by
  decide

theorem unicodeEscape_reads {c : Char} (hc : c.toNat < 32) (l : List Char) :
    Reads unicodeEscape ('0' :: '0' :: hexDigit (c.toNat / 16) :: hexDigit (c.toNat % 16) :: l) c
      l := by
  obtain ⟨hn, h₁, h₂⟩ := hexFour?_control c.toNat hc
  have hhex : Reads hexEscape
      ('0' :: '0' :: hexDigit (c.toNat / 16) :: hexDigit (c.toNat % 16) :: l) c.toNat l := by
    refine .get_bind fun cur hcur => ?_
    have hfour : cur.rest.take 4 =
        ['0', '0', hexDigit (c.toNat / 16), hexDigit (c.toNat % 16)] := by rw [hcur]; rfl
    have hsize : ¬['0', '0', hexDigit (c.toNat / 16), hexDigit (c.toNat % 16)].foldl
        (fun n d => n + d.utf8Size) 0 < 4 := by
      show ¬0 + 1 + 1 + (hexDigit (c.toNat / 16)).utf8Size +
        (hexDigit (c.toNat % 16)).utf8Size < 4
      rw [h₁, h₂]
      decide
    simp only [hfour, hn, if_neg hsize]
    refine .set_bind ?_ (.pure c.toNat l)
    rw [hcur]
    rfl
  refine hhex.bind ?_
  have hlow : ¬(0xDC00 ≤ c.toNat ∧ c.toNat ≤ 0xDFFF) := by omega
  have hplain : c.toNat < 0xD800 ∨ 0xDBFF < c.toNat := by omega
  rw [if_neg hlow, if_pos hplain]
  rw [Char.ofNat_toNat]
  exact .pure c l

theorem escape_reads {e d : Char} (he : e ≠ 'u') (hd : simpleEscape? e = some d) (l : List Char) :
    Reads escape (e :: l) d l := by
  refine .peek_bind ?_
  show Reads (if e = 'u' then _ else _) _ _ _
  rw [if_neg he, hd]
  exact .skip_bind (.pure d l)

section Loop

variable {fuel : Nat} {acc l : List Char} {Q : Except Fault String → List Char → Prop}

/-- A character that stands for itself. -/
theorem stringLoop_plain {c : Char} (hq : c ≠ '"') (hb : c ≠ '\\') (hc : ¬c.toNat < 0x20)
    (h : Runs (stringLoop fuel (c :: acc)) l Q) : Runs (stringLoop (fuel + 1) acc) (c :: l) Q := by
  refine .peek_bind ?_
  show Runs (if c = '"' then _ else if c = '\\' then _ else if c.toNat < 0x20 then _ else _) _ _
  rw [if_neg hq, if_neg hb, if_neg hc]
  exact .skip_bind h

/-- An escape. -/
theorem stringLoop_escape {d : Char} {e : List Char} (he : ∀ l, Reads escape (e ++ l) d l)
    (h : Runs (stringLoop fuel (d :: acc)) l Q) :
    Runs (stringLoop (fuel + 1) acc) ('\\' :: (e ++ l)) Q :=
  .peek_bind (.skip_bind ((he l).runs_bind h))

/-- One character of a string, escaped if it has to be. -/
theorem stringLoop_char (c : Char) (h : Runs (stringLoop fuel (c :: acc)) l Q) :
    Runs (stringLoop (fuel + 1) acc) (escapeChar c ++ l) Q := by
  have simple {e : Char} (he : e ≠ 'u') (hd : simpleEscape? e = some c) :
      Runs (stringLoop (fuel + 1) acc) ('\\' :: ([e] ++ l)) Q :=
    stringLoop_escape (escape_reads he hd) h
  have named {n : Nat} (hn : c.toNat = n) : some (Char.ofNat n) = some c := by
    rw [← hn, Char.ofNat_toNat]
  -- seven characters have an escape of one letter; the other control characters have four digits
  unfold escapeChar
  split
  case isTrue hc => exact simple (by decide) (by rw [hc]; rfl)
  split
  case isTrue hc => exact simple (by decide) (by rw [hc]; rfl)
  split
  case isTrue hc => exact simple (by decide) (named hc)
  split
  case isTrue hc => exact simple (by decide) (named hc)
  split
  case isTrue hc => exact simple (by decide) (named hc)
  split
  case isTrue hc => exact simple (by decide) (named hc)
  split
  case isTrue hc => exact simple (by decide) (named hc)
  split
  case isTrue hc =>
    refine stringLoop_escape (e := 'u' :: '0' :: '0' :: _) (fun l => .peek_bind ?_) h
    exact .skip_bind (unicodeEscape_reads hc l)
  case isFalse hq hb _ _ _ _ _ hc => exact stringLoop_plain hq hb hc h

/-- What is left of a string. -/
theorem stringLoop_reads (cs : List Char) (hf : cs.length < fuel) (acc l : List Char) :
    Reads (stringLoop fuel acc) (cs.flatMap escapeChar ++ '"' :: l)
      (String.ofList (acc.reverse ++ cs)) l := by
  induction cs generalizing fuel acc with
  | nil =>
    obtain ⟨n, rfl⟩ := Nat.exists_eq_add_of_lt hf
    rw [List.append_nil]
    exact .peek_bind (.skip_bind (.pure _ l))
  | cons c cs ih =>
    obtain ⟨n, rfl⟩ := Nat.exists_eq_add_of_lt hf
    have hn : cs.length < (c :: cs).length + n := by
      rw [List.length_cons]
      omega
    have hcs := ih hn (c :: acc)
    rw [List.flatMap_cons, List.append_assoc]
    rw [List.reverse_cons, List.append_assoc] at hcs
    exact reads_iff_runs.mpr (stringLoop_char c (reads_iff_runs.mp hcs))

end Loop

theorem length_escapeChar_pos (c : Char) : 0 < (escapeChar c).length := by
  grind [escapeChar]

theorem length_le_escaped (cs : List Char) : cs.length ≤ (cs.flatMap escapeChar).length := by
  induction cs with
  | nil => exact Nat.le_refl 0
  | cons c cs ih =>
    have hc := length_escapeChar_pos c
    rw [List.flatMap_cons, List.length_append, List.length_cons]
    omega

theorem string_reads (s : String) (l : List Char) :
    Reads string (s.toList.flatMap escapeChar ++ '"' :: l) s l := by
  refine .get_bind fun c hc => ?_
  have hf : s.toList.length < c.rest.length + 1 := by
    have := length_le_escaped s.toList
    rw [hc, List.length_append]
    omega
  have h := stringLoop_reads s.toList hf [] l
  rwa [List.reverse_nil, List.nil_append, String.ofList_toList] at h

/-! ## Plain values -/

@[simp] theorem quoteList_append (cs l : List Char) :
    quoteList cs ++ l = '"' :: (cs.flatMap escapeChar ++ '"' :: l) := by
  simp [quoteList]

theorem toList_quote (s : String) : (quote s).toList = quoteList s.toList := String.toList_ofList

/-- A value that starts with neither bracket is a scalar, however deep it is nested. -/
theorem Runs.value_of_scalar {Q : Except Fault Value → List Char → Prop} {c : Char}
    {g l : List Char} (hg : ∀ ch ∈ g, isGap ch = true) (hgap : isGap c = false)
    (hopen : ¬(c = '[' ∨ c = '{')) (h : Runs (scalar c) (c :: l) Q) (depth : Nat) :
    Runs (value depth) (g ++ c :: l) Q := by
  have hl : ∀ ch ∈ (c :: l).head?, isGap ch = false := by
    rintro ch ⟨rfl⟩
    exact hgap
  cases depth with
  | zero =>
    refine .peekToken_bind hg hl ?_
    show Runs (if c = '[' ∨ c = '{' then _ else scalar c) _ _
    rwa [if_neg hopen]
  | succ depth =>
    refine .peekToken_bind hg hl ?_
    show Runs (if c = '[' then _ else if c = '{' then _ else scalar c) _ _
    rwa [if_neg fun hc => hopen (.inl hc), if_neg fun hc => hopen (.inr hc)]

theorem value_of_scalar {v : Value} {c : Char} {l l₁ : List Char} (hgap : isGap c = false)
    (hopen : ¬(c = '[' ∨ c = '{')) (h : Reads (scalar c) (c :: l) v l₁) (depth : Nat) :
    Reads (value depth) (c :: l) v l₁ :=
  reads_iff_runs.mpr (.value_of_scalar (g := []) (fun _ h => nomatch h) hgap hopen
    (reads_iff_runs.mp h) depth)

/-- A value that is a word. -/
theorem word_scalar (v : Value) (c : Char) (ws l : List Char) :
    Reads (do skip; word ws; return v) (c :: (ws ++ l)) v l :=
  .skip_bind ((word_reads ws l).bind (.pure v l))

theorem value_reads {v : Value} (hv : v.Plain) (depth : Nat) (l : List Char) :
    Reads (value depth) (v.compact.toList ++ l) v l := by
  cases hv with
  | null =>
    have ht : Value.null.compact.toList = 'n' :: "ull".toList := by decide
    rw [ht, List.cons_append]
    exact value_of_scalar (by decide) (by decide) (word_scalar .null 'n' "ull".toList l) depth
  | bool b =>
    cases b with
    | false =>
      have ht : (Value.bool false).compact.toList = 'f' :: "alse".toList := by decide
      rw [ht, List.cons_append]
      exact value_of_scalar (by decide) (by decide) (word_scalar _ 'f' "alse".toList l) depth
    | true =>
      have ht : (Value.bool true).compact.toList = 't' :: "rue".toList := by decide
      rw [ht, List.cons_append]
      exact value_of_scalar (by decide) (by decide) (word_scalar _ 't' "rue".toList l) depth
  | str s =>
    rw [Value.compact, toList_quote, quoteList_append]
    exact value_of_scalar (by decide) (by decide)
      (.skip_bind ((string_reads s l).bind (.pure (Value.str s) l))) depth

/-! ## Objects -/

/-- A field as it is written. -/
def fieldText (f : String × Value) : List Char := quoteList f.1.toList ++ ':' :: f.2.compact.toList

/-- What is written before a field. -/
def separator (first : Bool) : List Char := if first then [] else [',']

/-- Fields as they are written, behind others unless they are the first. -/
def fieldsText : Bool → List (String × Value) → List Char
  | _, [] => []
  | first, f :: fs => separator first ++ fieldText f ++ fieldsText false fs

theorem toList_compactFields (fs : List (String × Value)) :
    (Value.compactFields fs).toList = fieldsText true fs := by
  have hcons (f : String × Value) (fs : List (String × Value)) :
      (Value.compactFields (f :: fs)).toList = fieldText f ++ fieldsText false fs := by
    induction fs generalizing f with
    | nil => simp [Value.compactFields, fieldText, fieldsText, toList_quote]
    | cons f' fs ih =>
      rw [Value.compactFields]
      · simp [ih, fieldText, fieldsText, separator, toList_quote]
      · simp
  cases fs with
  | nil => rfl
  | cons f fs => exact hcons f fs

/-- A field costs a character at least. -/
theorem length_le_fieldsText (first : Bool) (fs : List (String × Value)) :
    fs.length ≤ (fieldsText first fs).length := by
  induction fs generalizing first with
  | nil => exact Nat.zero_le _
  | cons f fs ih =>
    have hfs := ih false
    simp only [fieldsText, fieldText, List.length_append, List.length_cons]
    omega

theorem colon_reads (l : List Char) : Reads colon (':' :: l) () l :=
  .peekToken_bind (by rintro _ ⟨⟩; rfl) (.skip ':' l)

theorem objectEnd_reads (l : List Char) : Reads objectEnd ('}' :: l) () l :=
  .peekToken_bind (by rintro _ ⟨⟩; rfl) (.skip '}' l)

theorem moreFields_end (first : Bool) (l : List Char) :
    Reads (moreFields first) ('}' :: l) false ('}' :: l) :=
  .peekToken_bind (by rintro _ ⟨⟩; rfl) (.pure false _)

theorem moreFields_next (first : Bool) (l : List Char) :
    Reads (moreFields first) (separator first ++ '"' :: l) true ('"' :: l) := by
  cases first with
  | true => exact .peekToken_bind (by rintro _ ⟨⟩; rfl) (.pure true _)
  | false =>
    refine .peekToken_bind (by rintro _ ⟨⟩; rfl) (.skip_bind ?_)
    exact .peekToken_bind (by rintro _ ⟨⟩; rfl) (.pure true _)

section Fields

variable {item : Reader Value} {acc fs : List (String × Value)} {fuel : Nat} {l l₁ : List Char}

/-- What may stand behind a value in a list or in an object. -/
def Closed (l : List Char) : Prop := ∀ ch ∈ l.head?, ch = ',' ∨ ch = ']' ∨ ch = '}'

theorem closed_nil : Closed [] := nofun

theorem fieldsText_closed (fs : List (String × Value)) (l : List Char) :
    Closed (fieldsText false fs ++ '}' :: l) := by
  cases fs with
  | nil =>
    rintro _ ⟨⟩
    exact .inr (.inr rfl)
  | cons f fs =>
    rintro _ ⟨⟩
    exact .inl rfl

/-- One more field, and the fields after it. -/
theorem field_reads (first : Bool) {f : String × Value}
    (hf : Reads item (f.2.compact.toList ++ l) f.2 l)
    (h : Reads (fields item fuel false (insertField f.1 f.2 acc)) l fs l₁) :
    Reads (fields item (fuel + 1) first acc) (separator first ++ (fieldText f ++ l)) fs l₁ := by
  rw [fieldText, List.append_assoc, quoteList_append]
  refine (moreFields_next first _).bind (.skip_bind ?_)
  exact (string_reads f.1 _).bind ((colon_reads _).bind (hf.bind h))

/-- The fields of an object that are left, if their keys come after those read so far. -/
theorem fields_reads (acc : List (String × Value))
    (hitem : ∀ f ∈ fs, ∀ l, Closed l → Reads item (f.2.compact.toList ++ l) f.2 l)
    (hfuel : fs.length ≤ fuel) (first : Bool)
    (hord : (acc ++ fs).Pairwise fun f f' => f.1 < f'.1) (l : List Char) :
    Reads (fields item fuel first acc) (fieldsText first fs ++ '}' :: l) (acc ++ fs)
      ('}' :: l) := by
  induction fs generalizing fuel first acc with
  | nil =>
    rw [List.append_nil]
    cases fuel with
    | zero => exact .pure acc _
    | succ fuel => exact (moreFields_end first l).bind (.pure acc _)
  | cons f fs ih =>
    obtain ⟨n, rfl⟩ := Nat.exists_eq_add_one.mpr (Nat.lt_of_lt_of_le fs.length.succ_pos hfuel)
    -- the reader inserts each field by its key, which in this order only appends it
    have hlast : insertField f.1 f.2 acc = acc ++ [f] :=
      insertField_last f.2 fun f' hf' =>
        (List.pairwise_append.mp hord).2.2 f' hf' f List.mem_cons_self
    have hrest := ih (acc ++ [f]) (fun f' hf' => hitem f' (List.mem_cons_of_mem f hf'))
      (Nat.le_of_succ_le_succ hfuel) false (by rwa [List.append_assoc])
    rw [List.append_assoc, ← hlast] at hrest
    rw [fieldsText, List.append_assoc, List.append_assoc]
    exact field_reads first (hitem f List.mem_cons_self _ (fieldsText_closed fs l)) hrest

/-- An object whose keys are in order is read as it was written, if its values are. -/
theorem object_reads {depth : Nat}
    (hitem : ∀ f ∈ fs, ∀ l, Closed l → Reads (value depth) (f.2.compact.toList ++ l) f.2 l)
    (hord : fs.Pairwise fun f f' => f.1 < f'.1) (l : List Char) :
    Reads (value (depth + 1)) ((Value.obj fs).compact.toList ++ l) (.obj fs) l := by
  have ht : (Value.obj fs).compact.toList ++ l = '{' :: (fieldsText true fs ++ '}' :: l) := by
    rw [Value.compact, String.toList_append, String.toList_append, toList_compactFields,
      List.append_assoc, List.append_assoc]
    rfl
  rw [ht]
  refine .peekToken_bind (by rintro _ ⟨⟩; rfl) (.skip_bind (.get_bind fun c hc => ?_))
  have hfuel : fs.length ≤ c.rest.length + 1 := by
    have := length_le_fieldsText true fs
    rw [hc, List.length_append]
    omega
  have hfields := fields_reads [] hitem hfuel true hord l
  exact .closing (hfields.bind (.pure (Value.obj fs) _)) (objectEnd_reads l)

end Fields

theorem Reads.result {r : Reader α} {s : String} {a : α} {l : List Char}
    (h : Reads r s.toList a l) : (r.runAt (Cursor.ofString s)).1 = .ok a := by
  obtain ⟨c, hc, -⟩ := h (Cursor.ofString s) rfl
  rw [hc]

/-- A text that a reader takes to its end holds one value. -/
theorem whole_eq {r : Reader α} {s : String} {a : α} (h : Reads r s.toList a []) :
    whole r s = .ok a := by
  unfold whole
  exact (h.bind (.peekToken_bind (by rintro _ ⟨⟩) (.pure a []))).result

end Reader

open Reader

/-- An object of plain values, its keys in order, is what its text is parsed to. -/
theorem parse_compact {fs : List (String × Value)} (hp : ∀ f ∈ fs, f.2.Plain)
    (hord : fs.Pairwise fun f f' => f.1 < f'.1) :
    parse (Value.obj fs).compact = .ok (.obj fs) := by
  have hobj := object_reads (fun f hf l _ => value_reads (hp f hf) (maxDepth - 1) l) hord []
  rw [List.append_nil] at hobj
  exact whole_eq hobj

end DrainGuard.Json
