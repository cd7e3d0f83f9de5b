import Mathlib.Tactic.SplitIfs
import DrainGuard.Toml.Text
import DrainGuard.Toml.Printer

/-!
# Texts read back

A text is written in one of four forms, and is read from each as it was.

- **Escapes** (`Escapes`, `escapes_of_escapeOf?`): what stands behind a backslash is read as the
  character that it was written for.
- **One line** (`basicBody_written`, `literalBody_written`): a text is read up to its closing quote.
- **Several lines** (`blockBody_written`, `literalBlockBody_written`): three quotes end a text.
  Where fewer stand in front of them, they belong to the text, so what matters is how many quotes a text
  has in a row (`quotes_written`, `quotes_literal`).
- **Any form** (`Form.suits_ofText`, `text?_written`): the form of a text suits it, and whatever the
  characters, the text is read from its form.
-/

namespace DrainGuard.Toml

/-! ## Escapes -/

theorem hexValue?_digit : ∀ d < 16, hexValue? (Nat.digitChar d).toUpper = some d := by decide

/-- What stands behind a backslash is read as a character, and is no line break. -/
structure Escapes (e : List Char) (c : Char) : Prop where
  reads : ∀ l, escape? (e ++ l) = some (c, l)
  solid : ∀ l, foldedBreak? (e ++ l) = none

theorem escapes_quote : Escapes ['"'] '"' := ⟨fun _ => rfl, fun _ => rfl⟩

/-- A character that can only be written by its number. -/
theorem escapes_code {c : Char} (h : needsCode c = true) :
    Escapes ['u', '0', '0', (Nat.digitChar (c.toNat / 16)).toUpper,
      (Nat.digitChar (c.toNat % 16)).toUpper] c where
  reads l := by
    have hn : c.toNat < 128 := by
      simp only [needsCode, Bool.or_eq_true, Bool.and_eq_true, decide_eq_true_eq] at h
      omega
    have hhigh := hexValue?_digit (c.toNat / 16) (by omega)
    have hlow := hexValue?_digit (c.toNat % 16) (by omega)
    have hsum : c.toNat / 16 * 16 + c.toNat % 16 = c.toNat := by omega
    have hvalid : c.toNat.isValidChar := c.valid
    simp [escape?, scalar?, hexNumber?, hhigh, hlow, show hexValue? '0' = some 0 from rfl, hsum,
      hvalid]
  solid _ := rfl

theorem escapes_of_escapeOf? {c : Char} {e : List Char} (h : escapeOf? c = some e) :
    ∃ e', e = '\\' :: e' ∧ Escapes e' c := by
  have named (n : Nat) (x : Char) (hn : c.toNat = n)
      (hr : ∀ l, escape? ([x] ++ l) = some (Char.ofNat n, l))
      (hs : ∀ l, foldedBreak? ([x] ++ l) = none) : Escapes [x] c := by
    rw [← Char.ofNat_toNat c, hn]
    exact ⟨hr, hs⟩
  unfold escapeOf? at h
  split_ifs at h with h₁ h₂ h₃ h₄ h₅ h₆ h₇ <;> cases h
  · exact ⟨_, rfl, named 92 _ (congrArg Char.toNat h₁) (fun _ => rfl) fun _ => rfl⟩
  · exact ⟨_, rfl, named 9 _ (congrArg Char.toNat h₂) (fun _ => rfl) fun _ => rfl⟩
  · exact ⟨_, rfl, named 10 _ (congrArg Char.toNat h₃) (fun _ => rfl) fun _ => rfl⟩
  · exact ⟨_, rfl, named 13 _ (congrArg Char.toNat h₄) (fun _ => rfl) fun _ => rfl⟩
  · exact ⟨_, rfl, named 8 _ h₅ (fun _ => rfl) fun _ => rfl⟩
  · exact ⟨_, rfl, named 12 _ h₆ (fun _ => rfl) fun _ => rfl⟩
  · exact ⟨_, rfl, escapes_code h₇⟩

/-- A character without an escape stands for itself. -/
theorem plain_of_escapeOf? {c : Char} (h : escapeOf? c = none) :
    isPlain c = true ∧ c ≠ '\\' ∧ c ≠ '\n' := by
  simp only [escapeOf?] at h
  simp only [isPlain]
  grind [needsCode]

/-! ## One line -/

theorem basicBody_escape {e l : List Char} {c : Char} (h : Escapes e c) :
    basicBody ('\\' :: (e ++ l)) = consText c (basicBody l) := by
  rw [basicBody, if_neg (by decide), if_pos rfl]
  split
  · next heq =>
    rw [h.reads] at heq
    cases heq
    rfl
  · next heq =>
    rw [h.reads] at heq
    cases heq

theorem basicBody_plain {l : List Char} {c : Char} (hp : isPlain c = true) (hq : c ≠ '"')
    (hb : c ≠ '\\') : basicBody (c :: l) = consText c (basicBody l) := by
  rw [basicBody, if_neg hq, if_neg hb, if_pos hp]

theorem basicBody_close (l : List Char) : basicBody ('"' :: l) = some ([], l) := by
  rw [basicBody, if_pos rfl]

theorem basicBody_written (cs l : List Char) :
    basicBody (writeEscaped false 0 0 cs ++ '"' :: l) = some (cs, l) := by
  induction cs with
  | nil => exact basicBody_close l
  | cons c cs ih =>
    have read : consText c (basicBody (writeEscaped false 0 0 cs ++ '"' :: l)) =
        some (c :: cs, l) :=
      congrArg (consText c) ih
    by_cases hq : c = '"'
    · subst hq
      exact (basicBody_escape escapes_quote).trans read
    rw [writeEscaped, if_neg hq, if_neg (by simp)]
    cases he : escapeOf? c with
    | some e =>
      obtain ⟨e, rfl, hesc⟩ := escapes_of_escapeOf? he
      simpa using (basicBody_escape hesc).trans read
    | none =>
      obtain ⟨hp, hb, -⟩ := plain_of_escapeOf? he
      exact (basicBody_plain hp hq hb).trans read

theorem literalBody_written {cs : List Char} (h : ∀ c ∈ cs, isPlain c = true ∧ c ≠ '\'')
    (l : List Char) : literalBody (cs ++ '\'' :: l) = some (cs, l) := by
  induction cs with
  | nil => rfl
  | cons c cs ih =>
    obtain ⟨hp, hq⟩ := h c List.mem_cons_self
    have ih := ih fun d hd => h d (List.mem_cons_of_mem c hd)
    rw [List.cons_append, literalBody, if_neg hq, if_pos hp, ih]
    rfl

/-! ## Several lines -/

/-- The closing quotes, with quotes of the text in front of them. -/
theorem closeBlock_quotes {q : Char} {n : Nat} (hn : n ≤ 2) {l : List Char}
    (hl : ∀ c ∈ l.head?, c ≠ q) :
    closeBlock q (List.replicate n q ++ l) = some (List.replicate n q, l) := by
  have hrest : l.takeWhile (· = q) = [] := by
    cases l with
    | nil => rfl
    | cons c l => exact List.takeWhile_cons_of_neg (by simpa using hl c rfl)
  have htake : (List.replicate n q ++ l).takeWhile (· = q) = List.replicate n q := by
    rw [List.takeWhile_append_of_pos (by simp), hrest, List.append_nil]
  simp [closeBlock, htake, hn, List.drop_left' List.length_replicate]

/-- Written with escapes, a text starts with a backslash, or with a character that needs none. -/
theorem head_writeEscaped (block : Bool) (n run : Nat) (c : Char) (cs l : List Char) :
    (writeEscaped block n run (c :: cs) ++ l).head? = some '\\' ∨
      (writeEscaped block n run (c :: cs) ++ l).head? = some c ∧ (c = '"' → run < n) ∧
        (c = '\n' ∨ isPlain c = true) := by
  rw [writeEscaped]
  split_ifs with hq hr hb
  · subst hq
    exact .inr ⟨rfl, fun _ => hr, .inr rfl⟩
  · exact .inl rfl
  · obtain ⟨rfl, -⟩ := hb
    exact .inr ⟨rfl, fun h => absurd h hq, .inl rfl⟩
  · cases he : escapeOf? c with
    | some e =>
      obtain ⟨e, rfl, -⟩ := escapes_of_escapeOf? he
      exact .inl rfl
    | none => exact .inr ⟨rfl, fun h => absurd h hq, .inr (plain_of_escapeOf? he).1⟩

theorem eq_quote_of_head {block : Bool} {n run : Nat} {c : Char} {cs l : List Char}
    (h : (writeEscaped block n run (c :: cs) ++ l).head? = some '"') : c = '"' ∧ run < n := by
  rcases head_writeEscaped block n run c cs l with hh | ⟨hh, hr, -⟩ <;> rw [hh] at h
  · cases h
  · cases h
    exact ⟨rfl, hr rfl⟩

theorem blockBody_close (l : List Char) :
    blockBody ('"' :: '"' :: '"' :: l) = closeBlock '"' l := by
  rw [blockBody]

theorem blockBody_escape {e l : List Char} {c : Char} (h : Escapes e c) :
    blockBody ('\\' :: (e ++ l)) = consText c (blockBody l) := by
  rw [blockBody, if_pos rfl]
  · split
    · next heq =>
      rw [h.solid] at heq
      cases heq
    · split
      · next heq =>
        rw [h.reads] at heq
        cases heq
        rfl
      · next heq =>
        rw [h.reads] at heq
        cases heq
  · rintro _ ⟨⟩
  · rintro _ ⟨⟩

theorem ne_return_of_isPlain {c : Char} (h : c = '\n' ∨ isPlain c = true) : c ≠ '\r' := by
  rintro rfl
  revert h
  decide

theorem blockBody_plain {l : List Char} {c : Char} (hp : c = '\n' ∨ isPlain c = true)
    (hb : c ≠ '\\') (hq : c = '"' → ¬['"', '"'] <+: l) :
    blockBody (c :: l) = consText c (blockBody l) := by
  rw [blockBody, if_neg hb, if_pos hp]
  · rintro l' rfl rfl
    exact hq rfl ⟨l', rfl⟩
  · rintro l' rfl rfl
    exact ne_return_of_isPlain hp rfl

/-- Behind a quote that is allowed, two more come only at the end of the text. -/
theorem quotes_written {cs l : List Char} {run : Nat}
    (h : ['"', '"'] <+: writeEscaped true 2 (run + 1) cs ++ '"' :: '"' :: '"' :: l) :
    cs = [] ∨ cs = ['"'] ∧ run = 0 := by
  obtain ⟨t, ht⟩ := h
  cases cs with
  | nil => exact .inl rfl
  | cons c cs =>
    obtain ⟨rfl, hr⟩ := eq_quote_of_head (congrArg List.head? ht).symm
    rw [writeEscaped, if_pos rfl, if_pos hr] at ht
    cases cs with
    | nil => exact .inr ⟨rfl, by omega⟩
    | cons d ds =>
      have hr' := (eq_quote_of_head (congrArg List.head? (List.cons.inj ht).2).symm).2
      omega

/-- Quotes before the end of a text belong to it. -/
theorem blockBody_written (cs : List Char) {run : Nat} {l : List Char}
    (hl : ∀ c ∈ l.head?, c ≠ '"') :
    blockBody (writeEscaped true 2 run cs ++ '"' :: '"' :: '"' :: l) = some (cs, l) := by
  induction cs generalizing run with
  | nil => exact (blockBody_close l).trans (closeBlock_quotes (n := 0) (Nat.zero_le 2) hl)
  | cons c cs ih =>
    have read (run : Nat) : consText c (blockBody
        (writeEscaped true 2 run cs ++ '"' :: '"' :: '"' :: l)) = some (c :: cs, l) :=
      congrArg (consText c) ih
    rw [writeEscaped]
    split_ifs with hq hr hn
    · subst hq
      by_cases hpre : ['"', '"'] <+: writeEscaped true 2 (run + 1) cs ++ '"' :: '"' :: '"' :: l
      · rcases quotes_written hpre with rfl | ⟨rfl, rfl⟩
        · exact (blockBody_close _).trans (closeBlock_quotes (n := 1) (by decide) hl)
        · exact (blockBody_close _).trans (closeBlock_quotes (n := 2) (by decide) hl)
      · exact (blockBody_plain (.inr rfl) (by decide) fun _ => hpre).trans (read (run + 1))
    · subst hq
      exact (blockBody_escape escapes_quote).trans (read 0)
    · obtain ⟨rfl, -⟩ := hn
      exact (blockBody_plain (.inl rfl) (by decide) fun h => absurd h hq).trans (read 0)
    · cases he : escapeOf? c with
      | some e =>
        obtain ⟨e, rfl, hesc⟩ := escapes_of_escapeOf? he
        simpa using (blockBody_escape hesc).trans (read 0)
      | none =>
        obtain ⟨hp, hb, -⟩ := plain_of_escapeOf? he
        exact (blockBody_plain (.inr hp) hb fun h => absurd h hq).trans (read 0)

theorem literalBlockBody_plain {l : List Char} {c : Char} (hp : c = '\n' ∨ isPlain c = true)
    (hq : c = '\'' → ¬['\'', '\''] <+: l) :
    literalBlockBody (c :: l) = consText c (literalBlockBody l) := by
  rw [literalBlockBody, if_pos hp]
  · rintro l' rfl rfl
    exact hq rfl ⟨l', rfl⟩
  · rintro l' rfl rfl
    exact ne_return_of_isPlain hp rfl

theorem le_longestRun (c : Char) (run : Nat) (cs : List Char) : run ≤ longestRun c run cs := by
  induction cs generalizing run with
  | nil => exact Nat.le_refl run
  | cons d cs ih =>
    rw [longestRun]
    split
    · exact Nat.le_trans (Nat.le_succ run) (ih (run + 1))
    · exact Nat.le_max_left _ _

theorem longestRun_mono (c : Char) {m n : Nat} (h : m ≤ n) (cs : List Char) :
    longestRun c m cs ≤ longestRun c n cs := by
  induction cs generalizing m n with
  | nil => exact h
  | cons d cs ih =>
    rw [longestRun, longestRun]
    split
    · exact ih (Nat.succ_le_succ h)
    · omega

/-- The rest of a text has no longer run than the text. -/
theorem longestRun_tail (q c : Char) (cs : List Char) :
    longestRun q 0 cs ≤ longestRun q 0 (c :: cs) := by
  show longestRun q 0 cs ≤ if c = q then longestRun q 1 cs else max 0 (longestRun q 0 cs)
  split
  · exact longestRun_mono q (Nat.zero_le 1) cs
  · exact Nat.le_max_right _ _

/-- Behind a single quote, two more come only at the end of the text. -/
theorem quotes_literal {cs l : List Char} (hr : longestRun '\'' 0 ('\'' :: cs) ≤ 2)
    (h : ['\'', '\''] <+: cs ++ '\'' :: '\'' :: '\'' :: l) : cs = [] ∨ cs = ['\''] := by
  obtain ⟨t, ht⟩ := h
  match cs with
  | [] => exact .inl rfl
  | [c] => exact .inr (by rw [← (List.cons.inj ht).1])
  | c :: d :: cs =>
    simp only [List.cons_append, List.cons.injEq] at ht
    obtain ⟨rfl, rfl, -⟩ := ht
    exact absurd (Nat.le_trans (le_longestRun '\'' 3 cs) hr) (by decide)

/-- A text without three single quotes in a row needs no escapes. -/
theorem literalBlockBody_written {cs l : List Char} (hp : ∀ c ∈ cs, c = '\n' ∨ isPlain c = true)
    (hr : longestRun '\'' 0 cs ≤ 2) (hl : ∀ c ∈ l.head?, c ≠ '\'') :
    literalBlockBody (cs ++ '\'' :: '\'' :: '\'' :: l) = some (cs, l) := by
  induction cs with
  | nil => exact closeBlock_quotes (n := 0) (Nat.zero_le 2) hl
  | cons c cs ih =>
    have read : consText c (literalBlockBody (cs ++ '\'' :: '\'' :: '\'' :: l)) =
        some (c :: cs, l) :=
      congrArg (consText c) (ih (fun d hd => hp d (List.mem_cons_of_mem c hd))
        (Nat.le_trans (longestRun_tail '\'' c cs) hr))
    have hc := hp c List.mem_cons_self
    by_cases hpre : c = '\'' ∧ ['\'', '\''] <+: cs ++ '\'' :: '\'' :: '\'' :: l
    · obtain ⟨rfl, hpre⟩ := hpre
      rcases quotes_literal hr hpre with rfl | rfl
      · exact closeBlock_quotes (n := 1) (by decide) hl
      · exact closeBlock_quotes (n := 2) (by decide) hl
    · exact (literalBlockBody_plain hc fun hq h => hpre ⟨hq, h⟩).trans read

/-! ## Any form -/

theorem longestRun_pos {c : Char} {cs : List Char} (h : c ∈ cs) (n : Nat) :
    0 < longestRun c n cs := by
  induction cs generalizing n with
  | nil => cases h
  | cons d cs ih =>
    rw [longestRun]
    split
    · exact Nat.lt_of_lt_of_le n.succ_pos (le_longestRun c (n + 1) cs)
    · next hd =>
      have := ih ((List.mem_cons.mp h).resolve_left (Ne.symm hd)) 0
      omega

/-- What the form of a text says of its characters. -/
def Form.Suits (cs : List Char) : Form → Prop
  | .basic | .block => True
  | .literal => ∀ c ∈ cs, isPlain c = true ∧ c ≠ '\''
  | .literalBlock => (∀ c ∈ cs, c = '\n' ∨ isPlain c = true) ∧ longestRun '\'' 0 cs ≤ 2

/-- A character that needs no code is a line break or plain. -/
theorem plain_of_needsCode {c : Char} (h : needsCode c = false) : c = '\n' ∨ isPlain c = true := by
  simp only [needsCode, isPlain] at h ⊢
  grind

theorem Form.suits_ofText (cs : List Char) : (Form.ofText cs).Suits cs := by
  have plain (h : cs.any needsCode = false) : ∀ c ∈ cs, c = '\n' ∨ isPlain c = true :=
    fun c hc => plain_of_needsCode (Bool.eq_false_iff.mpr (List.any_eq_false.mp h c hc))
  unfold ofText
  dsimp only
  split_ifs with h₁ h₂ h₃ h₄ h₅
  · trivial
  · simp only [Bool.and_eq_true, Bool.not_eq_true', decide_eq_true_eq] at h₂
    obtain ⟨⟨hcodes, hsingles⟩, hbreaks⟩ := h₂
    intro c hc
    refine ⟨(plain hcodes c hc).resolve_left ?_, ?_⟩
    · rintro rfl
      simp [hc] at hbreaks
    · rintro rfl
      exact Nat.ne_of_gt (longestRun_pos hc 0) hsingles
  · trivial
  · simp only [Bool.and_eq_true, Bool.not_eq_true', decide_eq_true_eq] at h₄
    exact ⟨plain h₄.1, h₄.2⟩
  · trivial
  · trivial

/-- A text over several lines keeps its first line break. -/
theorem trimFirstBreak_opening {cs body : List Char}
    (h : '\n' ∉ cs → ∀ c ∈ body.head?, isPlain c = true) :
    trimFirstBreak ((if cs.contains '\n' then ['\n'] else []) ++ body) = body := by
  by_cases hn : '\n' ∈ cs
  · rw [if_pos (by simpa using hn)]
    rfl
  · rw [if_neg (by simpa using hn), List.nil_append, trimFirstBreak]
    have hbreak : newline? body = none := by
      unfold newline?
      split
      · exact absurd (h hn '\n' rfl) (by decide)
      · exact absurd (h hn '\r' rfl) (by decide)
      · rfl
    rw [hbreak]
    rfl

/-- Written with escapes, a text without line breaks starts with a plain character. -/
theorem plain_head {block : Bool} {n run : Nat} {cs l : List Char} (hn : '\n' ∉ cs)
    (hl : ∀ c ∈ l.head?, isPlain c = true) :
    ∀ c ∈ (writeEscaped block n run cs ++ l).head?, isPlain c = true := by
  cases cs with
  | nil => exact hl
  | cons d cs =>
    rcases head_writeEscaped block n run d cs l with hh | ⟨hh, -, hd⟩ <;> rw [hh] <;> rintro _ ⟨⟩
    · rfl
    · exact hd.resolve_left fun he => hn (he ▸ List.mem_cons_self)

theorem text?_line {q : Char} {l : List Char} (hl : ¬[q, q] <+: l) :
    text? (q :: l) = lineText? (q :: l) := by
  unfold text?
  split
  · next h =>
    cases h
    exact absurd ⟨_, rfl⟩ hl
  · next h =>
    cases h
    exact absurd ⟨_, rfl⟩ hl
  · rfl

theorem text?_basic (cs : List Char) {l : List Char} (hl : ∀ c ∈ l.head?, c ≠ '"') :
    text? ('"' :: (writeEscaped false 0 0 cs ++ '"' :: l)) = some (cs, l) := by
  rw [text?_line, lineText?, basicBody_written]
  rintro ⟨t, ht⟩
  cases cs with
  | nil => exact hl '"' (congrArg List.head? (List.cons.inj ht).2).symm rfl
  | cons c cs => exact Nat.lt_irrefl 0 (eq_quote_of_head (congrArg List.head? ht).symm).2

theorem text?_literal {cs : List Char} (h : ∀ c ∈ cs, isPlain c = true ∧ c ≠ '\'') {l : List Char}
    (hl : ∀ c ∈ l.head?, c ≠ '\'') : text? ('\'' :: (cs ++ '\'' :: l)) = some (cs, l) := by
  rw [text?_line, lineText?, literalBody_written h]
  rintro ⟨t, ht⟩
  cases cs with
  | nil => exact hl '\'' (congrArg List.head? (List.cons.inj ht).2).symm rfl
  | cons c cs => exact (h c List.mem_cons_self).2 (List.cons.inj ht).1.symm

theorem text?_block (cs : List Char) {l : List Char} (hl : ∀ c ∈ l.head?, c ≠ '"') :
    text? ('"' :: '"' :: '"' :: ((if cs.contains '\n' then ['\n'] else []) ++
      (writeEscaped true 2 0 cs ++ '"' :: '"' :: '"' :: l))) = some (cs, l) := by
  rw [text?, trimFirstBreak_opening fun hn => plain_head hn (by rintro _ ⟨⟩; rfl),
    blockBody_written cs hl]

theorem text?_literalBlock {cs : List Char} (hp : ∀ c ∈ cs, c = '\n' ∨ isPlain c = true)
    (hr : longestRun '\'' 0 cs ≤ 2) {l : List Char} (hl : ∀ c ∈ l.head?, c ≠ '\'') :
    text? ('\'' :: '\'' :: '\'' :: ((if cs.contains '\n' then ['\n'] else []) ++
      (cs ++ '\'' :: '\'' :: '\'' :: l))) = some (cs, l) := by
  rw [text?, trimFirstBreak_opening, literalBlockBody_written hp hr hl]
  intro hn
  cases cs with
  | nil =>
    rintro _ ⟨⟩
    rfl
  | cons c cs =>
    rintro _ ⟨⟩
    exact (hp c List.mem_cons_self).resolve_left fun he => hn (he ▸ List.mem_cons_self)

/-- A text is read as it was written, whatever its characters. -/
theorem text?_written (cs : List Char) {l : List Char} (hl : ∀ c ∈ l.head?, c ≠ '"' ∧ c ≠ '\'') :
    text? (writeText cs ++ l) = some (cs, l) := by
  have hsuits := Form.suits_ofText cs
  have hdouble (c : Char) (hc : c ∈ l.head?) : c ≠ '"' := (hl c hc).1
  have hsingle (c : Char) (hc : c ∈ l.head?) : c ≠ '\'' := (hl c hc).2
  unfold writeText
  cases hform : Form.ofText cs <;> rw [hform] at hsuits
  case basic => simpa [Form.quotes, Form.body, Form.isBlock] using text?_basic cs hdouble
  case literal => simpa [Form.quotes, Form.body, Form.isBlock] using text?_literal hsuits hsingle
  case block => simpa [Form.quotes, Form.body, Form.isBlock] using text?_block cs hdouble
  case literalBlock =>
    simpa [Form.quotes, Form.body, Form.isBlock] using
      text?_literalBlock hsuits.1 hsuits.2 hsingle

end DrainGuard.Toml
