import Mathlib.Tactic.SplitIfs
import DrainGuard.Proofs.Json.Cut
import DrainGuard.Proofs.Json.Grammar

/-!
# Reading strings of any form

A reader of strings takes all that spells a text and nothing else. A reader that passes strings does
not ask what they spell.

- **Results** (`Gives r l P`): whatever the reader `r` gives of the characters `l`, and whatever it
  leaves of them, is as `P` says. Nothing is said where it fails.
- **Codes** (`hexFour?_eq_some_iff`): four hexadecimal digits.
- **Strings** (`string_gives`, `string_spelt`): what a string that is read looks like, and that
  every string of that look is read.
- **Passed strings** (`ignoreString_gives`, `ignoreString_passes`).
- **Written strings** (`quotes_quoteList`): what is written for a text says that text.
-/

namespace DrainGuard.Json

namespace Reader

variable {α β : Type} {l l₁ : List Char}

/-! ## Results -/

/-- Whatever a reader gives of the characters `l`, and leaves of them, is as `P` says. -/
def Gives (r : Reader α) (l : List Char) (P : α → List Char → Prop) : Prop :=
  Runs r l fun x l' => ∀ a, x = .ok a → P a l'

namespace Gives

variable {P : α → List Char → Prop} {Q : β → List Char → Prop}

theorem bind {r : Reader α} {f : α → Reader β} (h : Gives r l P)
    (hf : ∀ a l', P a l' → Gives (f a) l' Q) : Gives (r >>= f) l Q :=
  Runs.bind h (fun a l' ha => hf a l' (ha a rfl)) fun _ _ _ _ he => nomatch he

theorem result {r : Reader α} {s : String} {P : α → Prop}
    (h : Gives r s.toList fun a _ => P a) {a : α}
    (ha : (r.runAt (Cursor.ofString s)).1 = .ok a) : P a := h (Cursor.ofString s) rfl a ha

theorem mono {r : Reader α} {P' : α → List Char → Prop} (h : Gives r l P)
    (hP : ∀ a l', P a l' → P' a l') : Gives r l P' := fun c hc a ha => hP a _ (h c hc a ha)

theorem pure {a : α} (h : P a l) : Gives (Pure.pure a) l P := by
  rintro c rfl _ ⟨⟩
  exact h

theorem of_reads {r : Reader α} {a : α} (h : Reads r l a l₁) (hP : P a l₁) : Gives r l P := by
  intro c hc a' ha'
  obtain ⟨ha, hl⟩ := reads_iff_runs.mp h c hc
  rw [ha] at ha'
  cases ha'
  rwa [hl]

theorem of_fails {r : Reader α} (h : Fails r l) : Gives r l P := by
  intro c hc a ha
  obtain ⟨e, he⟩ := h c hc
  rw [ha] at he
  cases he

theorem failHere (cause : Cause) : Gives (Reader.failHere cause) l P :=
  of_fails (failHere_fails cause)

theorem failAhead (cause : Cause) : Gives (Reader.failAhead cause) l P :=
  of_fails (failAhead_fails cause)

theorem complain (complaint : String) : Gives (Reader.complain complaint) l P :=
  of_fails (complain_fails complaint)

theorem throw (e : Fault) : Gives (MonadExcept.throw e) l P := fun _ _ _ h => nomatch h

theorem ite {p : Prop} [Decidable p] {r r' : Reader α} (h : p → Gives r l P)
    (h' : ¬p → Gives r' l P) : Gives (if p then r else r') l P := by
  split
  · exact h ‹_›
  · exact h' ‹_›

theorem get_bind {f : Cursor → Reader β} (h : ∀ c : Cursor, c.rest = l → Gives (f c) l Q) :
    Gives (get >>= f) l Q := Runs.get_bind h

theorem set_bind {c : Cursor} {f : PUnit → Reader β} (hc : c.rest = l₁) (h : Gives (f ⟨⟩) l₁ Q) :
    Gives (set c >>= f) l Q := Runs.set_bind hc h

theorem skip_bind {ch : Char} {f : Unit → Reader β} (h : Gives (f ()) l Q) :
    Gives (skip >>= f) (ch :: l) Q := Runs.skip_bind h

/-- A reader that looks at the next character first. -/
theorem peek_cases {f : Option Char → Reader β}
    (hnil : l = [] → Gives (f none) [] Q)
    (hcons : ∀ c l', l = c :: l' → Gives (f (some c)) (c :: l') Q) : Gives (peek >>= f) l Q := by
  cases l with
  | nil => exact .peek_bind (hnil rfl)
  | cons c l' => exact .peek_bind (hcons c l' rfl)

end Gives

/-! ## Codes -/

/-- The digits of numbers below 16, and no other characters below 128, have a value. -/
theorem hexDigit_table : ∀ k < 128, ∀ n ∈ hexValue? (Char.ofNat k), HexDigit (Char.ofNat k) n := by
  unfold HexDigit
  decide +kernel

theorem hexValue?_table : ∀ n < 16, "0123456789abcdef".toList[n]?.bind hexValue? = some n ∧
    "0123456789ABCDEF".toList[n]?.bind hexValue? = some n := by
  decide +kernel

theorem lt_of_hexValue? {c : Char} {n : Nat} (h : hexValue? c = some n) : c.toNat < 128 := by
  unfold hexValue? at h
  split at h
  · next hd =>
    simp only [Char.isDigit, UInt32.le_iff_toNat_le, Bool.and_eq_true, decide_eq_true_eq,
      ge_iff_le] at hd
    exact Nat.lt_of_le_of_lt hd.2 (by decide)
  · split at h
    · next hd =>
      have := UInt32.le_iff_toNat_le.mp hd.2
      exact Nat.lt_of_le_of_lt this (by decide)
    · split at h
      · next hd =>
        have := UInt32.le_iff_toNat_le.mp hd.2
        exact Nat.lt_of_le_of_lt this (by decide)
      · cases h

theorem hexValue?_eq_some_iff {c : Char} {n : Nat} : hexValue? c = some n ↔ HexDigit c n := by
  constructor
  · intro h
    have := hexDigit_table c.toNat (lt_of_hexValue? h) n
    rw [Char.ofNat_toNat] at this
    exact this h
  · rintro (h | h)
    · have hn := (List.getElem?_eq_some_iff.mp h).1
      have := (hexValue?_table n hn).1
      rwa [h] at this
    · have hn := (List.getElem?_eq_some_iff.mp h).1
      have := (hexValue?_table n hn).2
      rwa [h] at this

theorem simpleEscape?_eq_some_iff {e c : Char} :
    simpleEscape? e = some c ↔ (e, c) ∈ escapeLetters := by
  constructor
  · intro h
    unfold simpleEscape? at h
    split_ifs at h with h₁ h₂ h₃ h₄ h₅ h₆ <;> cases h
    · rcases h₁ with rfl | rfl | rfl <;> decide
    · rw [h₂]; decide
    · rw [h₃]; decide
    · rw [h₄]; decide
    · rw [h₅]; decide
    · rw [h₆]; decide
  · have hall : ∀ p ∈ escapeLetters, simpleEscape? p.1 = some p.2 := by decide
    exact hall (e, c)

theorem hexFour?_eq_some_iff {ds : List Char} {n : Nat} : hexFour? ds = some n ↔ HexCode ds n := by
  constructor
  · intro h
    unfold hexFour? at h
    split at h
    · simp only [Option.bind_eq_bind, Option.bind_eq_some_iff, Option.pure_def, Option.some.injEq]
        at h
      obtain ⟨i, hi, j, hj, k, hk, m, hm, rfl⟩ := h
      have hn : (i * 16 + j) * 256 + k * 16 + m = ((i * 16 + j) * 16 + k) * 16 + m := by omega
      rw [hn]
      exact .digits (hexValue?_eq_some_iff.mp hi) (hexValue?_eq_some_iff.mp hj)
        (hexValue?_eq_some_iff.mp hk) (hexValue?_eq_some_iff.mp hm)
    · cases h
  · rintro ⟨ha, hb, hc, hd⟩
    simp only [hexFour?, hexValue?_eq_some_iff.mpr ha, hexValue?_eq_some_iff.mpr hb,
      hexValue?_eq_some_iff.mpr hc, hexValue?_eq_some_iff.mpr hd, Option.bind_eq_bind,
      Option.bind_some, Option.pure_def, Option.some.injEq]
    omega

theorem utf8Size_of_hexDigit {c : Char} {n : Nat} (h : HexDigit c n) : c.utf8Size = 1 := by
  have hc := lt_of_hexValue? (hexValue?_eq_some_iff.mpr h)
  exact Char.utf8Size_eq_one_iff.mpr (UInt32.le_iff_toNat_le.mpr (Nat.le_of_lt_succ hc))

theorem hexEscape_gives : Gives hexEscape l fun n l' => ∃ ds, HexCode ds n ∧ l = ds ++ l' := by
  refine .get_bind fun c hc => .ite (fun _ => .set_bind rfl (.failHere _)) fun _ => ?_
  split
  · next n hn =>
    refine .set_bind rfl (.pure ⟨c.rest.take 4, hexFour?_eq_some_iff.mp hn, ?_⟩)
    rw [← hc]
    exact (List.take_append_drop 4 c.rest).symm
  · exact .throw _

theorem hexEscape_reads {ds : List Char} {n : Nat} (h : HexCode ds n) (l : List Char) :
    Reads hexEscape (ds ++ l) n l := by
  have hfour := hexFour?_eq_some_iff.mpr h
  cases h with
  | @digits a b c d i j k m ha hb hc hd =>
    refine .get_bind fun cur hcur => ?_
    have htake : cur.rest.take 4 = [a, b, c, d] := by rw [hcur]; rfl
    have hsize : ¬[a, b, c, d].foldl (fun n d => n + d.utf8Size) 0 < 4 := by
      rw [foldl_utf8Size]
      · simp
      · simp [utf8Size_of_hexDigit ha, utf8Size_of_hexDigit hb, utf8Size_of_hexDigit hc,
          utf8Size_of_hexDigit hd]
    simp only [htake, hfour, if_neg hsize]
    refine .set_bind ?_ (.pure _ l)
    rw [hcur]
    rfl

/-! ## Strings -/

theorem pairPart_gives (want : Char) : Gives (pairPart want) l fun _ l' => l = want :: l' := by
  refine .peek_cases (fun _ => .failHere _) fun c l' hl => .ite (fun hc => ?_) fun _ => .failAhead _
  exact .of_reads (.skip c l') (by rw [hl, hc])

theorem pairPart_reads (want : Char) (l : List Char) : Reads (pairPart want) (want :: l) () l := by
  refine .peek_bind ?_
  show Reads (if want = want then skip else failAhead .unexpectedHexEnd) _ _ _
  rw [if_pos rfl]
  exact .skip want l

theorem unicodeEscape_gives :
    Gives unicodeEscape l fun c l' => ∃ e, Escapes ('u' :: e) c ∧ l = e ++ l' := by
  refine hexEscape_gives.bind fun n l₁ ⟨ds, hds, hl⟩ => .ite (fun _ => .failHere _) fun hlow => ?_
  refine .ite (fun hn => .pure ⟨ds, .code hds (by omega), hl⟩) fun hn => ?_
  refine (pairPart_gives '\\').bind fun _ l₂ hl₂ => (pairPart_gives 'u').bind fun _ l₃ hl₃ => ?_
  refine hexEscape_gives.bind fun m l₄ ⟨es, hes, hl₄⟩ => .ite (fun _ => .failHere _) fun hm => ?_
  refine .pure ⟨ds ++ '\\' :: 'u' :: es, .pair hds hes (by omega) (by omega), ?_⟩
  rw [hl, hl₂, hl₃, hl₄]
  simp

theorem unicodeEscape_spelt {e : List Char} {c : Char} (h : Escapes ('u' :: e) c) (l : List Char) :
    Reads unicodeEscape (e ++ l) c l := by
  cases h with
  | letter h => exact absurd h (by simp [escapeLetters])
  | code hds hn =>
    refine (hexEscape_reads hds l).bind ?_
    rw [if_neg (by omega), if_pos (by omega)]
    exact .pure _ l
  | pair hds hes hn hm =>
    rw [List.append_assoc]
    refine (hexEscape_reads hds _).bind ?_
    rw [if_neg (by omega), if_neg (by omega)]
    refine (pairPart_reads '\\' _).bind ((pairPart_reads 'u' _).bind ?_)
    refine (hexEscape_reads hes l).bind ?_
    rw [if_neg (by omega)]
    exact .pure _ l

theorem escape_gives : Gives escape l fun c l' => ∃ e, Escapes e c ∧ l = e ++ l' := by
  refine .peek_cases (fun _ => .failHere _) fun d l₁ hl => .ite (fun hd => ?_) fun _ => ?_
  · refine .skip_bind (unicodeEscape_gives.mono fun c l' ⟨e, he, hl₁⟩ => ⟨'u' :: e, he, ?_⟩)
    rw [hl, hd, hl₁]
    rfl
  · split
    · next c hc =>
      exact .skip_bind (.pure ⟨[d], .letter (simpleEscape?_eq_some_iff.mp hc), hl⟩)
    · exact .failAhead _

theorem escape_spelt {e : List Char} {c : Char} (h : Escapes e c) (l : List Char) :
    Reads escape (e ++ l) c l := by
  cases h with
  | @letter d c h =>
    exact escape_reads (by rintro rfl; exact absurd h (by simp [escapeLetters]))
      (simpleEscape?_eq_some_iff.mpr h) l
  | code hds hn => exact .peek_bind (.skip_bind (unicodeEscape_spelt (.code hds hn) l))
  | pair hds hes hn hm =>
    exact .peek_bind (.skip_bind (unicodeEscape_spelt (.pair hds hes hn hm) l))

theorem stringLoop_gives (fuel : Nat) (acc : List Char) :
    Gives (stringLoop fuel acc) l fun s l' => ∃ cs t, Spells cs t ∧
      s = String.ofList (acc.reverse ++ t) ∧ l = cs ++ '"' :: l' := by
  induction fuel generalizing acc l with
  | zero => exact .failHere _
  | succ fuel ih =>
    refine .peek_cases (fun _ => .failHere _) fun c l₁ hl => .ite (fun hq => ?_) fun hq =>
      .ite (fun hb => ?_) fun hb => .ite (fun _ => .failAhead _) fun hc => ?_
    · refine .skip_bind (.pure ⟨[], [], .nil, ?_, ?_⟩)
      · rw [List.append_nil]
      · rw [hl, hq]
        rfl
    · refine .skip_bind (escape_gives.bind fun d l₂ ⟨e, he, hl₁⟩ => (ih (d :: acc)).mono ?_)
      rintro s l' ⟨cs, t, ht, rfl, hl₂⟩
      refine ⟨_, _, .escape he ht, ?_, ?_⟩
      · rw [List.reverse_cons, List.append_assoc]
        rfl
      · rw [hl, hb, hl₁, hl₂]
        simp
    · refine .skip_bind ((ih (c :: acc)).mono ?_)
      rintro s l' ⟨cs, t, ht, rfl, hl₁⟩
      refine ⟨_, _, .plain ⟨hq, hb, Nat.le_of_not_lt hc⟩ ht, ?_, ?_⟩
      · rw [List.reverse_cons, List.append_assoc]
        rfl
      · rw [hl, hl₁]
        rfl

/-- What is read as a string is the spelling of a text up to the closing quote. -/
theorem string_gives :
    Gives string l fun s l' => ∃ cs, Spells cs s.toList ∧ l = cs ++ '"' :: l' := by
  refine .get_bind fun c hc => (stringLoop_gives _ []).mono ?_
  rintro s l' ⟨cs, t, ht, rfl, hl⟩
  exact ⟨cs, by rwa [List.reverse_nil, List.nil_append, String.toList_ofList], hl⟩

theorem stringLoop_spelt {cs s : List Char} (h : Spells cs s) {fuel : Nat} (hf : s.length < fuel)
    (acc l : List Char) :
    Reads (stringLoop fuel acc) (cs ++ '"' :: l) (String.ofList (acc.reverse ++ s)) l := by
  induction h generalizing fuel acc with
  | nil =>
    obtain ⟨n, rfl⟩ := Nat.exists_eq_add_one.mpr hf
    rw [List.append_nil]
    exact .peek_bind (.skip_bind (.pure _ l))
  | @plain c cs s hc h ih =>
    obtain ⟨n, rfl⟩ := Nat.exists_eq_add_one.mpr (Nat.zero_lt_of_lt hf)
    have hrest := ih (Nat.lt_of_succ_lt_succ hf) (c :: acc)
    rw [List.reverse_cons, List.append_assoc] at hrest
    obtain ⟨hq, hb, hlow⟩ := hc
    exact reads_iff_runs.mpr
      (stringLoop_plain hq hb (Nat.not_lt.mpr hlow) (reads_iff_runs.mp hrest))
  | @escape e c cs s he h ih =>
    obtain ⟨n, rfl⟩ := Nat.exists_eq_add_one.mpr (Nat.zero_lt_of_lt hf)
    have hrest := ih (Nat.lt_of_succ_lt_succ hf) (c :: acc)
    rw [List.reverse_cons, List.append_assoc] at hrest
    rw [List.cons_append, List.append_assoc]
    exact reads_iff_runs.mpr (stringLoop_escape (escape_spelt he) (reads_iff_runs.mp hrest))

/-- Every spelling is read as the text that it spells. -/
theorem string_spelt {cs : List Char} {s : String} (h : Spells cs s.toList) (l : List Char) :
    Reads string (cs ++ '"' :: l) s l := by
  refine .get_bind fun c hc => ?_
  have hf : s.toList.length < c.rest.length + 1 := by
    have := h.length_le
    rw [hc, List.length_append]
    omega
  have hr := stringLoop_spelt h hf [] l
  rwa [List.reverse_nil, List.nil_append, String.ofList_toList] at hr

/-! ## Passed strings -/

theorem discard_bind (r : Reader α) (f : Unit → Reader β) :
    (discard r >>= f) = r >>= fun _ => f () := bind_map_left ..

theorem ignoreStringLoop_gives (fuel : Nat) :
    Gives (ignoreStringLoop fuel) l fun _ l' => ∃ cs, Passes cs ∧ l = cs ++ '"' :: l' := by
  induction fuel generalizing l with
  | zero => exact .failHere _
  | succ fuel ih =>
    refine .peek_cases (fun _ => .failHere _) fun c l₁ hl => .ite (fun hq => ?_) fun hq =>
      .ite (fun hb => ?_) fun hb => .ite (fun _ => .failHere _) fun hc => ?_
    · exact .of_reads (.skip c l₁) ⟨[], .nil, by rw [hl, hq]; rfl⟩
    · refine .skip_bind (.peek_cases (fun _ => .failHere _) fun d l₂ hl₁ => .ite (fun hd => ?_)
        fun _ => .ite (fun hd => ?_) fun _ => .failAhead _)
      · refine .skip_bind ?_
        rw [discard_bind]
        refine hexEscape_gives.bind fun n l₃ ⟨ds, hds, hl₂⟩ => ih.mono ?_
        rintro _ l' ⟨cs, hcs, hl₃⟩
        refine ⟨_, .code hds hcs, ?_⟩
        rw [hl, hb, hl₁, hd, hl₂, hl₃]
        simp
      · obtain ⟨x, hx⟩ := Option.isSome_iff_exists.mp hd
        refine .skip_bind (ih.mono ?_)
        rintro _ l' ⟨cs, hcs, hl₂⟩
        refine ⟨_, .letter (simpleEscape?_eq_some_iff.mp hx) hcs, ?_⟩
        rw [hl, hb, hl₁, hl₂]
        rfl
    · refine .skip_bind (ih.mono ?_)
      rintro _ l' ⟨cs, hcs, hl₁⟩
      refine ⟨_, .plain ⟨hq, hb, Nat.le_of_not_lt hc⟩ hcs, ?_⟩
      rw [hl, hl₁]
      rfl

theorem ignoreString_gives :
    Gives ignoreString l fun _ l' => ∃ cs, Passes cs ∧ l = cs ++ '"' :: l' :=
  .get_bind fun _ _ => ignoreStringLoop_gives _

theorem ignoreStringLoop_passes {cs : List Char} (h : Passes cs) {fuel : Nat}
    (hf : cs.length < fuel) (l : List Char) :
    Reads (ignoreStringLoop fuel) (cs ++ '"' :: l) () l := by
  induction h generalizing fuel with
  | nil =>
    obtain ⟨n, rfl⟩ := Nat.exists_eq_add_one.mpr hf
    exact .peek_bind (.skip '"' l)
  | @plain c cs hc h ih =>
    obtain ⟨n, rfl⟩ := Nat.exists_eq_add_one.mpr (Nat.zero_lt_of_lt hf)
    obtain ⟨hq, hb, hlow⟩ := hc
    refine .peek_bind ?_
    show Reads (if c = '"' then _ else if c = '\\' then _ else if c.toNat < 0x20 then _ else _)
      _ _ _
    rw [if_neg hq, if_neg hb, if_neg (Nat.not_lt.mpr hlow)]
    exact .skip_bind (ih (Nat.lt_of_succ_lt_succ hf))
  | @letter e c cs he h ih =>
    obtain ⟨n, rfl⟩ := Nat.exists_eq_add_one.mpr (Nat.zero_lt_of_lt hf)
    have hn : cs.length < n := by
      simp only [List.length_cons] at hf
      omega
    have hu : e ≠ 'u' := by
      rintro rfl
      exact absurd he (by simp [escapeLetters])
    have hsome : (simpleEscape? e).isSome := by rw [simpleEscape?_eq_some_iff.mpr he]; rfl
    refine .peek_bind (.skip_bind (.peek_bind ?_))
    show Reads (if e = 'u' then _ else if (simpleEscape? e).isSome then _ else _) _ _ _
    rw [if_neg hu, if_pos hsome]
    exact .skip_bind (ih hn)
  | @code ds n cs hds h ih =>
    obtain ⟨m, rfl⟩ := Nat.exists_eq_add_one.mpr (Nat.zero_lt_of_lt hf)
    have hm : cs.length < m := by
      simp only [List.length_cons, List.length_append] at hf
      omega
    rw [List.cons_append, List.cons_append, List.append_assoc]
    refine .peek_bind (.skip_bind (.peek_bind (.skip_bind ?_)))
    rw [discard_bind]
    exact (hexEscape_reads hds _).bind (ih hm)

theorem ignoreString_passes {cs : List Char} (h : Passes cs) (l : List Char) :
    Reads ignoreString (cs ++ '"' :: l) () l := by
  refine .get_bind fun c hc => ignoreStringLoop_passes h ?_ l
  rw [hc, List.length_append]
  omega

end Reader

/-! ## Written strings -/

theorem hexDigit_hexDigit : ∀ n < 16, HexDigit (hexDigit n) n := by
  unfold HexDigit
  decide

/-- What is written for a character spells it. -/
theorem Spells.escapeChar (c : Char) {cs s : List Char} (h : Spells cs s) :
    Spells (Json.escapeChar c ++ cs) (c :: s) := by
  have hof {n : Nat} (hn : c.toNat = n) : c = Char.ofNat n := hn ▸ (Char.ofNat_toNat c).symm
  have hletter {e : Char} (he : (e, c) ∈ escapeLetters) : Spells ('\\' :: e :: cs) (c :: s) :=
    .escape (.letter he) h
  unfold Json.escapeChar
  split_ifs with hquote hslash hb ht hn hf hr hlow
  · subst hquote
    exact hletter (by decide)
  · subst hslash
    exact hletter (by decide)
  · obtain rfl := hof hb
    exact hletter (by decide)
  · obtain rfl := hof ht
    exact hletter (by decide)
  · obtain rfl := hof hn
    exact hletter (by decide)
  · obtain rfl := hof hf
    exact hletter (by decide)
  · obtain rfl := hof hr
    exact hletter (by decide)
  · have hzero := hexDigit_hexDigit 0 (by decide)
    have hcode := Escapes.code (HexCode.digits hzero hzero
      (hexDigit_hexDigit (c.toNat / 16) (by omega)) (hexDigit_hexDigit (c.toNat % 16) (by omega)))
      (.inl (by omega))
    have hc : ((0 * 16 + 0) * 16 + c.toNat / 16) * 16 + c.toNat % 16 = c.toNat := by omega
    rw [hc, Char.ofNat_toNat] at hcode
    exact .escape hcode h
  · exact .plain ⟨hquote, hslash, by omega⟩ h

theorem spells_escaped (cs : List Char) : Spells (cs.flatMap escapeChar) cs := by
  induction cs with
  | nil => exact .nil
  | cons c cs ih =>
    rw [List.flatMap_cons]
    exact ih.escapeChar c

theorem quotes_quoteList (s : String) : Quotes (quoteList s.toList) s :=
  ⟨_, rfl, spells_escaped s.toList⟩

end DrainGuard.Json
