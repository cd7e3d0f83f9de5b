import Mathlib.Data.List.TakeWhile
import DrainGuard.Proofs.Json.Records
import DrainGuard.Proofs.Json.Strings

/-!
# Passing numbers and words

A value that starts with neither bracket is a word, a number or a string. It is passed by its form;
what it stands for does not matter.

- **Tokens** (`Gives.token_cases`, `Reads.token_bind`): blanks before a token do not count.
- **Numbers** (`ignoreNumber_gives`, `ignoreNumber_numeral`): a number is passed exactly if it is
  written as one.
- **Values without brackets** (`ignoreScalar_gives`, `Unbracketed`): what is passed is a value, and
  each is passed by its first character.
-/

namespace DrainGuard.Json

open Reader (isGap Frame Ends)

/-! ## Blanks -/

theorem isGap_iff {c : Char} : isGap c = true ↔ c ∈ [' ', '\t', '\n', '\r'] := by
  simp only [isGap, Bool.or_eq_true, decide_eq_true_eq, List.mem_cons, List.not_mem_nil, or_false,
    or_assoc]
  exact or_congr_right or_left_comm

theorem gap_iff {g : List Char} : Gap g ↔ ∀ c ∈ g, isGap c = true :=
  forall₂_congr fun _ _ => isGap_iff.symm

theorem gap_nil : Gap [] := fun _ h => nomatch h

theorem Gap.append {g g' : List Char} (h : Gap g) (h' : Gap g') : Gap (g ++ g') :=
  fun c hc => (List.mem_append.mp hc).elim (h c) (h' c)

/-- Every text begins with blanks, if only with none. -/
theorem exists_gap (l : List Char) :
    ∃ g l', l = g ++ l' ∧ Gap g ∧ ∀ c ∈ l'.head?, isGap c = false := by
  refine ⟨l.takeWhile isGap, l.dropWhile isGap, List.takeWhile_append_dropWhile.symm, ?_, ?_⟩
  · exact gap_iff.mpr fun c hc => List.mem_takeWhile_imp hc
  · intro c hc
    have := List.head?_dropWhile_not isGap l
    rw [Option.mem_def.mp hc] at this
    simpa using this

/-! ## How the parts of a number begin -/

theorem Digits.head? {ds : List Char} (h : Digits ds) (l : List Char) :
    ∃ c, c.isDigit = true ∧ (ds ++ l).head? = some c := by
  obtain ⟨c, ds, rfl⟩ := List.exists_cons_of_ne_nil h.1
  exact ⟨c, h.2 c List.mem_cons_self, rfl⟩

/-- A power of ten, or what is behind it, does not go on with digits. -/
theorem Exponent.head? {e l : List Char} (he : Exponent e) (hl : Ends l) :
    ∀ c ∈ (e ++ l).head?, c.isDigit = false ∧ c ≠ '.' := by
  rcases he with rfl | ⟨x, sign, ds, hx, -, -, rfl⟩
  · exact fun c hc => ⟨(hl c hc).1, (hl c hc).2.1⟩
  · rintro c ⟨rfl⟩
    rcases hx with rfl | rfl <;> decide

/-- What is behind the integral part of a number does not go on with digits. -/
theorem Decimals.head? {d e l : List Char} (hd : Decimals d) (he : Exponent e) (hl : Ends l) :
    ∀ c ∈ (d ++ (e ++ l)).head?, c.isDigit = false := by
  rcases hd with rfl | ⟨ds, hds, rfl⟩
  · exact fun c hc => (he.head? hl c hc).1
  · rintro c ⟨rfl⟩
    rfl

namespace Reader

variable {α β : Type} {l l₁ : List Char}

/-! ## Tokens -/

theorem Gives.token_cases {f : Option Char → Reader β} {Q : β → List Char → Prop}
    (hnil : Gap l → Gives (f none) [] Q)
    (hcons : ∀ g c l', Gap g → isGap c = false → l = g ++ c :: l' →
      Gives (f (some c)) (c :: l') Q) : Gives (peekToken >>= f) l Q := by
  obtain ⟨g, l', rfl, hg, hhead⟩ := exists_gap l
  refine Runs.peekToken_bind (gap_iff.mp hg) hhead ?_
  cases l' with
  | nil => exact hnil (by rwa [List.append_nil])
  | cons c l' => exact hcons g c l' hg (hhead c rfl) rfl

theorem Reads.token_bind {c : Char} {g : List Char} {b : β} {f : Option Char → Reader β}
    (hg : Gap g) (hc : isGap c = false) (h : Reads (f (some c)) (c :: l) b l₁) :
    Reads (peekToken >>= f) (g ++ c :: l) b l₁ := by
  refine reads_iff_runs.mpr (.peekToken_bind (gap_iff.mp hg) ?_ (reads_iff_runs.mp h))
  rintro ch ⟨rfl⟩
  exact hc

/-! ## Numbers -/

theorem word_gives (ws : List Char) : Gives (word ws) l fun _ l' => l = ws ++ l' := by
  induction ws generalizing l with
  | nil => exact .pure rfl
  | cons w ws ih =>
    refine .peek_cases (fun _ => .failHere _) fun c l' hl => .ite (fun hc => ?_) fun _ =>
      .failAhead _
    refine .skip_bind (ih.mono fun _ l'' hl' => ?_)
    rw [hl, hc, hl']
    rfl

theorem skipDigits_dropWhile (l : List Char) :
    Reads skipDigits l () (l.dropWhile Char.isDigit) := by
  rintro c rfl
  refine ⟨_, rfl, ?_⟩
  show c.rest.drop (c.rest.takeWhile Char.isDigit).length = c.rest.dropWhile Char.isDigit
  have hsplit := List.takeWhile_append_dropWhile (p := Char.isDigit) (l := c.rest)
  calc c.rest.drop (c.rest.takeWhile Char.isDigit).length
    _ = (c.rest.takeWhile Char.isDigit ++ c.rest.dropWhile Char.isDigit).drop
        (c.rest.takeWhile Char.isDigit).length := by rw [hsplit]
    _ = c.rest.dropWhile Char.isDigit := List.drop_left

theorem skipDigits_gives {c : Char} (hc : c.isDigit = true) :
    Gives skipDigits (c :: l) fun _ l' => ∃ ds, Digits (c :: ds) ∧ c :: l = (c :: ds) ++ l' := by
  refine .of_reads (skipDigits_dropWhile _)
    ⟨l.takeWhile Char.isDigit, ⟨List.cons_ne_nil _ _, ?_⟩, ?_⟩
  · exact List.forall_mem_cons.mpr ⟨hc, fun d hd => List.mem_takeWhile_imp hd⟩
  · rw [List.dropWhile_cons_of_pos hc, List.cons_append, List.takeWhile_append_dropWhile]

theorem skipDigits_reads {ds : List Char} (hds : ∀ c ∈ ds, c.isDigit = true)
    (hl : ∀ c ∈ l.head?, c.isDigit = false) : Reads skipDigits (ds ++ l) () l := by
  have hdrop : (ds ++ l).dropWhile Char.isDigit = l := by
    rw [List.dropWhile_append_of_pos hds]
    cases l with
    | nil => rfl
    | cons c l => exact List.dropWhile_cons_of_neg (by simp [hl c rfl])
  have h := skipDigits_dropWhile (ds ++ l)
  rwa [hdrop] at h

/-- Passes digits, one at least. -/
def ignoreDigits : Reader Unit := do
  match ← peek with
  | none => failHere .invalidNumber
  | some c => if c.isDigit then skipDigits else failAhead .invalidNumber

/-- Passes a power of ten, if there is one. -/
def ignoreExponent : Reader Unit := do
  if (← peek) = some 'e' ∨ (← peek) = some 'E' then do
    skip
    if (← peek) = some '+' ∨ (← peek) = some '-' then skip
    ignoreDigits

/-- Passes decimals and a power of ten, if there are any. -/
def ignoreDecimals : Reader Unit := do
  if (← peek) = some '.' then do
    skip
    if ← atDigit then skipDigits else failAhead .invalidNumber
  ignoreExponent

theorem ignoreNumber_eq : ignoreNumber = (do
    match ← peek with
    | none => failHere .invalidNumber
    | some c =>
      if c = '0' then do
        skip
        if ← atDigit then failAhead .invalidNumber else ignoreDecimals
      else if c.isDigit then do
        skipDigits
        ignoreDecimals
      else failAhead .invalidNumber) := rfl

theorem Runs.atDigit_bind {f : Bool → Reader β} {Q : Except Fault β → List Char → Prop}
    (h : Runs (f (l.head?.any Char.isDigit)) l Q) : Runs (atDigit >>= f) l Q := by
  rintro c rfl
  exact h c rfl

theorem Reads.atDigit_bind {f : Bool → Reader β} {b : β}
    (h : Reads (f (l.head?.any Char.isDigit)) l b l₁) : Reads (atDigit >>= f) l b l₁ :=
  reads_iff_runs.mpr (.atDigit_bind (reads_iff_runs.mp h))

theorem ignoreDigits_gives : Gives ignoreDigits l fun _ l' => ∃ ds, Digits ds ∧ l = ds ++ l' := by
  refine .peek_cases (fun _ => .failHere _) fun c l₁ hl => .ite (fun hc => ?_) fun _ => .failAhead _
  rw [hl]
  exact (skipDigits_gives hc).mono fun _ _ ⟨ds, hds, h⟩ => ⟨c :: ds, hds, h⟩

theorem ignoreExponent_gives :
    Gives ignoreExponent l fun _ l' => ∃ e, Exponent e ∧ l = e ++ l' := by
  refine Runs.peek_bind (Runs.peek_bind (Gives.ite (fun he => ?_) fun _ => ?_))
  · obtain ⟨x, l₁, rfl⟩ := List.exists_cons_of_ne_nil (show l ≠ [] by rintro rfl; simp at he)
    have hx : x = 'e' ∨ x = 'E' := by simpa using he
    refine .skip_bind (Runs.peek_bind (Runs.peek_bind (Gives.ite (fun hs => ?_) fun _ => ?_)))
    · obtain ⟨y, l₂, rfl⟩ := List.exists_cons_of_ne_nil (show l₁ ≠ [] by rintro rfl; simp at hs)
      have hy : y = '+' ∨ y = '-' := by simpa using hs
      refine .skip_bind (ignoreDigits_gives.mono fun _ l' ⟨ds, hds, hl⟩ => ?_)
      refine ⟨x :: ([y] ++ ds), .inr ⟨x, [y], ds, hx, .inr ?_, hds, rfl⟩, by rw [hl]; rfl⟩
      exact hy.imp (congrArg fun c => [c]) (congrArg fun c => [c])
    · refine ignoreDigits_gives.mono fun _ l' ⟨ds, hds, hl⟩ => ?_
      exact ⟨x :: ([] ++ ds), .inr ⟨x, [], ds, hx, .inl rfl, hds, rfl⟩, by rw [hl]; rfl⟩
  · exact .pure ⟨[], .inl rfl, rfl⟩

theorem ignoreDecimals_gives :
    Gives ignoreDecimals l fun _ l' => ∃ d e, Decimals d ∧ Exponent e ∧ l = d ++ (e ++ l') := by
  refine Runs.peek_bind (Gives.ite (fun hp => ?_) fun _ => ?_)
  · obtain ⟨x, l₁, rfl⟩ := List.exists_cons_of_ne_nil (show l ≠ [] by rintro rfl; simp at hp)
    have hx : x = '.' := by simpa using hp
    refine .skip_bind (Runs.atDigit_bind (Gives.ite (fun hd => ?_) fun _ => ?_))
    · obtain ⟨c, l₂, rfl⟩ := List.exists_cons_of_ne_nil (show l₁ ≠ [] by rintro rfl; simp at hd)
      refine (skipDigits_gives (by simpa using hd)).bind fun _ l₃ ⟨ds, hds, hl⟩ => ?_
      refine ignoreExponent_gives.mono fun _ l' ⟨e, he, hl₃⟩ => ?_
      exact ⟨'.' :: c :: ds, e, .inr ⟨c :: ds, hds, rfl⟩, he, by rw [hx, hl, hl₃]; rfl⟩
    · exact (Gives.failAhead _).bind (P := fun _ _ => False) fun _ _ h => h.elim
  · exact ignoreExponent_gives.mono fun _ l' ⟨e, he, hl⟩ => ⟨[], e, .inl rfl, he, hl⟩

theorem ignoreNumber_gives :
    Gives ignoreNumber l fun _ l' => ∃ cs, IsNumeral cs ∧ l = cs ++ l' := by
  rw [ignoreNumber_eq]
  refine .peek_cases (fun _ => .failHere _) fun c l₁ hl => .ite (fun hc => ?_) fun hc =>
    .ite (fun hd => ?_) fun _ => .failAhead _
  · refine .skip_bind (Runs.atDigit_bind (Gives.ite (fun _ => .failAhead _) fun _ => ?_))
    refine ignoreDecimals_gives.mono fun _ l' ⟨d, e, hd, he, hl₁⟩ => ?_
    exact ⟨['0'] ++ (d ++ e), ⟨['0'], d, e, .inl rfl, hd, he, rfl⟩, by rw [hl, hc, hl₁]; simp⟩
  · refine (skipDigits_gives hd).bind fun _ l₂ ⟨ds, hds, hl₁⟩ => ?_
    refine ignoreDecimals_gives.mono fun _ l' ⟨d, e, hd, he, hl₂⟩ => ?_
    have hlead : (c :: ds).head? ≠ some '0' := fun h => hc (Option.some.inj h)
    exact ⟨(c :: ds) ++ (d ++ e), ⟨c :: ds, d, e, .inr ⟨hds, hlead⟩, hd, he, rfl⟩,
      by rw [hl, hl₁, hl₂]; simp⟩

/-! What is a number is passed as one. -/

theorem ignoreDigits_reads {ds : List Char} (hds : Digits ds)
    (hl : ∀ c ∈ l.head?, c.isDigit = false) : Reads ignoreDigits (ds ++ l) () l := by
  obtain ⟨c, hc, hhead⟩ := hds.head? l
  refine .peek_bind ?_
  rw [hhead]
  show Reads (if c.isDigit then skipDigits else failAhead .invalidNumber) _ _ _
  rw [if_pos hc]
  exact skipDigits_reads hds.2 hl

theorem ignoreExponent_reads {e : List Char} (he : Exponent e) (hl : Ends l) :
    Reads ignoreExponent (e ++ l) () l := by
  have hdigit : ∀ c ∈ l.head?, c.isDigit = false := fun c hc => (hl c hc).1
  rcases he with rfl | ⟨x, sign, ds, hx, hs, hds, rfl⟩
  · have hnone : ¬(l.head? = some 'e' ∨ l.head? = some 'E') := by
      rintro (h | h)
      · exact (hl _ h).2.2.1 rfl
      · exact (hl _ h).2.2.2 rfl
    refine .peek_bind (.peek_bind ?_)
    rw [List.nil_append, if_neg hnone]
    exact .pure () l
  · have hsome : (x :: (sign ++ ds) ++ l).head? = some 'e' ∨
        (x :: (sign ++ ds) ++ l).head? = some 'E' :=
      hx.imp (congrArg some) (congrArg some)
    refine .peek_bind (.peek_bind ?_)
    rw [if_pos hsome, List.cons_append, List.append_assoc]
    refine .skip_bind (.peek_bind (.peek_bind ?_))
    have hdigits := ignoreDigits_reads hds hdigit
    rcases hs with rfl | rfl | rfl
    · obtain ⟨c, hc, hhead⟩ := hds.head? l
      rw [List.nil_append, hhead, if_neg]
      · exact hdigits
      · rintro (h | h)
        · exact absurd hc (Option.some.inj h ▸ by decide)
        · exact absurd hc (Option.some.inj h ▸ by decide)
    · exact .skip_bind hdigits
    · exact .skip_bind hdigits

theorem ignoreDecimals_reads {d e : List Char} (hd : Decimals d) (he : Exponent e) (hl : Ends l) :
    Reads ignoreDecimals (d ++ (e ++ l)) () l := by
  have hexp := ignoreExponent_reads he hl
  have hhead := he.head? hl
  rcases hd with rfl | ⟨ds, hds, rfl⟩
  · have hnone : ¬(e ++ l).head? = some '.' := fun h => (hhead _ h).2 rfl
    refine .peek_bind ?_
    rw [List.nil_append, if_neg hnone]
    exact hexp
  · obtain ⟨c, hc, hc'⟩ := hds.head? (e ++ l)
    have hany : (ds ++ (e ++ l)).head?.any Char.isDigit = true := by
      rw [hc']
      exact hc
    rw [List.cons_append]
    refine .peek_bind (.skip_bind (.atDigit_bind ?_))
    rw [if_pos hany]
    exact (skipDigits_reads hds.2 fun c hc => (hhead c hc).1).bind hexp

theorem ignoreNumber_numeral {cs : List Char} (h : IsNumeral cs) (hl : Ends l) :
    Reads ignoreNumber (cs ++ l) () l := by
  obtain ⟨i, d, e, hi, hd, he, rfl⟩ := h
  have hdec := ignoreDecimals_reads hd he hl
  have hhead := hd.head? he hl
  rw [ignoreNumber_eq, List.append_assoc, List.append_assoc]
  rcases hi with rfl | ⟨hds, hlead⟩
  · have hany : ¬(d ++ (e ++ l)).head?.any Char.isDigit = true := by
      rw [Option.any_eq_true]
      rintro ⟨c, hc, hdig⟩
      exact absurd hdig (by simp [hhead c hc])
    rw [List.singleton_append]
    refine .peek_bind (.skip_bind (.atDigit_bind ?_))
    rw [if_neg hany]
    exact hdec
  · obtain ⟨c, ds, rfl⟩ := List.exists_cons_of_ne_nil hds.1
    have hc : ¬c = '0' := fun h => hlead (congrArg some h)
    refine .peek_bind ?_
    show Reads (if c = '0' then _ else if c.isDigit then _ else _) _ _ _
    rw [if_neg hc, if_pos (hds.2 c List.mem_cons_self)]
    exact (skipDigits_reads hds.2 hhead).bind hdec

/-! ## Scalars -/

/-- Passes a value that starts with neither bracket. -/
def ignoreScalar (c : Char) : Reader Unit :=
  if c = 'n' then do skip; word "ull".toList
  else if c = 't' then do skip; word "rue".toList
  else if c = 'f' then do skip; word "alse".toList
  else if c = '-' then do skip; ignoreNumber
  else if c.isDigit then ignoreNumber
  else if c = '"' then do skip; ignoreString
  else failAhead .expectedValue

theorem ignoreScalar_gives {c : Char} :
    Gives (ignoreScalar c) (c :: l) fun _ l' => ∃ v, Written .value v ∧ c :: l = v ++ l' := by
  have hword {w : Char} {ws : String} {u : String} (hw : u ∈ ["null", "true", "false"])
      (hu : u.toList = w :: ws.toList) (hc : c = w) :
      Gives (do skip; word ws.toList) (c :: l) fun _ l' =>
        ∃ v, Written .value v ∧ c :: l = v ++ l' := by
    refine .skip_bind ((word_gives _).mono fun _ l' hl => ⟨u.toList, .word hw, ?_⟩)
    rw [hu, hc, hl]
    rfl
  refine .ite (hword (u := "null") (by decide) rfl) fun _ =>
    .ite (hword (u := "true") (by decide) rfl) fun _ =>
    .ite (hword (u := "false") (by decide) rfl) fun _ =>
    .ite (fun hc => .skip_bind ?_) fun _ => .ite (fun _ => ?_) fun _ =>
    .ite (fun hc => .skip_bind ?_) fun _ => .failAhead _
  · refine ignoreNumber_gives.mono fun _ l' ⟨cs, hcs, hl⟩ => ⟨'-' :: cs, .negative hcs, ?_⟩
    rw [hc, hl]
    rfl
  · exact ignoreNumber_gives.mono fun _ l' ⟨cs, hcs, hl⟩ => ⟨cs, .positive hcs, hl⟩
  · refine ignoreString_gives.mono fun _ l' ⟨cs, hcs, hl⟩ => ⟨_, .string hcs, ?_⟩
    rw [hc, hl]
    simp

/-- A character that a value can begin with. -/
structure Starts (c : Char) : Prop where
  gap : isGap c = false
  comma : c ≠ ','
  close (f : Frame) : c ≠ f.close

theorem starts_of_ne {c : Char} (h : isGap c = false ∧ c ≠ ',' ∧ c ≠ ']' ∧ c ≠ '}') : Starts c where
  gap := h.1
  comma := h.2.1
  close
    | .list => h.2.2.1
    | .object => h.2.2.2

theorem starts_opening (f : Frame) : Starts (opening f) := by
  cases f <;> exact starts_of_ne (by decide)

/-- A text that is passed as a value that starts with neither bracket. -/
def Unbracketed (v : List Char) : Prop :=
  ∃ c t, v = c :: t ∧ Starts c ∧ c ≠ '[' ∧ c ≠ '{' ∧
    ∀ l, Ends l → Reads (ignoreScalar c) (c :: (t ++ l)) () l

theorem word_unbracketed {w : String} (hw : w ∈ ["null", "true", "false"]) :
    Unbracketed w.toList := by
  have hor : w = "null" ∨ w = "true" ∨ w = "false" := by simpa using hw
  rcases hor with rfl | rfl | rfl
  · exact ⟨'n', "ull".toList, rfl, starts_of_ne (by decide), by decide, by decide,
      fun l _ => .skip_bind (word_reads _ l)⟩
  · exact ⟨'t', "rue".toList, rfl, starts_of_ne (by decide), by decide, by decide,
      fun l _ => .skip_bind (word_reads _ l)⟩
  · exact ⟨'f', "alse".toList, rfl, starts_of_ne (by decide), by decide, by decide,
      fun l _ => .skip_bind (word_reads _ l)⟩

theorem numeral_unbracketed {cs : List Char} (h : IsNumeral cs) : Unbracketed cs := by
  have hhead : ∃ c t, cs = c :: t ∧ c.isDigit = true := by
    obtain ⟨i, d, e, rfl | ⟨hds, -⟩, -, -, rfl⟩ := h
    · exact ⟨'0', _, rfl, rfl⟩
    · obtain ⟨c, ds, rfl⟩ := List.exists_cons_of_ne_nil hds.1
      exact ⟨c, _, rfl, hds.2 c List.mem_cons_self⟩
  obtain ⟨c, t, rfl, hc⟩ := hhead
  have hne := ne_of_isDigit hc
  have hstarts : Starts c :=
    starts_of_ne ⟨(digit_starts hc).1, hne ',' rfl, hne ']' rfl, hne '}' rfl⟩
  refine ⟨c, t, rfl, hstarts, hne '[' rfl, hne '{' rfl, fun l hl => ?_⟩
  unfold ignoreScalar
  rw [if_neg (hne 'n' rfl), if_neg (hne 't' rfl), if_neg (hne 'f' rfl), if_neg (hne '-' rfl),
    if_pos hc]
  exact ignoreNumber_numeral h hl

theorem negative_unbracketed {cs : List Char} (h : IsNumeral cs) : Unbracketed ('-' :: cs) :=
  ⟨'-', cs, rfl, starts_of_ne (by decide), by decide, by decide,
    fun _ hl => .skip_bind (ignoreNumber_numeral h hl)⟩

theorem string_unbracketed {cs : List Char} (h : Passes cs) :
    Unbracketed ('"' :: (cs ++ ['"'])) := by
  refine ⟨'"', cs ++ ['"'], rfl, starts_of_ne (by decide), by decide, by decide, fun l _ => ?_⟩
  rw [List.append_assoc]
  exact .skip_bind (ignoreString_passes h l)

theorem Unbracketed.starts {v : List Char} : Unbracketed v → ∃ c t, v = c :: t ∧ Starts c
  | ⟨c, t, hv, hc, _⟩ => ⟨c, t, hv, hc⟩

end Reader

end DrainGuard.Json
