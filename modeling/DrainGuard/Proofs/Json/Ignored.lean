import DrainGuard.Proofs.Json.Scalars

/-!
# Passing values that nobody asks for

A value that nobody asks for is passed exactly if it is written as JSON is, however deep it is
nested. It is passed without recursion, with a list of the frames that are still open.

- **Open frames** (`Completes`): what closes all frames that are open, with the values that come
  before. It falls apart into the items of the innermost frame and the rest (`Completes.split`).
- **What is passed** (`ignore_gives`) is a value.
- **Every value is passed** (`ignore_written`), if nothing behind it would go on with a number.
-/

namespace DrainGuard.Json

open Reader (Frame)

namespace Reader

variable {l l₁ : List Char}

/-! ## Open frames -/

theorem ignoreLoop_succ (fuel : Nat) (frames : List Frame) : ignoreLoop (fuel + 1) frames = (do
    match ← peekToken with
    | none => failAhead .endInValue
    | some c =>
      if c = '[' then do
        skip
        ignoreLoop.next fuel (← closeFrames (.list :: frames) false)
      else if c = '{' then do
        skip
        ignoreLoop.next fuel (← closeFrames (.object :: frames) false)
      else do
        ignoreScalar c
        ignoreLoop.next fuel (← closeFrames frames true)) := by
  rw [ignoreLoop]
  congr 1
  funext t
  cases t with
  | none => rfl
  | some c =>
    by_cases hl : c = '['
    · subst hl
      rfl
    by_cases ho : c = '{'
    · subst ho
      rfl
    simp only [ignoreScalar, if_neg hl, if_neg ho]
    split_ifs <;> rfl

/-- What closes all open frames, the innermost first: values that still come, each behind a comma,
and brackets. -/
inductive Completes : List Frame → List Char → List Char → Prop where
  | done (l : List Char) : Completes [] l l
  | close {f : Frame} {outer : List Frame} {g l l' : List Char} (hg : Gap g)
      (h : Completes outer l l') : Completes (f :: outer) (g ++ f.close :: l) l'
  | next {f : Frame} {outer : List Frame} {g g' k v l l' : List Char} (hg : Gap g) (hg' : Gap g')
      (hk : Lead f k) (hv : Written .value v) (h : Completes (f :: outer) l l') :
      Completes (f :: outer) (g ++ ',' :: (g' ++ (k ++ (v ++ l)))) l'

/-- The inside of the innermost frame and what closes the others. -/
theorem Completes.split {f : Frame} {outer : List Frame} {l l' : List Char}
    (h : Completes (f :: outer) l l') : ∃ cs rest, l = cs ++ f.close :: rest ∧
      Completes outer rest l' ∧
      (Gap cs ∨ ∃ g items, Gap g ∧ Written (.items f) items ∧ cs = g ++ ',' :: items) := by
  -- the induction goes over the items of the innermost frame only, up to its closing bracket
  generalize hfs : f :: outer = frames at h
  induction h with
  | done l => cases hfs
  | close hg h =>
    cases hfs
    exact ⟨_, _, rfl, h, .inl hg⟩
  | @next _ _ g g' k v _ _ hg hg' hk hv h ih =>
    cases hfs
    obtain ⟨cs, rest, rfl, hrest, hcs⟩ := ih rfl
    refine ⟨g ++ ',' :: (g' ++ (k ++ (v ++ cs))), rest, by simp, hrest, .inr ?_⟩
    rcases hcs with hgap | ⟨g, items, hgap, hitems, rfl⟩
    · exact ⟨_, _, hg, .last hg' hk hv hgap, rfl⟩
    · exact ⟨_, _, hg, .more hg' hk hv hgap hitems, rfl⟩

/-- What comes once brackets are closed: nothing if that was all, and another value if not. -/
inductive Resumes : Option (List Frame) → List Char → List Char → Prop where
  | done (l : List Char) : Resumes none l l
  | next {f : Frame} {outer : List Frame} {g k v l l' : List Char} (hg : Gap g) (hk : Lead f k)
      (hv : Written .value v) (h : Completes (f :: outer) l l') :
      Resumes (some (f :: outer)) (g ++ (k ++ (v ++ l))) l'

theorem closeFrames_behind_gives (frames : List Frame) :
    Gives (closeFrames frames true) l fun o l₁ => o ≠ some [] ∧
      ∀ l', Resumes o l₁ l' → Completes frames l l' := by
  induction frames generalizing l with
  | nil =>
    refine .pure ⟨nofun, ?_⟩
    rintro _ ⟨⟩
    exact .done l
  | cons f outer ih =>
    refine .token_cases (fun _ => .failAhead _) fun g c l₁ hg _ hl => .ite (fun hc => ?_) fun _ =>
      .ite (fun hc => ?_) fun _ => .ite (fun _ => .failAhead _) fun h => absurd rfl h
    · refine .skip_bind (.pure ⟨nofun, ?_⟩)
      rintro l' (_ | ⟨hg', hk, hv, h⟩)
      rw [hl, hc.2]
      exact .next hg hg' hk hv h
    · refine .skip_bind (ih.mono fun o l₂ ⟨hne, h⟩ => ⟨hne, fun l' hl' => ?_⟩)
      rw [hl, hc]
      exact .close hg (h l' hl')

/-- The inside of a frame from its opening bracket on, its closing bracket and what closes all
frames around it. -/
def Opens (f : Frame) (outer : List Frame) (l l' : List Char) : Prop :=
  ∃ cs rest, l = cs ++ f.close :: rest ∧ Completes outer rest l' ∧ (Gap cs ∨ Written (.items f) cs)

theorem closeFrames_inside_gives (f : Frame) (outer : List Frame) :
    Gives (closeFrames (f :: outer) false) l fun o l₁ => o ≠ some [] ∧
      ∀ l', Resumes o l₁ l' → Opens f outer l l' := by
  refine .token_cases (fun _ => .failAhead _) fun g c l₁ hg _ hl => .ite (fun hc => nomatch hc.1)
    fun _ => .ite (fun hc => ?_) fun _ => .ite (fun h => nomatch h) fun _ => ?_
  · refine .skip_bind ((closeFrames_behind_gives outer).mono fun o l₂ ⟨hne, h⟩ => ⟨hne, ?_⟩)
    intro l' hl'
    exact ⟨g, l₁, by rw [hl, hc], h l' hl', .inl hg⟩
  · refine .pure ⟨nofun, fun l' h => ?_⟩
    generalize hc : c :: l₁ = l₂ at h
    obtain _ | @⟨_, _, g', k, v, _, _, hg', hk, hv, h⟩ := h
    obtain ⟨cs, rest, rfl, hrest, hcs⟩ := h.split
    refine ⟨(g ++ g') ++ (k ++ (v ++ cs)), rest, by rw [hl, hc]; simp, hrest, .inr ?_⟩
    rcases hcs with hgap | ⟨g'', items, hgap, hitems, rfl⟩
    · exact .last (hg.append hg') hk hv hgap
    · exact .more (hg.append hg') hk hv hgap hitems

theorem ignoreKey_gives : Gives ignoreKey l fun _ l' => ∃ g name g', Gap g ∧ Passes name ∧ Gap g' ∧
    l = g ++ '"' :: (name ++ '"' :: (g' ++ ':' :: l')) := by
  refine .token_cases (fun _ => ?_) fun g c l₁ hg _ hl => .ite (fun hc => ?_) fun _ => ?_
  · exact (Gives.failAhead _).bind (P := fun _ _ => False) fun _ _ h => h.elim
  · refine .skip_bind (ignoreString_gives.bind fun _ l₂ ⟨name, hname, hl₁⟩ => ?_)
    refine .token_cases (fun _ => .failAhead _) fun g' c' l₃ hg' _ hl₂ => .ite (fun hc' => ?_)
      fun _ => .failAhead _
    refine .of_reads (.skip c' l₃) ⟨g, name, g', hg, hname, hg', ?_⟩
    rw [hl, hc, hl₁, hl₂, hc']
  · exact (Gives.failAhead _).bind (P := fun _ _ => False) fun _ _ h => h.elim

/-! ## Values -/

/-- A value behind blanks, and what closes all frames around it. -/
def Enters (frames : List Frame) (l l' : List Char) : Prop :=
  ∃ g v rest, Gap g ∧ Written .value v ∧ Completes frames rest l' ∧ l = g ++ (v ++ rest)

theorem next_gives {fuel : Nat} (ih : ∀ frames l, Gives (ignoreLoop fuel frames) l fun _ l' =>
      Enters frames l l') {o : Option (List Frame)} (ho : o ≠ some []) :
    Gives (ignoreLoop.next fuel o) l fun _ l' => Resumes o l l' := by
  rcases o with _ | _ | ⟨f, outer⟩
  · rw [ignoreLoop.next]
    exact .pure (.done l)
  · exact absurd rfl ho
  · cases f with
    | list =>
      rw [ignoreLoop.next]
      refine (ih _ l).mono ?_
      rintro _ l' ⟨g, v, rest, hg, hv, h, hl⟩
      have hnext := Resumes.next (f := .list) (k := []) hg rfl hv h
      rwa [List.nil_append, ← hl] at hnext
    | object =>
      rw [ignoreLoop.next]
      refine ignoreKey_gives.bind ?_
      rintro _ l₁ ⟨g, name, g', hg, hname, hg', hl⟩
      refine (ih _ l₁).mono ?_
      rintro _ l' ⟨g'', v, rest, hg'', hv, h, hl₁⟩
      have hnext := Resumes.next (f := .object) hg ⟨name, g', g'', hname, hg', hg'', rfl⟩ hv h
      rw [hl, hl₁]
      simpa using hnext

theorem opening_gives {fuel : Nat} (ih : ∀ frames l, Gives (ignoreLoop fuel frames) l fun _ l' =>
      Enters frames l l') (f : Frame) (frames : List Frame) {g : List Char} (hg : Gap g) :
    Gives (do skip; ignoreLoop.next fuel (← closeFrames (f :: frames) false)) (opening f :: l)
      fun _ l' => Enters frames (g ++ opening f :: l) l' := by
  refine .skip_bind ((closeFrames_inside_gives f frames).bind fun o l₁ ⟨ho, h⟩ => ?_)
  refine (next_gives ih ho).mono fun _ l' hl' => ?_
  obtain ⟨cs, rest, rfl, hrest, hcs⟩ := h l' hl'
  refine ⟨g, opening f :: (cs ++ [f.close]), rest, hg, ?_, hrest, by simp⟩
  exact hcs.elim (.empty f) .nested

theorem ignoreLoop_gives (fuel : Nat) (frames : List Frame) (l : List Char) :
    Gives (ignoreLoop fuel frames) l fun _ l' => Enters frames l l' := by
  -- the loop goes on with one frame more or with some closed, so the frames stay arbitrary
  induction fuel generalizing frames l with
  | zero =>
    rw [ignoreLoop]
    exact .failHere _
  | succ fuel ih =>
    rw [ignoreLoop_succ]
    refine .token_cases (fun _ => .failAhead _) fun g c l₁ hg _ hl => .ite (fun hc => ?_) fun _ =>
      .ite (fun hc => ?_) fun _ => ?_
    · rw [hl, hc]
      exact opening_gives ih .list frames hg
    · rw [hl, hc]
      exact opening_gives ih .object frames hg
    · refine ignoreScalar_gives.bind ?_
      rintro _ l₂ ⟨v, hv, hl₁⟩
      refine (closeFrames_behind_gives frames).bind ?_
      rintro o l₃ ⟨ho, h⟩
      refine (next_gives ih ho).mono fun _ l' hl' => ⟨g, v, l₂, hg, hv, h l' hl', ?_⟩
      rw [hl, hl₁]

/-- What is passed is a value behind blanks. -/
theorem ignore_gives : Gives ignore l fun _ l' => ∃ g v, Gap g ∧ Written .value v ∧
    l = g ++ (v ++ l') := by
  refine .get_bind fun c _ => (ignoreLoop_gives _ [] l).mono ?_
  rintro _ l' ⟨g, v, rest, hg, hv, ⟨⟩, hl⟩
  exact ⟨g, v, hg, hv, hl⟩

/-! ## Every value is passed -/

theorem value_starts {v : List Char} (hv : Written .value v) : ∃ c t, v = c :: t ∧ Starts c := by
  cases hv with
  | word hw => exact (word_unbracketed hw).starts
  | positive h => exact (numeral_unbracketed h).starts
  | negative h => exact (negative_unbracketed h).starts
  | string h => exact (string_unbracketed h).starts
  | empty f hg => exact ⟨_, _, rfl, starts_opening f⟩
  | nested h => exact ⟨_, _, rfl, starts_opening _⟩

/-- An item of a frame begins neither with a blank nor as the frame ends. -/
theorem lead_starts {f : Frame} {k v : List Char} (hk : Lead f k) (hv : Written .value v)
    (l : List Char) : ∃ c t, k ++ (v ++ l) = c :: t ∧ isGap c = false ∧ c ≠ f.close := by
  cases f with
  | list =>
    obtain ⟨c, t, rfl, hc⟩ := value_starts hv
    obtain rfl := hk
    exact ⟨c, t ++ l, rfl, hc.gap, hc.close .list⟩
  | object =>
    obtain ⟨name, g, g', -, -, -, rfl⟩ := hk
    exact ⟨'"', _, rfl, rfl, by decide⟩

/-- Nothing that ends a value behind blanks would go on with a number. -/
theorem ends_gap {g l : List Char} {c : Char} (hg : Gap g)
    (hc : c.isDigit = false ∧ c ≠ '.' ∧ c ≠ 'e' ∧ c ≠ 'E') : Ends (g ++ c :: l) := by
  cases g with
  | nil =>
    rintro _ ⟨rfl⟩
    exact hc
  | cons d g =>
    rintro _ ⟨rfl⟩
    have hd := hg d List.mem_cons_self
    simp only [List.mem_cons, List.not_mem_nil, or_false] at hd
    rcases hd with rfl | rfl | rfl | rfl <;> decide

theorem ends_close {g l : List Char} (hg : Gap g) (f : Frame) : Ends (g ++ f.close :: l) := by
  cases f <;> exact ends_gap hg (by decide)

/-- With fuel for each character, a value and what closes all frames around it is passed. -/
def Within (frames : List Frame) (l l' : List Char) : Prop :=
  ∀ fuel, l.length < fuel → Reads (ignoreLoop fuel frames) l () l'

/-- What closes all frames behind a value. -/
def Leaves (frames : List Frame) (l l' : List Char) : Prop :=
  ∀ fuel, l.length < fuel →
    Reads (do ignoreLoop.next fuel (← closeFrames frames true)) l () l'

/-- The inside of a frame, and what closes it and all frames around it. -/
def Inside (f : Frame) (outer : List Frame) (l l' : List Char) : Prop :=
  ∀ fuel, l.length < fuel →
    Reads (do ignoreLoop.next fuel (← closeFrames (f :: outer) false)) l () l'

/-- An item of a frame, and what closes the frame and all frames around it. -/
def Item (f : Frame) (outer : List Frame) (l l' : List Char) : Prop :=
  ∀ fuel, l.length < fuel → Reads (ignoreLoop.next fuel (some (f :: outer))) l () l'

section Steps

variable {f : Frame} {frames outer : List Frame} {g l' : List Char}

theorem leaves_nil (l : List Char) : Leaves [] l l := by
  intro fuel _
  refine (Reads.pure none l).bind ?_
  rw [ignoreLoop.next]
  exact .pure () l

theorem isGap_close (f : Frame) : isGap f.close = false := by
  cases f <;> rfl

theorem length_lt {c : Char} {fuel : Nat} (h : (g ++ c :: l).length < fuel + 1) :
    l.length < fuel := by
  rw [List.length_append, List.length_cons] at h
  omega

/-- A closing bracket, behind an item or before the first. -/
theorem close_reads {accept : Bool} {fuel : Nat} (hg : Gap g)
    (h : Reads (do ignoreLoop.next fuel (← closeFrames outer true)) l () l') :
    Reads (do ignoreLoop.next fuel (← closeFrames (f :: outer) accept))
      (g ++ f.close :: l) () l' := by
  have hcomma : ¬(accept = true ∧ f.close = ',') := fun hc => by cases f <;> exact nomatch hc.2
  rw [closeFrames, bind_assoc]
  refine .token_bind hg (isGap_close f) ?_
  show Reads ((if accept = true ∧ f.close = ',' then _ else
    if f.close = f.close then _ else _) >>= _) _ _ _
  rw [if_neg hcomma, if_pos rfl, bind_assoc]
  exact .skip_bind h

theorem leaves_close (hg : Gap g) (h : Leaves outer l l') :
    Leaves (f :: outer) (g ++ f.close :: l) l' :=
  fun _ hfuel => close_reads hg (h _ (length_lt (Nat.lt_succ_of_lt hfuel)))

theorem inside_close (hg : Gap g) (h : Leaves outer l l') :
    Inside f outer (g ++ f.close :: l) l' :=
  fun _ hfuel => close_reads hg (h _ (length_lt (Nat.lt_succ_of_lt hfuel)))

theorem leaves_comma (hg : Gap g) (h : Item f outer l l') :
    Leaves (f :: outer) (g ++ ',' :: l) l' := by
  intro fuel hfuel
  rw [closeFrames, bind_assoc]
  refine .token_bind hg (by rfl) ?_
  show Reads ((if true = true ∧ ',' = ',' then _ else _) >>= _) _ _ _
  rw [if_pos ⟨rfl, rfl⟩, bind_assoc]
  exact .skip_bind ((Reads.pure _ l).bind (h _ (length_lt (Nat.lt_succ_of_lt hfuel))))

theorem inside_item {c : Char} (hg : Gap g) (hc : isGap c = false) (hf : c ≠ f.close)
    (h : Item f outer (c :: l) l') : Inside f outer (g ++ c :: l) l' := by
  intro fuel hfuel
  rw [closeFrames, bind_assoc]
  refine .token_bind hg hc ?_
  show Reads ((if false = true ∧ c = ',' then _ else if c = f.close then _ else
    if false = true then _ else _) >>= _) _ _ _
  rw [if_neg (fun h => nomatch h.1), if_neg hf, if_neg (fun h => nomatch h)]
  refine (Reads.pure _ _).bind (h fuel ?_)
  rw [List.length_append] at hfuel
  omega

theorem ignoreKey_reads {name g' : List Char} (hg : Gap g) (hname : Passes name) (hg' : Gap g') :
    Reads ignoreKey (g ++ '"' :: (name ++ '"' :: (g' ++ ':' :: l))) () l := by
  refine .token_bind hg rfl (.skip_bind ?_)
  exact (ignoreString_passes hname _).bind (.token_bind hg' rfl (.skip ':' l))

theorem item_lead {k : List Char} (hg : Gap g) (hk : Lead f k)
    (h : ∀ g, Gap g → Within (f :: outer) (g ++ l) l') : Item f outer (g ++ (k ++ l)) l' := by
  intro fuel hfuel
  cases f with
  | list =>
    obtain rfl := hk
    rw [ignoreLoop.next]
    exact h g hg fuel hfuel
  | object =>
    obtain ⟨name, g', g'', hname, hg', hg'', rfl⟩ := hk
    have hlen : (g'' ++ l).length < fuel := by
      simp only [List.length_append, List.length_cons] at hfuel ⊢
      omega
    rw [ignoreLoop.next]
    simp only [List.cons_append, List.append_assoc]
    exact (ignoreKey_reads hg hname hg').bind (h g'' hg'' fuel hlen)

theorem within_opening (hg : Gap g) (h : Inside f frames l l') :
    Within frames (g ++ opening f :: l) l' := by
  intro fuel hfuel
  obtain ⟨n, rfl⟩ := Nat.exists_eq_add_one.mpr (Nat.zero_lt_of_lt hfuel)
  rw [ignoreLoop_succ]
  cases f with
  | list => exact .token_bind hg rfl (.skip_bind (h _ (length_lt hfuel)))
  | object => exact .token_bind hg rfl (.skip_bind (h _ (length_lt hfuel)))

theorem within_scalar {v : List Char} (hv : Unbracketed v) (hg : Gap g) (hl : Ends l)
    (h : Leaves frames l l') : Within frames (g ++ (v ++ l)) l' := by
  obtain ⟨c, t, rfl, hc, hlist, hobject, hreads⟩ := hv
  intro fuel hfuel
  obtain ⟨n, rfl⟩ := Nat.exists_eq_add_one.mpr (Nat.zero_lt_of_lt hfuel)
  rw [ignoreLoop_succ]
  refine .token_bind hg hc.gap ?_
  show Reads (if c = '[' then _ else if c = '{' then _ else _) _ _ _
  rw [if_neg hlist, if_neg hobject]
  refine (hreads l hl).bind (h n ?_)
  simp only [List.length_append, List.length_cons] at hfuel
  omega

end Steps

/-- A value that is written is passed, and so are the items of a frame. -/
def Passed : Kind → List Char → Prop
  | .value, v => ∀ ⦃g l l'⦄ ⦃frames : List Frame⦄, Gap g → Ends l → Leaves frames l l' →
    Within frames (g ++ (v ++ l)) l'
  | .items f, cs => ∃ g c t, Gap g ∧ cs = g ++ c :: t ∧ isGap c = false ∧ c ≠ f.close ∧
    ∀ ⦃g l l'⦄ ⦃outer : List Frame⦄, Gap g → Leaves outer l l' →
      Item f outer (g ++ c :: (t ++ f.close :: l)) l'

theorem passed_item {f : Frame} {g k v cs : List Char} (hg : Gap g) (hk : Lead f k)
    (hv : Written .value v) (ih : Passed .value v)
    (h : ∀ ⦃l l'⦄ ⦃outer : List Frame⦄, Leaves outer l l' →
      Ends (cs ++ f.close :: l) ∧ Leaves (f :: outer) (cs ++ f.close :: l) l') :
    Passed (.items f) (g ++ (k ++ (v ++ cs))) := by
  obtain ⟨c, t, hct, hgap, hclose⟩ := lead_starts hk hv cs
  refine ⟨g, c, t, hg, by rw [hct], hgap, hclose, fun g' l l' outer hg' hl => ?_⟩
  have hsplit : c :: (t ++ f.close :: l) = k ++ (v ++ (cs ++ f.close :: l)) := by
    rw [← List.cons_append, ← hct]
    simp
  obtain ⟨hends, hleaves⟩ := h hl
  rw [hsplit]
  exact item_lead hg' hk fun g'' hg'' => ih hg'' hends hleaves

theorem passed_written {k : Kind} {cs : List Char} (h : Written k cs) : Passed k cs := by
  -- a value is passed with whatever closes the frames around it, which a nested value adds to
  induction h with
  | word hw => exact fun _ _ _ _ hg hl h => within_scalar (word_unbracketed hw) hg hl h
  | positive hn => exact fun _ _ _ _ hg hl h => within_scalar (numeral_unbracketed hn) hg hl h
  | negative hn => exact fun _ _ _ _ hg hl h => within_scalar (negative_unbracketed hn) hg hl h
  | string hs => exact fun _ _ _ _ hg hl h => within_scalar (string_unbracketed hs) hg hl h
  | empty f hg' =>
    intro g l l' frames hg _ h
    rw [List.cons_append, List.append_assoc]
    exact within_opening hg (inside_close hg' h)
  | @nested f cs _ ih =>
    intro g l l' frames hg _ h
    obtain ⟨g', c, t, hg', rfl, hc, hf, hitem⟩ := ih
    have hsplit : opening f :: (g' ++ c :: t ++ [f.close]) ++ l =
        opening f :: (g' ++ c :: (t ++ f.close :: l)) := by simp
    rw [hsplit]
    exact within_opening hg (inside_item hg' hc hf (hitem gap_nil h))
  | last hg hk hv hg' ih =>
    exact passed_item hg hk hv ih fun l l' outer h => ⟨ends_close hg' _, leaves_close hg' h⟩
  | @more f g k v g' cs hg hk hv hg' _ ihv ih =>
    refine passed_item hg hk hv ihv fun l l' outer h => ?_
    obtain ⟨g₁, c, t, hg₁, rfl, hc, hf, hitem⟩ := ih
    rw [List.append_assoc, List.cons_append, List.append_assoc]
    exact ⟨ends_gap hg' (by decide), leaves_comma hg' (hitem hg₁ h)⟩

/-- Every value is passed, with the blanks before it, if nothing behind it would go on with a
number. -/
theorem ignore_written {g v : List Char} (hv : Written .value v) (hg : Gap g) (hl : Ends l) :
    Reads ignore (g ++ (v ++ l)) () l := by
  refine .get_bind fun c hc => passed_written hv hg hl (leaves_nil l) _ ?_
  rw [hc]
  exact Nat.lt_succ_self _

end Reader

end DrainGuard.Json
