import Mathlib.Data.List.Basic
import Mathlib.Data.List.TakeWhile
import DrainGuard.Text.Utf8

/-!
# What becomes of the bytes of a text

A character is spelt by a lead byte and the bytes that it announces. So the bytes of a text are
read as that text, and bytes cut off inside a character are read as none.

- **Single bytes** (`followers_byte`, `isContinuation_byte`, `admitsSecond_byte`): the tests of a
  byte as bounds of a number.
- **Characters** (`Spells`, `spells_char`): the bytes of each character announce their number, and
  assemble to it.
- **Texts** (`decode?_encode`, `decode_encode`, `decode?_take`): whole bytes give the text, and a
  part of them gives a part of the text or nothing.
- **Bytes of no text** (`Spells.exists_char`, `decode?_eq_some_iff`): nothing else spells a
  character, so all other bytes are refused.
-/

namespace DrainGuard.Text

/-! ## Single bytes -/

theorem followers_byte {n : Nat} (h : n < 256) : followers (UInt8.ofNat n) =
    if n < 0x80 then some 0 else if 0xC2 ≤ n ∧ n ≤ 0xDF then some 1
    else if 0xE0 ≤ n ∧ n ≤ 0xEF then some 2 else if 0xF0 ≤ n ∧ n ≤ 0xF4 then some 3 else none := by
  simp [followers, UInt8.lt_iff_toNat_lt, UInt8.le_iff_toNat_le, Nat.mod_eq_of_lt h]

theorem isContinuation_byte {n : Nat} (h : n < 256) :
    isContinuation (UInt8.ofNat n) = decide (0x80 ≤ n ∧ n ≤ 0xBF) := by
  simp [isContinuation, UInt8.le_iff_toNat_le, Nat.mod_eq_of_lt h]

theorem admitsSecond_byte {m n : Nat} (hm : m < 256) (hn : n < 256) :
    admitsSecond (UInt8.ofNat m) (UInt8.ofNat n) =
      if m = 0xE0 then decide (0xA0 ≤ n ∧ n ≤ 0xBF)
      else if m = 0xED then decide (0x80 ≤ n ∧ n ≤ 0x9F)
      else if m = 0xF0 then decide (0x90 ≤ n ∧ n ≤ 0xBF)
      else if m = 0xF4 then decide (0x80 ≤ n ∧ n ≤ 0x8F)
      else decide (0x80 ≤ n ∧ n ≤ 0xBF) := by
  simp [admitsSecond, isContinuation, UInt8.le_iff_toNat_le, Nat.mod_eq_of_lt hn, ← UInt8.toNat_inj,
    Nat.mod_eq_of_lt hm]

theorem exists_byte (b : UInt8) : ∃ m, m < 256 ∧ UInt8.ofNat m = b :=
  ⟨b.toNat, b.toNat_lt, UInt8.ofNat_toNat⟩

/-- The second byte of a sequence, if it is admitted. -/
theorem second_bounds {m n : Nat} (hm : m < 256) (hn : n < 256)
    (h : admitsSecond (UInt8.ofNat m) (UInt8.ofNat n) = true) : 0x80 ≤ n ∧ n ≤ 0xBF ∧
      (m = 0xE0 → 0xA0 ≤ n) ∧ (m = 0xED → n ≤ 0x9F) ∧ (m = 0xF0 → 0x90 ≤ n) ∧
      (m = 0xF4 → n ≤ 0x8F) := by
  rw [admitsSecond_byte hm hn] at h
  grind

theorem continuation_bounds {n : Nat} (hn : n < 256) (h : isContinuation (UInt8.ofNat n) = true) :
    0x80 ≤ n ∧ n ≤ 0xBF := by
  rw [isContinuation_byte hn] at h
  exact of_decide_eq_true h

/-- The bytes after the first that continue a sequence. -/
theorem continuing_cons (b c : UInt8) (cs l : List UInt8) (h : admitsSecond b c = true)
    (hcs : ∀ d ∈ cs, isContinuation d = true) :
    continuing b (c :: cs).length (c :: cs ++ l) = (c :: cs).length := by
  rw [List.cons_append, continuing, if_pos (by simp [h]), List.length_cons, Nat.add_sub_cancel,
    List.take_left, List.takeWhile_eq_self_iff.mpr hcs, Nat.add_comm]

theorem continuing_le (b : UInt8) (n : Nat) (cs : List UInt8) : continuing b n cs ≤ cs.length := by
  cases cs with
  | nil => exact Nat.le_refl 0
  | cons c cs =>
    rw [continuing]
    split
    · have ht := (List.takeWhile_sublist isContinuation (l := cs.take (n - 1))).length_le
      rw [List.length_take] at ht
      rw [List.length_cons]
      omega
    · exact Nat.zero_le _

/-! ## Characters -/

/-- A lead byte and the bytes that follow it spell a code point. -/
structure Spells (b : UInt8) (bs : List UInt8) (v : Nat) : Prop where
  followers : followers b = some bs.length
  continuing : ∀ l, continuing b bs.length (bs ++ l) = bs.length
  assemble : assemble b bs.length bs = v

theorem spells_one {v : Nat} (h : v ≤ 127) : Spells (UInt8.ofNat v) [] v where
  followers := by
    rw [followers_byte (by omega), if_pos (by omega)]
    rfl
  continuing l := by cases l <;> simp [continuing]
  assemble := by
    simp [assemble]
    omega

theorem spells_two {v : Nat} (h₁ : 127 < v) (h₂ : v ≤ 2047) :
    Spells (UInt8.ofNat (v / 64 % 32 + 192)) [UInt8.ofNat (v % 64 + 128)] v where
  followers := by
    rw [followers_byte (by omega), if_neg (by omega), if_pos (by omega)]
    rfl
  continuing l := by
    refine continuing_cons _ _ [] l ?_ (by simp)
    rw [admitsSecond_byte (by omega) (by omega)]
    grind
  assemble := by
    simp [assemble, UInt8.toNat_ofNat']
    omega

theorem spells_three {v : Nat} (h₁ : 2047 < v) (h₂ : v ≤ 65535) (hs : ¬(0xD800 ≤ v ∧ v ≤ 0xDFFF)) :
    Spells (UInt8.ofNat (v / 4096 % 16 + 224)) [UInt8.ofNat (v / 64 % 64 + 128),
      UInt8.ofNat (v % 64 + 128)] v where
  followers := by
    rw [followers_byte (by omega), if_neg (by omega), if_neg (by omega), if_pos (by omega)]
    rfl
  continuing l := by
    refine continuing_cons _ _ [_] l ?_ ?_
    · rw [admitsSecond_byte (by omega) (by omega)]
      grind
    · rintro _ (_ | ⟨_, ⟨⟩⟩)
      rw [isContinuation_byte (by omega)]
      grind
  assemble := by
    simp [assemble, UInt8.toNat_ofNat']
    omega

theorem spells_four {v : Nat} (h₁ : 65535 < v) (h₂ : v < 0x110000) :
    Spells (UInt8.ofNat (v / 262144 % 8 + 240)) [UInt8.ofNat (v / 4096 % 64 + 128),
      UInt8.ofNat (v / 64 % 64 + 128), UInt8.ofNat (v % 64 + 128)] v where
  followers := by
    rw [followers_byte (by omega), if_neg (by omega), if_neg (by omega), if_neg (by omega),
      if_pos (by omega)]
    rfl
  continuing l := by
    refine continuing_cons _ _ [_, _] l ?_ ?_
    · rw [admitsSecond_byte (by omega) (by omega)]
      grind
    · rintro _ (_ | ⟨_, (_ | ⟨_, ⟨⟩⟩)⟩) <;> rw [isContinuation_byte (by omega)] <;> grind
  assemble := by
    simp [assemble, UInt8.toNat_ofNat']
    omega

/-- The bytes of a character spell it. -/
theorem spells_char (c : Char) :
    ∃ b bs, String.utf8EncodeChar c = b :: bs ∧ Spells b bs c.toNat := by
  have hv : c.val.toNat < 0xD800 ∨ 0xDFFF < c.val.toNat ∧ c.val.toNat < 0x110000 := c.valid
  show ∃ b bs, _ ∧ Spells b bs c.val.toNat
  simp only [String.utf8EncodeChar]
  split
  case isTrue h => exact ⟨_, _, rfl, spells_one h⟩
  case isFalse h₁ =>
    split
    case isTrue h => exact ⟨_, _, rfl, spells_two (by omega) h⟩
    case isFalse h₂ =>
      split
      case isTrue h => exact ⟨_, _, rfl, spells_three (by omega) h (by omega)⟩
      case isFalse h₃ => exact ⟨_, _, rfl, spells_four (by omega) (by omega)⟩

/-! ## Texts -/

/-- The bytes of a code point in front of others are read as its character. -/
theorem Spells.firstChar {b : UInt8} {bs : List UInt8} {v : Nat} (h : Spells b bs v)
    (l : List UInt8) : firstChar b (bs ++ l) = (Char.ofNat v, true, l) := by
  simp only [Text.firstChar, h.followers, h.continuing, ↓reduceIte, List.take_left, List.drop_left,
    h.assemble]

/-- The bytes of a character in front of others are read as that character. -/
theorem decode?_char (c : Char) (l : List UInt8) :
    decode? (String.utf8EncodeChar c ++ l) = (decode? l).map (c :: ·) := by
  obtain ⟨b, bs, he, h⟩ := spells_char c
  rw [he, List.cons_append, decode?, h.firstChar l, Char.ofNat_toNat]
  rfl

/-- Some of the bytes of a character, but not all, are no text. -/
theorem decode?_cut {c : Char} {n : Nat} (hpos : 0 < n)
    (hn : n < (String.utf8EncodeChar c).length) :
    decode? ((String.utf8EncodeChar c).take n) = none := by
  obtain ⟨b, bs, he, h⟩ := spells_char c
  obtain ⟨k, rfl⟩ := Nat.exists_eq_add_one.mpr hpos
  rw [he, List.length_cons] at hn
  have hlt : continuing b bs.length (bs.take k) < bs.length := by
    have := continuing_le b bs.length (bs.take k)
    rw [List.length_take] at this
    omega
  rw [he, List.take_succ_cons, decode?]
  simp [firstChar, h.followers, Nat.ne_of_lt hlt]

theorem encode_cons (c : Char) (cs : List Char) :
    encode (c :: cs) = String.utf8EncodeChar c ++ encode cs := List.flatMap_cons

theorem decode?_nil : decode? [] = some [] := by rw [decode?]

/-- The bytes of a text are read as that text. -/
theorem decode?_encode (cs : List Char) : decode? (encode cs) = some cs := by
  induction cs with
  | nil => exact decode?_nil
  | cons c cs ih => rw [encode_cons, decode?_char, ih, Option.map_some]

/-- Where broken sequences would be replaced, the bytes of a text have none. -/
theorem decode_encode (cs : List Char) : decode (encode cs) = cs := by
  induction cs with
  | nil => rw [encode, List.flatMap_nil, decode]
  | cons c cs ih =>
    obtain ⟨b, bs, he, h⟩ := spells_char c
    rw [encode_cons, he, List.cons_append, decode, h.firstChar, Char.ofNat_toNat, ih]

/-- The first bytes of a text are read as its first characters, if they are read at all. -/
theorem decode?_take {cs cs' : List Char} {n : Nat} (h : decode? ((encode cs).take n) = some cs') :
    cs' <+: cs ∧ encode cs' = (encode cs).take n := by
  induction cs generalizing n cs' with
  | nil =>
    rw [encode, List.flatMap_nil, List.take_nil, decode?_nil] at h
    cases h
    exact ⟨List.prefix_rfl, List.take_nil.symm⟩
  | cons c cs ih =>
    rw [encode_cons] at h ⊢
    rcases Nat.lt_or_ge n (String.utf8EncodeChar c).length with hn | hn
    · rw [List.take_append_of_le_length (Nat.le_of_lt hn)] at h ⊢
      rcases Nat.eq_zero_or_pos n with rfl | hpos
      · rw [List.take_zero, decode?_nil] at h
        cases h
        exact ⟨List.nil_prefix, rfl⟩
      · rw [decode?_cut hpos hn] at h
        cases h
    · rw [List.take_append, List.take_of_length_le hn, decode?_char] at h
      obtain ⟨cs'', h'', rfl⟩ := Option.map_eq_some_iff.mp h
      obtain ⟨hp, he⟩ := ih h''
      refine ⟨List.cons_prefix_cons.mpr ⟨rfl, hp⟩, ?_⟩
      rw [encode_cons, he, List.take_append, List.take_of_length_le hn]

/-! ## Bytes of no text -/

theorem continuing_eq {b : UInt8} {n : Nat} {l : List UInt8} (h : continuing b (n + 1) l = n + 1) :
    ∃ c cs l', l = c :: cs ++ l' ∧ cs.length = n ∧ admitsSecond b c = true ∧
      ∀ d ∈ cs, isContinuation d = true := by
  cases l with
  | nil => cases h
  | cons c l =>
    rw [continuing] at h
    split at h
    · next hc =>
      have hlength : ((l.take n).takeWhile isContinuation).length = n := by
        rw [Nat.add_sub_cancel] at h
        omega
      have htake : (l.take n).length ≤ n := List.length_take_le n l
      have hall : (l.take n).takeWhile isContinuation = l.take n :=
        (List.takeWhile_sublist isContinuation).eq_of_length_le (by omega)
      refine ⟨c, l.take n, l.drop n, ?_, by rw [← hall, hlength], ?_,
        List.takeWhile_eq_self_iff.mp hall⟩
      · rw [List.cons_append, List.take_append_drop]
      · exact (Bool.and_eq_true_iff.mp hc).2
    · cases h

/-- A byte and what follows it are read as a character if they start with a spelling of it. -/
theorem exists_spells {b : UInt8} {rest l : List UInt8} {c : Char}
    (h : firstChar b rest = (c, true, l)) :
    ∃ bs v, rest = bs ++ l ∧ Spells b bs v ∧ Char.ofNat v = c := by
  unfold firstChar at h
  split at h
  · cases h
  · next n hn =>
    dsimp only at h
    split at h
    · next hk =>
      cases h
      cases n with
      | zero => exact ⟨[], _, rfl, ⟨hn, fun l => by cases l <;> rfl, rfl⟩, rfl⟩
      | succ n =>
        obtain ⟨c, cs, l', rfl, rfl, hc, hcs⟩ := continuing_eq hk
        have htake : (c :: cs ++ l').take (cs.length + 1) = c :: cs :=
          List.take_left' (List.length_cons ..)
        have hdrop : (c :: cs ++ l').drop (cs.length + 1) = l' :=
          List.drop_left' (List.length_cons ..)
        rw [htake, hdrop]
        exact ⟨c :: cs, _, rfl, ⟨hn, fun l => continuing_cons b c cs l hc hcs, rfl⟩, rfl⟩
    · cases h

theorem Spells.follow {b c : UInt8} {cs : List UInt8} {v : Nat} (h : Spells b (c :: cs) v) :
    admitsSecond b c = true ∧ ∀ d ∈ cs, isContinuation d = true := by
  obtain ⟨c', cs', l', hbs, hlength, hsecond, hrest⟩ := continuing_eq (h.continuing [])
  obtain ⟨hc, -⟩ := List.append_inj hbs (by rw [List.length_cons, List.length_cons, hlength])
  obtain ⟨rfl, rfl⟩ := List.cons.inj hc
  exact ⟨hsecond, hrest⟩

theorem exists_char {v : Nat} (h : v.isValidChar) : ∃ c : Char, c.toNat = v :=
  ⟨Char.ofNatAux v h, rfl⟩

theorem utf8EncodeChar_eq (c : Char) : String.utf8EncodeChar c =
    if c.toNat ≤ 127 then [UInt8.ofNat c.toNat]
    else if c.toNat ≤ 2047 then
      [UInt8.ofNat (c.toNat / 64 % 32 + 192), UInt8.ofNat (c.toNat % 64 + 128)]
    else if c.toNat ≤ 65535 then
      [UInt8.ofNat (c.toNat / 4096 % 16 + 224), UInt8.ofNat (c.toNat / 64 % 64 + 128),
        UInt8.ofNat (c.toNat % 64 + 128)]
    else
      [UInt8.ofNat (c.toNat / 262144 % 8 + 240), UInt8.ofNat (c.toNat / 4096 % 64 + 128),
        UInt8.ofNat (c.toNat / 64 % 64 + 128), UInt8.ofNat (c.toNat % 64 + 128)] := rfl

/-- Only the bytes of a character spell it. -/
theorem Spells.exists_char {b : UInt8} {bs : List UInt8} {v : Nat} (h : Spells b bs v) :
    ∃ c : Char, c.toNat = v ∧ String.utf8EncodeChar c = b :: bs := by
  -- by the number of bytes: what each of them may be says that the code point needs as many
  obtain ⟨m, hm, rfl⟩ := exists_byte b
  have hfollowers := h.followers
  have hv := h.assemble
  rw [followers_byte hm] at hfollowers
  split at hfollowers
  · obtain rfl := List.eq_nil_of_length_eq_zero (Option.some.inj hfollowers).symm
    simp [Text.assemble] at hv
    obtain ⟨c, rfl⟩ := Text.exists_char (v := v) (.inl (by omega))
    refine ⟨c, rfl, ?_⟩
    rw [utf8EncodeChar_eq, if_pos (by omega), ← hv, Nat.mod_eq_of_lt hm]
  split at hfollowers
  · obtain ⟨c₁, rfl⟩ := List.length_eq_one_iff.mp (Option.some.inj hfollowers).symm
    obtain ⟨n₁, hn₁, rfl⟩ := exists_byte c₁
    have h₁ := second_bounds hm hn₁ h.follow.1
    simp [Text.assemble, Nat.mod_eq_of_lt hm, Nat.mod_eq_of_lt hn₁] at hv
    obtain ⟨c, rfl⟩ := Text.exists_char (v := v) (.inl (by omega))
    refine ⟨c, rfl, ?_⟩
    rw [utf8EncodeChar_eq, if_neg (by omega), if_pos (by omega)]
    congr <;> omega
  split at hfollowers
  · obtain ⟨c₁, c₂, rfl⟩ := List.length_eq_two.mp (Option.some.inj hfollowers).symm
    obtain ⟨n₁, hn₁, rfl⟩ := exists_byte c₁
    obtain ⟨n₂, hn₂, rfl⟩ := exists_byte c₂
    have h₁ := second_bounds hm hn₁ h.follow.1
    have h₂ := continuation_bounds hn₂ (h.follow.2 _ (by simp))
    simp [Text.assemble, Nat.mod_eq_of_lt hm, Nat.mod_eq_of_lt hn₁, Nat.mod_eq_of_lt hn₂] at hv
    obtain ⟨c, rfl⟩ := Text.exists_char (v := v) (by unfold Nat.isValidChar; omega)
    refine ⟨c, rfl, ?_⟩
    rw [utf8EncodeChar_eq, if_neg (by omega), if_neg (by omega), if_pos (by omega)]
    congr <;> omega
  split at hfollowers
  · obtain ⟨c₁, c₂, c₃, rfl⟩ := List.length_eq_three.mp (Option.some.inj hfollowers).symm
    obtain ⟨n₁, hn₁, rfl⟩ := exists_byte c₁
    obtain ⟨n₂, hn₂, rfl⟩ := exists_byte c₂
    obtain ⟨n₃, hn₃, rfl⟩ := exists_byte c₃
    have h₁ := second_bounds hm hn₁ h.follow.1
    have h₂ := continuation_bounds hn₂ (h.follow.2 _ (by simp))
    have h₃ := continuation_bounds hn₃ (h.follow.2 _ (by simp))
    simp [Text.assemble, Nat.mod_eq_of_lt hm, Nat.mod_eq_of_lt hn₁, Nat.mod_eq_of_lt hn₂,
      Nat.mod_eq_of_lt hn₃] at hv
    obtain ⟨c, rfl⟩ := Text.exists_char (v := v) (by unfold Nat.isValidChar; omega)
    refine ⟨c, rfl, ?_⟩
    rw [utf8EncodeChar_eq, if_neg (by omega), if_neg (by omega), if_neg (by omega)]
    congr <;> omega
  · cases hfollowers

/-- Only the bytes of a text are read. -/
theorem decode?_eq_some_iff {bs : List UInt8} {cs : List Char} :
    decode? bs = some cs ↔ bs = encode cs := by
  constructor
  · intro h
    fun_induction decode? bs generalizing cs
    case case1 =>
      cases h
      rfl
    case case2 b rest step hgood ih =>
      obtain ⟨cs, hcs, rfl⟩ := Option.map_eq_some_iff.mp h
      obtain ⟨bs, v, hrest, hspells, hv⟩ := exists_spells (c := step.1) (l := step.2.2)
        (show firstChar b rest = _ by rw [← hgood])
      obtain ⟨c, rfl, hc⟩ := hspells.exists_char
      rw [Char.ofNat_toNat] at hv
      rw [encode_cons, ← hv, hc, ← ih hcs]
      exact congrArg (b :: ·) hrest
    case case3 => cases h
  · rintro rfl
    exact decode?_encode cs

end DrainGuard.Text
