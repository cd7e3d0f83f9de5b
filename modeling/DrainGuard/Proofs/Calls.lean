import DrainGuard.Failure

/-!
# Calls on a world

What is done with a world by calls that may fail, side by side with the same where a record of the
calls is kept.

- **Steps** (`run_bind_ok`, `run_bind_error`): what is done after a step that worked, or that did
  not.
- **Records** (`recording`, `Makes`): the calls that are made and their answers. The records of
  several steps follow each other (`Makes.bind`).
-/

namespace DrainGuard

variable {σ κ α β : Type}

/-! ## Steps -/

section Steps

variable {x : ExceptT Failure (StateM σ) α} {f : α → ExceptT Failure (StateM σ) β} {w w₁ : σ}

theorem run_bind_ok {a : α} (h : x.run w = (.ok a, w₁)) : (x >>= f).run w = (f a).run w₁ := by
  show ExceptT.bindCont f (x.run w).1 (x.run w).2 = _
  rw [h]
  rfl

theorem run_bind_error {e : Failure} (h : x.run w = (.error e, w₁)) :
    (x >>= f).run w = (.error e, w₁) := by
  show ExceptT.bindCont f (x.run w).1 (x.run w).2 = _
  rw [h]
  rfl

end Steps

/-! ## Records -/

/-- A call where a record of all calls and their answers is kept. -/
def recording {ι ω : Type} (call : ι → σ → ω × σ) (i : ι) (w : σ × List (ι × ω)) :
    ω × σ × List (ι × ω) :=
  ((call i w.1).1, (call i w.1).2, w.2 ++ [(i, (call i w.1).1)])

/-- From `w`, `x` leads to the result `r` and to `w'`. So does `y`, which is `x` where a record is
kept, and adds `log` to the record. -/
structure Makes (x : ExceptT Failure (StateM σ) α) (y : ExceptT Failure (StateM (σ × List κ)) α)
    (w : σ) (log : List κ) (r : Except Failure α) (w' : σ) : Prop where
  plain : x.run w = (r, w')
  recorded : ∀ before, y.run (w, before) = (r, w', before ++ log)

namespace Makes

variable {x : ExceptT Failure (StateM σ) α} {y : ExceptT Failure (StateM (σ × List κ)) α}
  {f : α → ExceptT Failure (StateM σ) β} {g : α → ExceptT Failure (StateM (σ × List κ)) β}
  {w w₁ w₂ : σ} {log log' : List κ}

/-- What is known at once makes no call. -/
theorem result (r : Except Failure α) (w : σ) :
    Makes (κ := κ) (ExceptT.mk (pure r)) (ExceptT.mk (pure r)) w [] r w where
  plain := rfl
  recorded before := by rw [List.append_nil]; rfl

theorem bind {a : α} {r : Except Failure β} (h : Makes x y w log (.ok a) w₁)
    (h' : Makes (f a) (g a) w₁ log' r w₂) : Makes (x >>= f) (y >>= g) w (log ++ log') r w₂ where
  plain := by rw [run_bind_ok h.plain, h'.plain]
  recorded before := by rw [run_bind_ok (h.recorded before), h'.recorded, List.append_assoc]

theorem bind_error {e : Failure} (h : Makes x y w log (.error e) w₁) :
    Makes (x >>= f) (y >>= g) w log (.error e) w₁ where
  plain := run_bind_error h.plain
  recorded before := run_bind_error (h.recorded before)

/-- What is made of the result afterwards makes no call. -/
theorem bind_result {r : Except Failure α} (h : Makes x y w log r w₁) (f : α → Except Failure β) :
    Makes (x >>= fun a => ExceptT.mk (pure (f a))) (y >>= fun a => ExceptT.mk (pure (f a))) w log
      (r >>= f) w₁ := by
  cases r with
  | error e => exact h.bind_error
  | ok a => exact List.append_nil log ▸ h.bind (result (f a) w₁)

end Makes

end DrainGuard
