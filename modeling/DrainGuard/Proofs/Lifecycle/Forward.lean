import Mathlib.Data.List.Chain
import Mathlib.Data.List.Nodup
import DrainGuard.Proofs.Lifecycle.Mirror

/-!
# A shutdown only goes forward

Moves may be asked for in any order and as often as one likes, also after the end.

- **Order of phases** (`Phase.Before`): the phases on the way to another one. Nothing is before
  itself, and a terminal phase is before nothing.
- **Histories** (`Progress.Forward`): the history leads from the start to the current phase by moves
  that the rules allow. Hence it is in order (`Forward.ordered`) and ends with the only terminal
  phase in it, if there is one (`Forward.eq_phase_of_isTerminal`).
- **Single moves** (`Forward.enter`, `lt_depth_of_canMoveTo`): a move keeps the history so and leads
  one step nearer to the end.
- **Any moves** (`askAll_forward`).
-/

namespace DrainGuard

namespace Phase

/-- A phase is on the way to another one. -/
def Before (p q : Phase) : Prop := p.isTerminal = false ∧ p.rank < q.rank

theorem Before.trans {p q r : Phase} (h : p.Before q) (h' : q.Before r) : p.Before r :=
  ⟨h.1, Nat.lt_trans h.2 h'.2⟩

instance : Trans Before Before Before := ⟨Before.trans⟩

theorem Before.ne {p q : Phase} (h : p.Before q) : p ≠ q := by
  rintro rfl
  exact Nat.lt_irrefl _ h.2

theorem isTerminal_of_canMoveTo {p next : Phase} (h : p.canMoveTo next) : p.isTerminal = false := by
  cases ht : p.isTerminal with
  | false => rfl
  | true => rw [not_canMoveTo_of_isTerminal ht next] at h; cases h

theorem before_of_canMoveTo {p next : Phase} (h : p.canMoveTo next) : p.Before next :=
  ⟨isTerminal_of_canMoveTo h, rank_lt_of_canMoveTo h⟩

/-- How many moves lead to a phase at most. Success and failure are both the end. -/
def depth (p : Phase) : Nat := min p.rank 6

theorem depth_le (p : Phase) : p.depth ≤ 6 := Nat.min_le_right ..

theorem lt_depth_of_canMoveTo {p next : Phase} (h : p.canMoveTo next) : p.depth < next.depth := by
  revert h
  cases p <;> cases next <;> decide

end Phase

namespace Progress

/-- The history leads from the start to the current phase by moves that the rules allow. -/
structure Forward (p : Progress) : Prop where
  start : p.history.head? = some .running
  current : p.history.getLast? = some p.phase
  moves : p.history.IsChain fun q next => q.canMoveTo next

theorem forward_new : ({} : Progress).Forward := ⟨rfl, rfl, List.isChain_singleton _⟩

namespace Forward

variable {p : Progress}

/-- A move that is allowed adds to the end of the history. -/
theorem enter (h : p.Forward) {next : Phase} (hm : p.phase.canMoveTo next) :
    (p.enter next).Forward where
  start := by
    show (p.history ++ [next]).head? = _
    rw [List.head?_append, h.start]
    rfl
  current := by
    show (p.history ++ [next]).getLast? = _
    rw [List.getLast?_concat]
    rfl
  moves := by
    refine List.isChain_append.mpr ⟨h.moves, List.isChain_singleton next, ?_⟩
    intro q hq q' hq'
    rw [h.current] at hq
    cases hq
    cases hq'
    exact hm

/-- Earlier phases are on the way to the later ones. -/
theorem ordered (h : p.Forward) : p.history.Pairwise Phase.Before :=
  List.isChain_iff_pairwise.mp (h.moves.imp fun _ _ => Phase.before_of_canMoveTo)

theorem nodup (h : p.Forward) : p.history.Nodup := h.ordered.imp Phase.Before.ne

/-- The history ends with the current phase, and what comes earlier is on the way to it. -/
theorem before_phase (h : p.Forward) :
    ∃ earlier, p.history = earlier ++ [p.phase] ∧ ∀ q ∈ earlier, q.Before p.phase := by
  obtain ⟨earlier, he⟩ := List.getLast?_eq_some_iff.mp h.current
  have hord := h.ordered
  rw [he] at hord
  have hlast := (List.pairwise_append.mp hord).2.2
  exact ⟨earlier, he, fun q hq => hlast q hq _ (List.mem_singleton_self _)⟩

/-- A terminal phase can only be the last one. -/
theorem eq_phase_of_isTerminal (h : p.Forward) {q : Phase} (hq : q ∈ p.history)
    (ht : q.isTerminal) : q = p.phase := by
  obtain ⟨earlier, he, hbefore⟩ := h.before_phase
  rw [he] at hq
  rcases List.mem_append.mp hq with hq | hq
  · have hopen := (hbefore q hq).1
    rw [ht] at hopen
    cases hopen
  · exact List.mem_singleton.mp hq

/-- A sequence does not both succeed and fail. -/
theorem not_both_ends (h : p.Forward) : ¬(.completed ∈ p.history ∧ .failed ∈ p.history) := by
  rintro ⟨hc, hf⟩
  have hcf := (h.eq_phase_of_isTerminal hc rfl).trans (h.eq_phase_of_isTerminal hf rfl).symm
  cases hcf

end Forward

end Progress

namespace Guard

variable {σ : Type}

/-- Asks for one move after the other, whatever comes of each; their answers. -/
def askAll : List Phase → StateM (Progress × Session σ) (List (Except Failure Unit))
  | [] => return []
  | next :: rest => do
    let answer ← (move next).run
    return answer :: (← askAll rest)

/-- How many moves were made. -/
def moved (answers : List (Except Failure Unit)) : Nat := answers.countP (· matches .ok _)

theorem askAll_cons (next : Phase) (rest : List Phase) (p : Progress) (s : Session σ) :
    askAll (next :: rest) (p, s) =
      let (answer, q) := (move next : Step σ Unit).run (p, s)
      let (answers, q) := askAll rest q
      (answer :: answers, q) := rfl

theorem move_allowed {next : Phase} {p : Progress} (h : p.phase.canMoveTo next) (s : Session σ) :
    (move next : Step σ Unit).run (p, s) = (.ok (), p.enter next, s) := by
  rw [move_run, Progress.advance_ok h]

theorem move_refused {next : Phase} {p : Progress} (h : p.phase.canMoveTo next = false)
    (s : Session σ) : (move next : Step σ Unit).run (p, s) =
      (.error (.invalidMove p.phase next), p, s.refuse p.phase next) := by
  rw [move_run, Progress.advance_error h]

theorem moved_ok (answers : List (Except Failure Unit)) :
    moved (.ok () :: answers) = moved answers + 1 := List.countP_cons_of_pos rfl

theorem moved_error (f : Failure) (answers : List (Except Failure Unit)) :
    moved (.error f :: answers) = moved answers := List.countP_cons_of_neg (by simp)

/-- Each move that is made adds to the history and leads nearer to the end. -/
theorem askAll_keeps (targets : List Phase) {p : Progress} (h : p.Forward) (s : Session σ) :
    let (answers, p', _) := askAll targets (p, s)
    p'.Forward ∧ p.phase.depth + moved answers ≤ p'.phase.depth ∧
      p'.history.length = p.history.length + moved answers := by
  -- a refused move leaves all as it is, and one that is made leads at least one step deeper
  induction targets generalizing p s with
  | nil => exact ⟨h, Nat.le_refl _, rfl⟩
  | cons next rest ih =>
    rw [askAll_cons]
    cases hm : p.phase.canMoveTo next with
    | true =>
      obtain ⟨hf, hdepth, hlength⟩ := ih (h.enter hm) s
      have hlt : p.phase.depth < (p.enter next).phase.depth := Phase.lt_depth_of_canMoveTo hm
      have hone : (p.enter next).history.length = p.history.length + 1 := List.length_append
      rw [move_allowed hm]
      refine ⟨hf, ?_, ?_⟩
      · rw [moved_ok]
        omega
      · rw [moved_ok]
        omega
    | false =>
      rw [move_refused hm]
      obtain ⟨hf, hdepth, hlength⟩ := ih h (s.refuse p.phase next)
      exact ⟨hf, by rwa [moved_error], by rwa [moved_error]⟩

/-- After the end every move is refused. -/
theorem askAll_terminal (targets : List Phase) {p : Progress} (h : p.phase.isTerminal)
    (s : Session σ) :
    let (answers, p', _) := askAll targets (p, s)
    moved answers = 0 ∧ p' = p := by
  induction targets generalizing s with
  | nil => exact ⟨rfl, rfl⟩
  | cons next rest ih =>
    rw [askAll_cons, move_refused (Phase.not_canMoveTo_of_isTerminal h next)]
    obtain ⟨hmoved, hp⟩ := ih (s.refuse p.phase next)
    exact ⟨by rwa [moved_error], hp⟩

/-- Whatever moves are asked for, the history leads from the start to the current phase by moves
that the rules allow. It is strictly in order, so no phase comes twice and success and failure
exclude each other, and at most six moves are made. The next move is made if the rules allow it and
changes the phase and the history only; or it is refused by name and nothing changes. After the end
all moves are refused. -/
theorem askAll_forward (targets : List Phase) (s : Session σ) :
    let (answers, p, s') := askAll targets ({}, s)
    p.Forward ∧ p.history.Pairwise (·.rank < ·.rank) ∧ p.history.Nodup ∧
      p.history.count .backingUp ≤ 1 ∧ ¬(.completed ∈ p.history ∧ .failed ∈ p.history) ∧
      moved answers ≤ 6 ∧ p.history.length = moved answers + 1 ∧
      (∀ next, (move next).run (p, s') =
        if p.phase.canMoveTo next then
          (.ok (), { p with phase := next, history := p.history ++ [next] }, s')
        else (.error (.invalidMove p.phase next), p, s'.refuse p.phase next)) ∧
      (p.phase.isTerminal → ∀ more, moved (askAll more (p, s')).1 = 0 ∧
        (askAll more (p, s')).2.1 = p) := by
  obtain ⟨hf, hdepth, hlength⟩ := askAll_keeps targets Progress.forward_new s
  have hmost := (askAll targets ({}, s)).2.1.phase.depth_le
  refine ⟨hf, hf.ordered.imp And.right, hf.nodup, List.nodup_iff_count_le_one.mp hf.nodup _,
    hf.not_both_ends, ?_, ?_, fun next => ?_, fun ht more => askAll_terminal more ht _⟩
  · exact Nat.le_trans (Nat.le_add_left ..) (Nat.le_trans hdepth hmost)
  · rw [hlength]
    exact Nat.add_comm ..
  · split
    · next hm => exact move_allowed hm _
    · next hm => exact move_refused (Bool.eq_false_iff.mpr hm) _

end Guard

end DrainGuard
