import DrainGuard.Console.Mock
import DrainGuard.Proofs.Lifecycle.Mirror
import DrainGuard.Proofs.Watch.Timeline
import DrainGuard.Watch.Daemon

/-!
# From the watch to the shutdown

A daemon is a watch followed by a shutdown, and a cancellation reaches the watch only.

- **Later** (`Session.later`, `Guard.drain_later`): a shutdown that starts later does the same, each
  act later by as much. Nothing in it reads the clock.
- **Hand-off** (`Guard.daemon_notice`): a daemon that is not cancelled before the first notice has
  come is the shutdown for that notice, started when the notice came.
- **Untouched** (`Guard.daemon_cancelled`): a daemon that is cancelled before that has done nothing.
- **All runs** (`Guard.daemon_handoff`): one or the other, for every cancellation.
-/

namespace DrainGuard

variable {σ : Type}

/-! ## A later start -/

/-- The same event, later. -/
def Event.later (delay : Nat) : Event → Event
  | .sent t line answer => .sent (t + delay) line answer
  | .located t answer => .located (t + delay) answer
  | .checked t pid alive => .checked (t + delay) pid alive
  | .archived t t₁ mode outcome => .archived (t + delay) (t₁ + delay) mode outcome
  | .refused t source target => .refused (t + delay) source target

/-- The same session, later. -/
def Session.later (delay : Nat) (s : Session σ) : Session σ :=
  ⟨s.world, s.clock + delay, s.log.map (Event.later delay)⟩

/-- An act in the later session is the act, later. -/
theorem Session.later_act (delay ms : Nat) (s : Session σ) (w : σ) {e e' : Event}
    (he : e' = e.later delay) : (⟨w, s.clock + delay + ms, e' :: (s.later delay).log⟩ : Session σ) =
      Session.later delay ⟨w, s.clock + ms, e :: s.log⟩ := by
  rw [he, Nat.add_right_comm]
  rfl

namespace Guard

/-- No act of a guard depends on the clock. -/
theorem mirrors_later (g : Guard σ) (delay : Nat) :
    Mirrors (fun s s' => s' = s.later delay) g g where
  target := rfl
  timings := rfl
  announce b := by
    rintro s _ rfl
    exact Session.later_act delay _ s _ rfl
  command c := by
    rintro s _ rfl
    exact ⟨rfl, Session.later_act delay _ s _ rfl⟩
  locate := by
    rintro s _ rfl
    exact ⟨rfl, rfl⟩
  check pid := by
    rintro s _ rfl
    exact ⟨rfl, rfl⟩
  archive mode := by
    rintro s _ rfl
    exact ⟨rfl, Session.later_act delay _ s _ (by rw [Event.later, Nat.add_right_comm]; rfl)⟩
  sleep ms := by
    rintro s _ rfl
    exact congrArg (Session.mk s.world · _) (Nat.add_right_comm _ _ _)
  refuse p next := by
    rintro s _ rfl
    rfl

/-- A shutdown that starts later comes to the same report by the same acts, each later by as
much. -/
theorem drain_later (g : Guard σ) (trigger : Trigger) (patience delay : Nat) (s : Session σ) :
    g.drain trigger patience (s.later delay) =
      (g.drain trigger patience s).map fun (r, s₁) => (r, s₁.later delay) := by
  have hm := g.mirrors_later delay
  obtain ⟨r, s₁, _, hr, hr', rfl⟩ := hm.drainWithin (hm.warned trigger) patience (s := s) rfl
  rw [drain, drain, hr, hr']
  cases r <;> rfl

end Guard

/-! ## The hand-off -/

/-- A daemon that was cancelled and has done nothing up to then. -/
structure Daemon.Untouched (d : Daemon σ) (w : σ) (c : Nat) : Prop where
  notice : d.watch.notice = none
  report : d.report = none
  world : d.session.world = w
  events : d.session.events = []
  clock : d.session.clock = c

namespace Guard

open Timeline Watch

variable (g : Guard σ) {fetch : Nat → Fetch} {interval fuel : Nat} (patience : Nat) (w : σ)

/-- After a watch that ends with a notice a daemon is the shutdown for it. -/
theorem daemon_of_run {cancel : Option Nat} {watch : Watch} {n : Notice}
    (hw : Watch.run fetch interval cancel fuel = some watch) (hn : watch.notice = some n) :
    g.daemon fetch interval cancel fuel patience w =
      (g.drain (.notice n) patience { world := w, clock := watch.finish }).map fun (r, s) =>
        ⟨watch, some r, s⟩ := by
  simp only [daemon, hw, hn, Option.bind_eq_bind, Option.bind_some]
  cases g.drain (.notice n) patience { world := w, clock := watch.finish } <;> rfl

/-- A daemon that is not cancelled before the end of the first fetch with a notice is the shutdown
for that notice, begun then. -/
theorem daemon_notice {m : Nat} {n : Notice} (h : FirstNotice fetch m n) {cancel : Option Nat}
    (hc : ∀ c ∈ cancel, answered fetch interval m < c) (hf : m < fuel) :
    g.daemon fetch interval cancel fuel patience w =
      (g.drain (.notice n) patience { world := w }).map fun (r, s) =>
        ⟨⟨some n, starts fetch interval (m + 1), answered fetch interval m⟩, some r,
          s.later (answered fetch interval m)⟩ := by
  have hd := g.drain_later (.notice n) patience (answered fetch interval m) { world := w }
  have hs : ({ world := w } : Session σ).later (answered fetch interval m) =
      { world := w, clock := answered fetch interval m } :=
    congrArg (Session.mk w · []) (Nat.zero_add _)
  rw [g.daemon_of_run patience w (run_notice h hc hf) rfl, ← hs, hd, Option.map_map]
  rfl

/-- A daemon that is cancelled before any fetch with a notice has ended does nothing. -/
theorem daemon_cancelled {k c : Nat} (hn : ∀ j < k, (fetch j).notice? = none)
    (hbefore : ∀ j < k, answered fetch interval j < c) (hk : c ≤ answered fetch interval k)
    (hf : k < fuel) :
    ∃ d, g.daemon fetch interval (some c) fuel patience w = some d ∧ d.Untouched w c := by
  rw [daemon, run_cancelled hn hbefore hk hf]
  exact ⟨_, rfl, rfl, rfl, rfl, rfl, rfl⟩

/-- What becomes of a daemon, by the time of its cancellation and by the watch that is never
cancelled, if that one ends with a notice. -/
structure HandsOff (fetch : Nat → Fetch) (interval fuel : Nat) (watch : Watch) (n : Notice) :
    Prop where
  uncancelled : Watch.run fetch interval none fuel = some watch
  notice : watch.notice = some n
  /-- From the notice on there is only the shutdown. -/
  after : ∀ cancel, (∀ c ∈ cancel, watch.finish < c) →
    g.daemon fetch interval cancel fuel patience w =
      (g.drain (.notice n) patience { world := w }).map fun (r, s) =>
        ⟨watch, some r, s.later watch.finish⟩
  before : ∀ c < watch.finish,
    ∃ d, g.daemon fetch interval (some c) fuel patience w = some d ∧ d.Untouched w c

/-- A cancellation after the notice has come does not matter, and before that it leaves everything
untouched. -/
theorem daemon_handoff (hi : 0 < interval) :
    (∀ m n, FirstNotice fetch m n → ∃ watch, ∀ fuel > m,
      g.HandsOff patience w fetch interval fuel watch n) ∧
    ((∀ k, (fetch k).notice? = none) → ∀ c, ∀ fuel > c,
      ∃ d, g.daemon fetch interval (some c) fuel patience w = some d ∧ d.Untouched w c) := by
  constructor
  · intro m n h
    refine ⟨⟨some n, starts fetch interval (m + 1), answered fetch interval m⟩, fun fuel hf => ?_⟩
    constructor
    case uncancelled => exact run_notice h (fun c hc => absurd hc (Option.not_mem_none c)) hf
    case notice => rfl
    case after => exact fun cancel hc => g.daemon_notice patience w h hc hf
    case before =>
      intro c hc
      obtain ⟨k, hbefore, hk⟩ := exists_turn fetch hi c
      -- the cancellation comes in the turn of fetch `m` at the latest, so no notice is before it
      have hkm : k ≤ m := by
        by_contra hlt
        exact absurd (hbefore m (Nat.lt_of_not_le hlt)) (Nat.not_lt_of_lt hc)
      exact g.daemon_cancelled patience w (fun j hj => h.silent j (hj.trans_le hkm)) hbefore hk
        (hkm.trans_lt hf)
  · intro hn c fuel hf
    obtain ⟨k, hbefore, hk⟩ := exists_turn fetch hi c
    have hkc : k ≤ c := by
      by_contra hlt
      exact absurd (hbefore c (Nat.lt_of_not_le hlt)) (Nat.not_lt_of_le (le_answered fetch hi c))
    exact g.daemon_cancelled patience w (fun j _ => hn j) hbefore hk (hkc.trans_lt hf)

/-- A notice at the second look, whose answer comes after 5020 milliseconds. -/
theorem daemon_handoff_terminate :
    let g : Guard Mock := ⟨Mock.channel, ⟨fun _ m => ((.success, 0), m)⟩, {}⟩
    let n : Notice := ⟨.terminate, ⟨1767225600, 0⟩⟩
    let fetch : Nat → Fetch := fun k => ⟨20, if k = 1 then .ok (some n) else .ok none⟩
    0 < 5000 ∧ FirstNotice fetch 1 n ∧ ∃ watch, watch.finish = 5020 ∧
      g.HandsOff 3 { aliveFor := 2 } fetch 5000 2 watch n := by
  intro g n fetch
  have hi : 0 < 5000 := by decide
  have hn : FirstNotice fetch 1 n := ⟨rfl, fun k hk => by rw [Nat.lt_one_iff.mp hk]; rfl⟩
  obtain ⟨watch, hw⟩ := (daemon_handoff g 3 { aliveFor := 2 } hi).1 1 n hn
  have hrun := (hw 2 Nat.one_lt_two).uncancelled
  exact ⟨hi, hn, watch, congrArg Watch.finish (Option.some.inj hrun).symm, hw 2 Nat.one_lt_two⟩

end Guard

end DrainGuard
