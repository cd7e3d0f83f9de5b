import DrainGuard.Watch.Poller
import DrainGuard.Lifecycle.Drain

/-!
# The daemon

* `Guard.daemon`: watches for a notice and then drains the server; nothing is touched before a
  notice, and a cancellation after it does not matter.
-/

namespace DrainGuard

/-- What a daemon came to. -/
structure Daemon (σ : Type) where
  /-- The watch for a notice. -/
  watch : Watch
  /-- The report of the shutdown, if a notice came. -/
  report : Option Report
  /-- The session at the end. -/
  session : Session σ

/-- Watches for a notice from the session's world on and drains the server when one comes. -/
def Guard.daemon {σ : Type} (g : Guard σ) (fetch : Nat → Fetch) (interval : Nat)
    (cancel : Option Nat) (fuel patience : Nat) (world : σ) : Option (Daemon σ) := do
  let watch ← Watch.run fetch interval cancel fuel
  let session : Session σ := { world, clock := watch.finish }
  match watch.notice with
  | none => return ⟨watch, none, session⟩
  | some n => do
    let (report, session) ← g.drain (.notice n) patience session
    return ⟨watch, some report, session⟩

end DrainGuard
