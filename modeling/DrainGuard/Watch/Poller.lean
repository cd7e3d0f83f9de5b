import DrainGuard.Notice.Basic
import DrainGuard.Failure

/-!
# Looking for a notice

A watch fetches at a steady pace until a fetch bears a notice or it is cancelled. Fetches do not
overlap. A fetch that outlasts the interval delays the pace; it is not made up for.

* `Ticker.next`: when the tick after a taken tick is due.
* `Watch.turn`: one turn of the loop, which is a tick and a fetch.
* `Watch.run`: the fetches of a watch, with the time each began.
-/

namespace DrainGuard

/-- The answer of one look at the metadata service. -/
structure Fetch where
  /-- Milliseconds it takes. -/
  millis : Nat := 0
  /-- A notice, no notice, or a failure. -/
  answer : Except Failure (Option Notice) := .ok none

/-- A failed fetch counts as no notice. -/
def Fetch.notice? (f : Fetch) : Option Notice :=
  match f.answer with
  | .ok n => n
  | .error _ => none

/-- A ticker: when the next tick is due, by the number of a tick, when that was due and when it was
taken. -/
abbrev Ticker := Nat → Nat → Nat → Nat

namespace Ticker

/-- Milliseconds by which a tick may be late and still count as on time. -/
def tolerance : Nat := 5

/-- When the next tick is due after the tick due at `due` was taken at `taken`: one interval after
it was due, or after it was taken if that was too late. -/
def next (interval due taken : Nat) : Nat :=
  if due + tolerance < taken then taken + interval else due + interval

/-- The ticker of a watch, which delays all later ticks if one is too late. -/
def delaying (interval : Nat) : Ticker := fun _ => next interval

end Ticker

/-- A watch for notices. -/
structure Watch where
  /-- The notice that ended it; none if it was cancelled. -/
  notice : Option Notice
  /-- When each fetch began. -/
  calls : List Nat
  /-- When it ended. -/
  finish : Nat

namespace Watch

/-- The time is not before the cancellation. -/
def cancelledBy (cancel : Option Nat) (time : Nat) : Bool := cancel.any (· ≤ time)

/-- A watch that is under way. -/
structure Underway where
  /-- The time. -/
  now : Nat := 0
  /-- When the next tick is due. -/
  due : Nat := 0
  /-- When the fetches so far began, the latest first. -/
  calls : List Nat := []

/-- When the next fetch begins: with its tick, which the watch takes as soon as it is ready. -/
def Underway.start (u : Underway) : Nat := max u.now u.due

/-- A watch after some turns. -/
inductive Turned where
  /-- It has ended. -/
  | ended (w : Watch)
  /-- It goes on. -/
  | going (u : Underway)

namespace Turned

/-- The watch, if it has ended. -/
def ended? : Turned → Option Watch
  | ended w => some w
  | going _ => none

/-- When the fetches so far began. -/
def calls : Turned → List Nat
  | ended w => w.calls
  | going u => u.calls.reverse

end Turned

section Turns

variable (fetch : Nat → Fetch) (tick : Ticker) (cancel : Option Nat)

/-- One turn: the watch takes the next tick and fetches. A cancellation ends it while it waits for
the tick, or abandons the fetch. -/
def turn (u : Underway) : Turned :=
  let start := u.start
  if cancelledBy cancel start then .ended ⟨none, u.calls.reverse, max u.now (cancel.getD u.now)⟩
  else
    let f := fetch u.calls.length
    let finish := start + f.millis
    if cancelledBy cancel finish then
      .ended ⟨none, (start :: u.calls).reverse, cancel.getD finish⟩
    else match f.notice? with
      | some n => .ended ⟨some n, (start :: u.calls).reverse, finish⟩
      | none => .going ⟨finish, tick u.calls.length u.due start, start :: u.calls⟩

/-- Turns up to a number of them, or up to the end of the watch. -/
def turns : Nat → Underway → Turned
  | 0, u => .going u
  | n + 1, u => match turn fetch tick cancel u with
    | .ended w => .ended w
    | .going u => turns n u

end Turns

/-- The whole watch from time zero. At most `fuel` fetches begin; none if that is not enough. -/
def run (fetch : Nat → Fetch) (interval : Nat) (cancel : Option Nat) (fuel : Nat) : Option Watch :=
  (turns fetch (.delaying interval) cancel fuel {}).ended?

/-- Fetches one after the other, without a pace. -/
def once (fetch : Nat → Fetch) (n : Nat) : List (Option Notice) × List Nat × Nat :=
  let rec steps : Nat → Nat → List (Option Notice) × List Nat × Nat
    | 0, now => ([], [], now)
    | k + 1, now =>
      let f := fetch (n - (k + 1))
      let (results, calls, finish) := steps k (now + f.millis)
      (f.notice? :: results, now :: calls, finish)
  steps n 0

end Watch

end DrainGuard
