import DrainGuard.Console.Tmux

/-!
# What reaches the server through a pane

A pane keeps what has been typed until the enter key hands it to the server as one line.

* `LineBuffer`: a pane with the lines that the server has got.
* `LineBuffer.apply`: what one run of tmux does to it.
* `LineBuffer.tmux`: a console over a pane where runs of tmux succeed or fail as given.
-/

namespace DrainGuard

/-- A pane. -/
structure LineBuffer where
  /-- What has been typed since the last line. -/
  pending : List Char := []
  /-- The lines that the server has got. -/
  lines : List (List Char) := []
  deriving DecidableEq

namespace LineBuffer

/-- What a successful run of tmux does to a pane. -/
def apply (b : LineBuffer) (args : List String) : LineBuffer :=
  match args with
  | ["send-keys", "-t", _, "-l", text] => { b with pending := b.pending ++ text.toList }
  | ["send-keys", "-t", _, "Enter"] => { pending := [], lines := b.lines ++ [b.pending] }
  | _ => b

/-- What a run of tmux that ended so does to a pane; one that failed does nothing. -/
def after (b : LineBuffer) (args : List String) (answer : Except StartError Output) : LineBuffer :=
  match answer with
  | .ok o => if o.status.isSuccess then b.apply args else b
  | .error _ => b

/-- A console over a pane and a list of how runs of tmux end; when the list is used up they
succeed. -/
def tmux (binary target : String) : Tmux (LineBuffer × List (Except StartError Output)) where
  binary := binary
  target := target
  run args w :=
    let answer := w.2.headD (.ok ⟨.code 0, [], []⟩)
    (answer, (w.1.after args answer, w.2.tail))
  pidFile _ := none
  children _ _ := none
  alive _ _ := false

/-- Sends commands one after the other; for each one whether it was sent. -/
def sendAll {σ : Type} (t : Tmux σ) : List String → StateM σ (List (String × Bool))
  | [] => return []
  | c :: rest => do
    let answer ← (t.send c).run
    return (c, answer matches .ok _) :: (← sendAll t rest)

end LineBuffer

end DrainGuard
