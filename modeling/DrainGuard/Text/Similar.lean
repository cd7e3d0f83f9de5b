/-!
# Similar texts

The Jaro similarity of two texts, as an exact fraction. Two characters match if they are equal and
not too far apart; matches in another order count less.

* `Similarity`: a fraction, and how two of them compare.
* `similarity`: the similarity of two texts.
* `closest?`: the candidate that is the most similar to a text, if any is similar enough.
-/

namespace DrainGuard.Text

/-- A fraction. -/
structure Similarity where
  /-- Its numerator. -/
  numerator : Nat
  /-- Its denominator. -/
  denominator : Nat

/-- Is one fraction at most another one? -/
def Similarity.atMost (a b : Similarity) : Bool :=
  a.numerator * b.denominator ≤ b.numerator * a.denominator

/-- Texts of more than this similarity are similar enough to be suggested. -/
def similarEnough : Similarity := ⟨7, 10⟩

/-- Marks the first unmarked character equal to `c` at an index from `low` on and below `high`;
the first character of the list has the index `j`. -/
def mark (c : Char) (low high : Nat) : Nat → List (Char × Bool) → Option (List (Char × Bool))
  | _, [] => none
  | j, (b, marked) :: rest =>
    if high ≤ j then none
    else if low ≤ j && b == c && !marked then some ((b, true) :: rest)
    else (mark c low high (j + 1) rest).map ((b, marked) :: ·)

/-- The matching characters of two texts, each in its own order. -/
def matching (range : Nat) (a b : List Char) : List Char × List Char :=
  let (left, marks) := a.zipIdx.foldl (fun (left, marks) (c, i) =>
    match mark c (i - range) (i + range + 1) 0 marks with
    | some marks => (left ++ [c], marks)
    | none => (left, marks)) (([] : List Char), b.map fun c => (c, false))
  (left, (marks.filter fun m => m.2).map fun m => m.1)

/-- The similarity of two texts. -/
def similarity (a b : List Char) : Similarity :=
  if a.isEmpty && b.isEmpty then ⟨1, 1⟩
  else
    let (left, right) := matching (max a.length b.length / 2 - 1) a b
    let m := left.length
    let moved := ((left.zip right).countP fun (x, y) => x != y) / 2
    if m = 0 then ⟨0, 1⟩
    else ⟨m * m * b.length + m * m * a.length + (m - moved) * a.length * b.length,
      3 * a.length * b.length * m⟩

/-- The candidate that is the most similar to a text and similar enough; the last of several. -/
def closest? (text : String) (candidates : List String) : Option String :=
  let best := candidates.foldl (fun (best : Option (String × Similarity)) c =>
    let s := similarity text.toList c.toList
    if s.atMost similarEnough then best
    else match best with
      | some (_, t) => if t.atMost s then some (c, s) else best
      | none => some (c, s)) none
  best.map fun b => b.1

end DrainGuard.Text
