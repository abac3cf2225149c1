/-
The search for a short edit script. The starts and ends that two lists share
are kept. What is left is cut in two at a place that a shortest script goes
through, and each part is treated in the same way, until one of the two
lists has no lines.

The place is found by going from both corners of the grid of the two lists
at once. After each further edit the search knows, for every diagonal, the
furthest point that it can reach; where the points of the two directions
pass each other, the scripts meet.
-/
import OpenApiTypes.Diff.Script

namespace OpenApiTypes.Diff

variable {α : Type} [DecidableEq α]

/-- For every diagonal the furthest point reached on it, given by its
distance from the corner in the old list. Diagonals count from the middle
one, on both sides. -/
structure Front where
  middle : Nat
  reached : Array Nat

namespace Front

/-- A front before the first step, wide enough for a number of edits. -/
def start (edits : Nat) : Front := ⟨edits + 1, Array.replicate (2 * edits + 3) 0⟩

/-- The furthest point on a diagonal. -/
def get (front : Front) (diagonal : Int) : Nat :=
  front.reached.getD (front.middle + diagonal).toNat 0

/-- Notes the furthest point on a diagonal. -/
def set (front : Front) (diagonal : Int) (x : Nat) : Front :=
  { front with reached := front.reached.setIfInBounds (front.middle + diagonal).toNat x }

end Front

/-- How many lines two arrays share from the given places on. -/
def shared (old new : Array α) (x y : Nat) : Nat :=
  if h : x < old.size then
    match new[y]? with
    | some line => if old[x] = line then shared old new (x + 1) (y + 1) + 1 else 0
    | none => 0
  else 0
termination_by old.size - x

/-- The diagonals that are reached with a number of edits, from the one with
the most lines of the old list. -/
def diagonals (edits : Nat) : List Int :=
  (List.range (edits + 1)).map fun (i : Nat) => (edits : Int) - 2 * (i : Int)

/-- The point on a diagonal that one more edit leads to from the front. -/
def enter (front : Front) (edits : Nat) (diagonal : Int) : Nat :=
  if diagonal = -edits ∨
      (diagonal ≠ edits ∧ front.get (diagonal - 1) < front.get (diagonal + 1)) then
    front.get (diagonal + 1)
  else front.get (diagonal - 1) + 1

/-- A step of the search on a list of diagonals: the front after it, or the
point where it meets the other front. A meeting is looked for if `meets`
holds of the diagonal, and shown as the point before the shared lines or
after them. -/
def step (old new : Array α) (other : Front) (edits : Nat) (meets : Int → Bool)
    (after : Bool) (front : Front) : List Int → Except (Nat × Nat) Front
  | [] => .ok front
  | diagonal :: rest =>
      let x := enter front edits diagonal
      let y := (x - diagonal).toNat
      let count := shared old new x y
      let front := front.set diagonal (x + count)
      let opposite : Int := (old.size : Int) - new.size - diagonal
      if meets diagonal && old.size ≤ x + count + other.get opposite then
        .error (if after then (x + count, y + count) else (x, y))
      else step old new other edits meets after front rest

/-- Searches with more and more edits for the point where the fronts meet.
`left` bounds the edits that are still tried. -/
def meeting (old new oldBack newBack : Array α) (forward backward : Front) (edits : Nat) :
    Nat → Option (Nat × Nat)
  | 0 => none
  | left + 1 =>
      let delta : Int := (old.size : Int) - new.size
      let odd : Bool := delta % 2 != 0
      let near (room : Int) (diagonal : Int) : Bool := (diagonal - delta).natAbs ≤ room
      match step old new backward edits (fun k => odd && near (edits - 1) k) false forward
          (diagonals edits) with
      | .error point => some point
      | .ok forward =>
      match step oldBack newBack forward edits (fun k => ! odd && near edits k) true backward
          (diagonals edits) with
      | .error (x, y) => some (old.size - x, new.size - y)
      | .ok backward => meeting old new oldBack newBack forward backward (edits + 1) left

/-- A point that a shortest script for two lists goes through. -/
def middle? (old new : List α) : Option (Nat × Nat) :=
  let most := (old.length + new.length + 1) / 2 + 1
  meeting old.toArray new.toArray old.reverse.toArray new.reverse.toArray
    (.start most) (.start most) 0 most

/-- The script for two lists. The bound is on the cuts that lie in one
another. -/
def search (old new : List α) : Nat → Script α
  | 0 => Script.ofRun .drop old ++ Script.ofRun .add new
  | bound + 1 =>
      let start := commonStart old new
      let old := old.drop start.length
      let new := new.drop start.length
      let ending := commonEnd old new
      let old := old.take (old.length - ending.length)
      let new := new.take (new.length - ending.length)
      let changed :=
        if old.isEmpty || new.isEmpty then Script.ofRun .drop old ++ Script.ofRun .add new
        else
          match middle? old new with
          | some (x, y) =>
              search (old.take x) (new.take y) bound ++ search (old.drop x) (new.drop y) bound
          | none => Script.ofRun .drop old ++ Script.ofRun .add new
      Script.ofRun .keep start ++ changed ++ Script.ofRun .keep ending

/-- The script that makes one list of lines into another one. -/
def script (old new : List α) : Script α := search old new (old.length + new.length + 1)

end OpenApiTypes.Diff
