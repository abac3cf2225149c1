/-
File paths as texts. A path is a sequence of segments between slashes; one
that starts with a slash counts from the root. Empty segments and single
dots after the first segment name nothing and are passed over when the last
step of a path or its parent is asked for.
-/

namespace OpenApiTypes.Path

/-- The segments between the slashes. -/
def segments : List Char → List (List Char)
  | [] => [[]]
  | c :: rest =>
      if c = '/' then [] :: segments rest
      else
        match segments rest with
        | [] => [[c]]
        | segment :: others => (c :: segment) :: others

/-- The text that has some segments. -/
def ofSegments (segments : List (List Char)) : String :=
  String.ofList (List.intercalate ['/'] segments)

/-- Whether a path counts from the root. -/
def isAbsolute (path : String) : Bool := path.toList.head? = some '/'

/-- The path that is reached by a second path from a first one. -/
def join (base path : String) : String :=
  if isAbsolute path then path
  else
    match base.toList.getLast? with
    | none => path
    | some '/' => base ++ path
    | some _ => base ++ "/" ++ path

/-- Whether a segment after the first one names nothing. -/
def isIdle (segment : List Char) : Bool := segment = [] || segment = ['.']

/-- The segments without the idle ones at the end. -/
def trimIdle (segments : List (List Char)) : List (List Char) :=
  (segments.reverse.dropWhile isIdle).reverse

/-- The path of the directory that holds what a path names. The root and the
empty path have none; what is named by a single step is held by the empty
path. -/
def parent? (path : String) : Option String :=
  match segments path.toList with
  | [] => none
  | first :: others =>
      match trimIdle others with
      | [] => if first = [] then none else some ""
      | steps =>
          match first, trimIdle steps.dropLast with
          | [], [] => some "/"
          | first, above => some (ofSegments (first :: above))

/-- The name in the last step of a path, unless that step is a dot or two. -/
def fileName? (path : String) : Option String :=
  match segments path.toList with
  | [] => none
  | first :: others =>
      let last := (trimIdle others).getLast?.getD first
      if last = [] || last = ['.'] || last = ['.', '.'] then none else some (String.ofList last)

/-- A sequence cut at the last place of a mark. A mark at the very start cuts
nothing off. -/
def cutAtLast {α : Type} [DecidableEq α] (mark : α) (items : List α) :
    List α × Option (List α) :=
  let back := items.reverse
  match (back.dropWhile (· ≠ mark)).drop 1 with
  | [] => (items, none)
  | front => (front.reverse, some (back.takeWhile (· ≠ mark)).reverse)

/-- The extension of what a path names. -/
def extension? (path : String) : Option String := do
  let ext ← (cutAtLast '.' (← fileName? path).toList).2
  pure (String.ofList ext)

/-- What is cut is put together again with the mark in between, and the mark
is not in what comes after it. -/
theorem cutAtLast_eq_some {α : Type} [DecidableEq α] {mark : α} {items front after : List α} :
    cutAtLast mark items = (front, some after) ↔
      front ≠ [] ∧ mark ∉ after ∧ items = front ++ mark :: after := by
  constructor
  · intro cut
    have parts : items.reverse.takeWhile (· ≠ mark) ++ items.reverse.dropWhile (· ≠ mark)
        = items.reverse := List.takeWhile_append_dropWhile
    have first := List.head?_dropWhile_not (· ≠ mark) items.reverse
    simp only [cutAtLast] at cut
    cases found : items.reverse.dropWhile (· ≠ mark) with
    | nil =>
      rw [found] at cut
      cases cut
    | cons c rest =>
      rw [found] at cut parts first
      obtain rfl : c = mark := by simpa using first
      cases rest with
      | nil => cases cut
      | cons last rest =>
        cases cut
        refine ⟨by simp, fun mem => ?_, ?_⟩
        · simpa using List.all_eq_true.1 List.all_takeWhile _ (List.mem_reverse.1 mem)
        · calc items = items.reverse.reverse := (List.reverse_reverse items).symm
            _ = (items.reverse.takeWhile (· ≠ c) ++ c :: last :: rest).reverse := by rw [parts]
            _ = _ := by simp
  · rintro ⟨some, plain, rfl⟩
    have passed : ∀ c ∈ after.reverse, decide (c ≠ mark) = true := fun c mem =>
      decide_eq_true fun same => plain (same ▸ List.mem_reverse.1 mem)
    have back : (front ++ mark :: after).reverse = after.reverse ++ mark :: front.reverse := by simp
    simp only [cutAtLast]
    rw [back, List.takeWhile_append_of_pos passed, List.dropWhile_append_of_pos passed]
    cases found : front.reverse with
    | nil => exact absurd (List.reverse_eq_nil_iff.1 found) some
    | cons last rest =>
      have whole : (last :: rest).reverse = front := by rw [← found, List.reverse_reverse]
      simp [whole]

end OpenApiTypes.Path
