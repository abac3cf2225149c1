/-
Comments as lines. The text of a documentation comment is cut into lines
before it is set, and every line is set after a star, so that nothing in it
can start a line of its own.
-/
import Mathlib.Data.List.DropRight
import OpenApiTypes.Proofs.Layout.Lines

namespace OpenApiTypes.Layout

/-- A line that starts with something else than an `e`, after spaces or not,
declares nothing. -/
theorem isQuiet_of_start {indent rest : List Char} {c : Char} (spaces : ∀ c ∈ indent, c = ' ')
    (other : c ≠ 'e') (unbroken : '\n' ∉ c :: rest) : IsQuiet (indent ++ c :: rest) where
  nonempty := by simp
  unbroken := by
    rw [List.mem_append, not_or]
    refine ⟨fun mem => ?_, unbroken⟩
    exact absurd (spaces _ mem) (by decide)
  silent start := by
    have first : exportStart = 'e' :: "xport ".toList := by decide
    rw [first] at start
    cases indent with
    | nil => exact other (List.cons_prefix_cons.1 start).1.symm
    | cons space indent =>
        have same := (List.cons_prefix_cons.1 start).1
        rw [← same] at spaces
        exact absurd (spaces 'e' List.mem_cons_self) (by decide)

-- ============================================= the lines of a text

theorem newline_notMem_of_mem_lines {cs line : List Char} (mem : line ∈ Text.lines cs) :
    '\n' ∉ line := by
  fun_induction Text.lines cs generalizing line with
  | case1 => cases mem
  | case2 rest ih =>
      rcases List.mem_cons.1 mem with rfl | mem
      · exact List.not_mem_nil
      · exact ih mem
  | case3 rest ih =>
      rcases List.mem_cons.1 mem with rfl | mem
      · exact List.not_mem_nil
      · exact ih mem
  | case4 c rest noBreak _ noMore ih =>
      obtain rfl := List.mem_singleton.1 mem
      intro inner
      exact noBreak (List.mem_singleton.1 inner).symm
  | case5 c rest noBreak _ first others more ih =>
      rw [more] at ih
      rcases List.mem_cons.1 mem with rfl | mem
      · rw [List.mem_cons, not_or]
        exact ⟨fun same => noBreak same.symm, ih List.mem_cons_self⟩
      · exact ih (List.mem_cons_of_mem _ mem)

theorem mem_of_mem_breakClosings {cs : List Char} {c : Char} (mem : c ∈ DocBlock.breakClosings cs)
    (other : c ≠ '\\') : c ∈ cs := by
  fun_induction DocBlock.breakClosings cs with
  | case1 => exact mem
  | case2 rest ih =>
      simp only [List.mem_cons] at mem ⊢
      rcases mem with rfl | rfl | rfl | mem
      · exact .inl rfl
      · exact absurd rfl other
      · exact .inr (.inl rfl)
      · exact .inr (.inr (ih mem))
  | case3 first rest _ ih =>
      rcases List.mem_cons.1 mem with rfl | mem
      · exact List.mem_cons_self
      · exact List.mem_cons_of_mem _ (ih mem)

theorem mem_of_mem_trimEnd {cs : List Char} {c : Char} (mem : c ∈ Text.trimEnd cs) : c ∈ cs :=
  (List.rdropWhile_prefix Text.isBlank cs).mem mem

-- ======================================================= comments

/-- The names of the tags stay on one line. -/
def IsPlain (block : DocBlock) : Prop := ∀ tag ∈ block.tags, '\n' ∉ tag.name.toList

/-- A tag that is added has the given name. -/
theorem mem_or_name_of_mem_tag {block : DocBlock} {name : String} {active : Bool}
    {payload : Option String} {tag : DocTag} (mem : tag ∈ (block.tag name active payload).tags) :
    tag ∈ block.tags ∨ tag.name = name := by
  unfold DocBlock.tag at mem
  split at mem
  · rcases List.mem_append.1 mem with mem | mem
    · exact .inl mem
    · obtain rfl := List.mem_singleton.1 mem
      exact .inr rfl
  · exact .inl mem

/-- The comment of a schema has two tags at most, whatever the schema says. -/
theorem forall_mem_tags_ofSchema {P : String → Prop} (deprecated : P "deprecated")
    (sample : P "example") (own : Keywords) (description : Option String) :
    ∀ tag ∈ (DocBlock.ofSchema own description).tags, P tag.name := by
  intro tag mem
  rcases mem_or_name_of_mem_tag mem with mem | named
  · rcases mem_or_name_of_mem_tag mem with mem | named
    · cases mem
    · rw [named]
      exact deprecated
  · rw [named]
    exact sample

/-- The comment of a schema has plain tags. -/
theorem isPlain_ofSchema (own : Keywords) (description : Option String) :
    IsPlain (DocBlock.ofSchema own description) := by
  exact forall_mem_tags_ofSchema (P := fun name => '\n' ∉ name.toList) (by decide) (by decide)
    own description

theorem isPlain_ofDescription (description : Option String) :
    IsPlain (DocBlock.ofDescription description) := by
  intro tag mem
  cases mem

/-- A line of a comment without its end. -/
def starLine (indent line : List Char) : List Char :=
  indent ++ ' ' :: '*' ::
    match Text.trimEnd line with
    | [] => []
    | line => ' ' :: line

/-- The lines of a comment. -/
def commentLines (block : DocBlock) (indent : List Char) : List (List Char) :=
  if block.isEmpty then []
  else
    (indent ++ '/' :: ['*', '*']) :: block.bodyLines.map (starLine indent)
      ++ [indent ++ ' ' :: ['*', '/']]

/-- The text of a comment is its lines. -/
theorem chars_eq_unlines (block : DocBlock) (indent : List Char) :
    block.chars indent = unlines (commentLines block indent) := by
  have body : DocBlock.bodyLine indent = fun line => starLine indent line ++ ['\n'] := by
    funext line
    cases trimmed : Text.trimEnd line with
    | nil => simp [DocBlock.bodyLine, starLine, trimmed]
    | cons c cs => simp [DocBlock.bodyLine, starLine, trimmed]
  unfold DocBlock.chars commentLines
  split
  · rfl
  · simp [unlines, List.flatMap_map, body]

/-- The lines of a description or a payload hold no line end. -/
theorem newline_notMem_commentLine {text : String} {line : List Char}
    (mem : line ∈ DocBlock.commentLines text) : '\n' ∉ line := by
  obtain ⟨raw, inner, rfl⟩ := List.mem_map.1 mem
  intro found
  exact newline_notMem_of_mem_lines inner (mem_of_mem_breakClosings found (by decide))

theorem newline_notMem_tagLine {tag : DocTag} (plain : '\n' ∉ tag.name.toList) {line : List Char}
    (mem : line ∈ DocBlock.tagLines tag) : '\n' ∉ line := by
  unfold DocBlock.tagLines at mem
  split at mem
  · obtain rfl := List.mem_singleton.1 mem
    simp [plain]
  · next payload _ =>
    split at mem
    · obtain rfl := List.mem_singleton.1 mem
      simp [plain]
    · next first others lines =>
      have each : ∀ line ∈ first :: others, '\n' ∉ line :=
        fun line inner => newline_notMem_commentLine (lines ▸ inner)
      rcases List.mem_cons.1 mem with rfl | mem
      · simp [plain, each first List.mem_cons_self]
      · exact each line (List.mem_cons_of_mem _ mem)

/-- The lines of a block hold no line end. -/
theorem newline_notMem_bodyLine {block : DocBlock} (plain : IsPlain block) {line : List Char}
    (mem : line ∈ block.bodyLines) : '\n' ∉ line := by
  rcases List.mem_append.1 mem with mem | mem
  · cases given : block.description with
    | none => simp [given] at mem
    | some description => exact newline_notMem_commentLine (by simpa [given] using mem)
  · obtain ⟨tag, listed, inner⟩ := List.mem_flatMap.1 mem
    exact newline_notMem_tagLine (plain tag listed) inner

/-- What is set after a star holds no line end. -/
theorem newline_notMem_starLine {indent line : List Char} (inline : '\n' ∉ indent)
    (unbroken : '\n' ∉ line) : '\n' ∉ starLine indent line := by
  have trimmed : '\n' ∉ Text.trimEnd line := fun found => unbroken (mem_of_mem_trimEnd found)
  unfold starLine
  split
  · simp [inline]
  · simp [inline, trimmed]

/-- The lines of a comment declare nothing. -/
theorem isQuiet_of_mem_commentLines {block : DocBlock} (plain : IsPlain block)
    {indent : List Char} (spaces : ∀ c ∈ indent, c = ' ') {line : List Char}
    (mem : line ∈ commentLines block indent) : IsQuiet line := by
  have inline : '\n' ∉ indent := fun mem => absurd (spaces _ mem) (by decide)
  unfold commentLines at mem
  split at mem
  · cases mem
  · rcases List.mem_append.1 mem with mem | mem
    · rcases List.mem_cons.1 mem with rfl | mem
      · exact isQuiet_of_start spaces (by decide) (by decide)
      · obtain ⟨raw, inner, rfl⟩ := List.mem_map.1 mem
        have unbroken := newline_notMem_starLine inline (newline_notMem_bodyLine plain inner)
        unfold starLine at unbroken ⊢
        rw [List.mem_append, not_or] at unbroken
        exact isQuiet_of_start spaces (by decide) unbroken.2
    · obtain rfl := List.mem_singleton.1 mem
      exact isQuiet_of_start spaces (by decide) (by decide)

end OpenApiTypes.Layout
