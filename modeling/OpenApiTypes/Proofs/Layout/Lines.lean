/-
Lines and blocks. A text is laid out when it is a sequence of lines, none of
them empty, of which exactly one, the header, starts with `export `. When
such texts are set one after the other with a line end between them, the
lines that start with `export ` are the headers, and the empty lines are
where the texts meet: nothing inside a text can pass for either.
-/
import Mathlib.Data.List.Forall2
import OpenApiTypes.Declaration

namespace OpenApiTypes.Layout

/-- Lines with their ends. -/
def unlines (lines : List (List Char)) : List Char := lines.flatMap (· ++ ['\n'])

-- ================================================ reading a text

/-- How a line starts that declares something. -/
def exportStart : List Char := "export ".toList

/-- The lines of a text that start with `export `. -/
def exportLines (text : List Char) : List (List Char) :=
  (text.splitOn '\n').filter exportStart.isPrefixOf

/-- The number of places in a text at which a pattern stands. -/
def occurrences (pattern : List Char) : List Char → Nat
  | [] => 0
  | c :: rest => (if pattern.isPrefixOf (c :: rest) then 1 else 0) + occurrences pattern rest

/-- Two line ends in a row. -/
def emptyLine : List Char := ['\n', '\n']

/-- A text cut at its empty lines. Of the two line ends the first stays with
the piece that it ends, and the second is dropped. -/
def pieces : List Char → List (List Char)
  | [] => []
  | '\n' :: '\n' :: rest => ['\n'] :: pieces rest
  | c :: rest =>
      match pieces rest with
      | [] => [[c]]
      | piece :: others => (c :: piece) :: others

-- ========================================================== lines

/-- A line that is not empty. -/
structure IsLine (line : List Char) : Prop where
  nonempty : line ≠ []
  unbroken : '\n' ∉ line

/-- A line that is not empty and declares nothing. -/
structure IsQuiet (line : List Char) : Prop extends IsLine line where
  silent : ¬ exportStart <+: line

/-- What follows the word `export ` where a type name is declared. -/
def openings (name : String) : List String :=
  ["interface " ++ name ++ " ", "type " ++ name ++ " = ", "enum " ++ name ++ " "]

theorem interface_mem_openings (name : String) :
    "interface " ++ name ++ " " ∈ openings name := List.mem_cons_self

theorem type_mem_openings (name : String) : "type " ++ name ++ " = " ∈ openings name :=
  List.mem_cons_of_mem _ List.mem_cons_self

theorem enum_mem_openings (name : String) : "enum " ++ name ++ " " ∈ openings name :=
  List.mem_cons_of_mem _ (List.mem_cons_of_mem _ List.mem_cons_self)

/-- The header of the declaration of a type name. -/
def IsHeader (name : String) (line : List Char) : Prop :=
  ∃ opening ∈ openings name, ("export " ++ opening).toList <+: line

theorem unlines_cons (line : List Char) (lines : List (List Char)) :
    unlines (line :: lines) = line ++ '\n' :: unlines lines := by
  simp [unlines]

theorem unlines_append (first second : List (List Char)) :
    unlines (first ++ second) = unlines first ++ unlines second :=
  List.flatMap_append

/-- A header starts with `export `. -/
theorem IsHeader.exportStart_prefix {name : String} {line : List Char}
    (header : IsHeader name line) : exportStart <+: line := by
  obtain ⟨opening, -, start⟩ := header
  rw [String.toList_append] at start
  exact (List.prefix_append _ _).trans start

-- ================================================= line by line

variable {line rest : List Char} {lines : List (List Char)}

theorem exportLines_unlines (unbroken : ∀ line ∈ lines, '\n' ∉ line) (rest : List Char) :
    exportLines (unlines lines ++ rest)
      = lines.filter exportStart.isPrefixOf ++ exportLines rest := by
  induction lines with
  | nil => rfl
  | cons line lines ih =>
      have first := unbroken line List.mem_cons_self
      have others := ih fun inner mem => unbroken inner (List.mem_cons_of_mem _ mem)
      unfold exportLines at others ⊢
      rw [unlines_cons, List.append_assoc, List.cons_append,
        List.splitOn_append_cons_self_of_not_mem first, List.filter_cons, List.filter_cons, others]
      split
      · rfl
      · rfl

theorem exportLines_nil : exportLines [] = [] := by decide

theorem exportLines_newline (rest : List Char) :
    exportLines ('\n' :: rest) = exportLines rest := by
  have unbroken : ∀ line ∈ ([[]] : List (List Char)), '\n' ∉ line := by simp
  exact exportLines_unlines unbroken rest

/-- A text whose first character, if it has one, ends no line. -/
def StartsFull (text : List Char) : Prop := text.head? ≠ some '\n'

theorem startsFull_unlines (each : ∀ line ∈ lines, IsLine line) (nonempty : lines ≠ [])
    (rest : List Char) :
    StartsFull (unlines lines ++ rest) := by
  cases lines with
  | nil => contradiction
  | cons line lines =>
      obtain ⟨filled, unbroken⟩ := each line List.mem_cons_self
      cases line with
      | nil => contradiction
      | cons c cs =>
          rw [unlines_cons]
          intro same
          obtain rfl : c = '\n' := by simpa using same
          exact unbroken List.mem_cons_self

/-- Before the first character of a pattern the pattern does not stand. -/
theorem occurrences_append_of_head_notMem {c : Char} (absent : c ∉ line) (pattern : List Char)
    (rest : List Char) :
    occurrences (c :: pattern) (line ++ rest) = occurrences (c :: pattern) rest := by
  induction line with
  | nil => rfl
  | cons first others ih =>
      rw [List.mem_cons, not_or] at absent
      have other : (c == first) = false := beq_eq_false_iff_ne.2 absent.1
      rw [List.cons_append, occurrences, ih absent.2]
      simp [List.isPrefixOf, other]

theorem occurrences_append_of_notMem (unbroken : '\n' ∉ line) (rest : List Char) :
    occurrences emptyLine (line ++ rest) = occurrences emptyLine rest :=
  occurrences_append_of_head_notMem unbroken ['\n'] rest

theorem occurrences_newline_of_startsFull (full : StartsFull rest) :
    occurrences emptyLine ('\n' :: rest) = occurrences emptyLine rest := by
  cases rest with
  | nil => rfl
  | cons c cs =>
      have other : ('\n' == c) = false := by
        rw [beq_eq_false_iff_ne]
        intro same
        subst same
        exact full rfl
      rw [occurrences]
      simp [emptyLine, List.isPrefixOf, other]

theorem pieces_append_of_notMem (unbroken : '\n' ∉ line) {piece : List Char}
    {others : List (List Char)} (cut : pieces rest = piece :: others) :
    pieces (line ++ rest) = (line ++ piece) :: others := by
  induction line with
  | nil => exact cut
  | cons c cs ih =>
      have other : c ≠ '\n' := by
        intro same
        subst same
        exact unbroken List.mem_cons_self
      have later := ih fun mem => unbroken (List.mem_cons_of_mem _ mem)
      rw [List.cons_append, pieces, later]
      · rfl
      · intro inner same
        subst same
        exact absurd rfl other

theorem pieces_newline_of_startsFull (full : StartsFull rest) {piece : List Char}
    {others : List (List Char)} (cut : pieces rest = piece :: others) :
    pieces ('\n' :: rest) = ('\n' :: piece) :: others := by
  rw [pieces, cut]
  rintro inner - rfl
  exact full rfl

-- ========================================================= blocks

/-- The lines of a declaration of a type name: a header, and around it lines
that declare nothing. -/
inductive IsBlock (name : String) : List (List Char) → Prop where
  | around {before after : List (List Char)} {header : List Char}
      (quietBefore : ∀ line ∈ before, IsQuiet line) (isLine : IsLine header)
      (isHeader : IsHeader name header) (quietAfter : ∀ line ∈ after, IsQuiet line) :
      IsBlock name (before ++ header :: after)

variable {name : String} {block : List (List Char)}

theorem IsBlock.nonempty (laid : IsBlock name block) : block ≠ [] := by
  cases laid
  simp

theorem IsBlock.isLine (laid : IsBlock name block) : ∀ line ∈ block, IsLine line := by
  cases laid with
  | around quietBefore isLine isHeader quietAfter =>
      intro line mem
      rcases List.mem_append.1 mem with mem | mem
      · exact (quietBefore line mem).toIsLine
      · rcases List.mem_cons.1 mem with rfl | mem
        · exact isLine
        · exact (quietAfter line mem).toIsLine

/-- The only line of a block that starts with `export ` is its header. -/
theorem IsBlock.filter_exportStart (laid : IsBlock name block) :
    ∃ header, IsHeader name header ∧ block.filter exportStart.isPrefixOf = [header] := by
  have quietLines {lines : List (List Char)} (quiet : ∀ line ∈ lines, IsQuiet line) :
      lines.filter exportStart.isPrefixOf = [] := by
    rw [List.filter_eq_nil_iff]
    exact fun line mem found => (quiet line mem).silent (List.isPrefixOf_iff_prefix.1 found)
  cases laid with
  | @around before after header quietBefore isLine isHeader quietAfter =>
      have found : exportStart.isPrefixOf header = true :=
        List.isPrefixOf_iff_prefix.2 isHeader.exportStart_prefix
      refine ⟨header, isHeader, ?_⟩
      rw [List.filter_append, List.filter_cons_of_pos found, quietLines quietBefore,
        quietLines quietAfter, List.nil_append]

/-- The lines of a block hide no empty line: only its last line end can be
the first half of one. -/
theorem occurrences_unlines (each : ∀ line ∈ block, IsLine line) (nonempty : block ≠ []) :
    occurrences emptyLine (unlines block ++ rest) = occurrences emptyLine ('\n' :: rest) := by
  induction block with
  | nil => contradiction
  | cons line others ih =>
      have first := each line List.mem_cons_self
      have later : ∀ line ∈ others, IsLine line :=
        fun inner mem => each inner (List.mem_cons_of_mem _ mem)
      rw [unlines_cons, List.append_assoc, occurrences_append_of_notMem first.unbroken,
        List.cons_append]
      cases others with
      | nil => rfl
      | cons second others =>
          have full := startsFull_unlines later (by simp) rest
          rw [occurrences_newline_of_startsFull full, ih later (by simp)]

/-- A block is one piece, up to the cut after its last line end. -/
theorem pieces_unlines (each : ∀ line ∈ block, IsLine line) (nonempty : block ≠ [])
    {others : List (List Char)} (cut : pieces ('\n' :: rest) = ['\n'] :: others) :
    pieces (unlines block ++ rest) = unlines block :: others := by
  induction block with
  | nil => contradiction
  | cons line lines ih =>
      have first := each line List.mem_cons_self
      have later : ∀ line ∈ lines, IsLine line :=
        fun inner mem => each inner (List.mem_cons_of_mem _ mem)
      rw [unlines_cons, List.append_assoc, List.cons_append]
      apply pieces_append_of_notMem first.unbroken
      cases lines with
      | nil => exact cut
      | cons second lines =>
          have full := startsFull_unlines later (by simp) rest
          exact pieces_newline_of_startsFull full (ih later (by simp))

/-- Blocks with a line end between them. -/
def joinBlocks (blocks : List (List (List Char))) : List Char :=
  ['\n'].intercalate (blocks.map unlines)

theorem joinBlocks_cons_cons (first second : List (List Char)) (others : List (List (List Char))) :
    joinBlocks (first :: second :: others)
      = unlines first ++ '\n' :: joinBlocks (second :: others) := by
  simp [joinBlocks, List.intercalate_cons_cons]

theorem startsFull_joinBlocks {others : List (List (List Char))} (laid : IsBlock name block) :
    StartsFull (joinBlocks (block :: others)) := by
  cases others with
  | nil =>
      have text : joinBlocks [block] = unlines block ++ [] := by simp [joinBlocks]
      rw [text]
      exact startsFull_unlines laid.isLine laid.nonempty _
  | cons second others =>
      rw [joinBlocks_cons_cons]
      exact startsFull_unlines laid.isLine laid.nonempty _

theorem occurrences_two_newlines (rest : List Char) :
    occurrences emptyLine ('\n' :: '\n' :: rest) = 1 + occurrences emptyLine ('\n' :: rest) := by
  rw [occurrences]
  simp [emptyLine, List.isPrefixOf]

/-- In joined blocks the lines that start with `export ` are the headers, in
their order, and the empty lines, one fewer than the blocks, cut the text
into the blocks. -/
theorem reads_joinBlocks {names : List String} {blocks : List (List (List Char))}
    (laid : List.Forall₂ IsBlock names blocks) :
    List.Forall₂ IsHeader names (exportLines (joinBlocks blocks))
      ∧ occurrences emptyLine (joinBlocks blocks) = names.length - 1
      ∧ pieces (joinBlocks blocks) = blocks.map unlines := by
  induction laid with
  | nil => exact ⟨by rw [joinBlocks]; exact .nil, rfl, rfl⟩
  | @cons name block names blocks first others ih =>
      obtain ⟨headers, empty, cut⟩ := ih
      obtain ⟨header, isHeader, only⟩ := first.filter_exportStart
      have unbroken : ∀ line ∈ block, '\n' ∉ line :=
        fun line mem => (first.isLine line mem).unbroken
      cases others with
      | nil =>
          have text : joinBlocks [block] = unlines block ++ [] := by simp [joinBlocks]
          rw [text]
          refine ⟨?_, ?_, ?_⟩
          · rw [exportLines_unlines unbroken, only, exportLines_nil]
            exact .cons isHeader .nil
          · rw [occurrences_unlines first.isLine first.nonempty]
            rfl
          · have last : pieces ['\n'] = [['\n']] := rfl
            rw [pieces_unlines first.isLine first.nonempty last]
            simp
      | @cons name' block' names blocks second others =>
          rw [joinBlocks_cons_cons]
          refine ⟨?_, ?_, ?_⟩
          · rw [exportLines_unlines unbroken, only, exportLines_newline]
            exact .cons isHeader headers
          · rw [occurrences_unlines first.isLine first.nonempty, occurrences_two_newlines,
              occurrences_newline_of_startsFull (startsFull_joinBlocks second), empty]
            simp only [List.length_cons]
            omega
          · rw [pieces_unlines first.isLine first.nonempty rfl, cut]
            rfl

end OpenApiTypes.Layout
