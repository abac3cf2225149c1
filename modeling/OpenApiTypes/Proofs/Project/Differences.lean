/-
A printed difference as a patch. The text is read back line by line: the
colour codes at the start of a line are dropped, the lines between two
separators are a group, and in each of them the first character is a sign
and the rest a line of one of the two files. What is read that way lies in
both files as `Diff.Fits` says (`diff_fits`), so that one file is the other
with the runs of the groups exchanged.

Only codes that stand before a sign are dropped. A file may hold colour codes
itself; its lines are shown after a sign and are read as they are. Nor can a
line be taken for a separator, which has no sign.
-/
import OpenApiTypes.Project.FileChange
import OpenApiTypes.Proofs.Diff.Groups

namespace OpenApiTypes

-- ======================================================== line tokens

namespace Text

/-- The ways to end a line. -/
def lineEnds : List (List Char) := [['\n'], ['\r', '\n'], ['\r']]

/-- Characters without a line end among them. -/
def IsBody (body : List Char) : Prop := ∀ c ∈ body, c ≠ '\n' ∧ c ≠ '\r'

instance (body : List Char) : Decidable (IsBody body) :=
  List.decidableBAll (fun c => c ≠ '\n' ∧ c ≠ '\r') body

/-- A line with its end. -/
def IsLine (line : List Char) : Prop :=
  ∃ body, IsBody body ∧ ∃ ending ∈ lineEnds, line = body ++ ending

theorem IsLine.append {body line : List Char} (clean : IsBody body) (h : IsLine line) :
    IsLine (body ++ line) := by
  obtain ⟨rest, cleanRest, ending, ends, rfl⟩ := h
  refine ⟨body ++ rest, ?_, ending, ends, by simp⟩
  intro c mem
  rcases List.mem_append.1 mem with mem | mem
  · exact clean c mem
  · exact cleanRest c mem

/-- A line is the first token of a text that starts with it, unless it ends
in the first half of a line end of two characters. -/
theorem lineTokens_append {line rest : List Char} (h : IsLine line)
    (apart : rest.head? ≠ some '\n') : lineTokens (line ++ rest) = line :: lineTokens rest := by
  obtain ⟨body, clean, ending, ends, rfl⟩ := h
  induction body with
  | nil =>
    simp only [lineEnds, List.mem_cons, List.not_mem_nil, or_false] at ends
    rcases ends with rfl | rfl | rfl
    · simp [lineTokens]
    · simp [lineTokens]
    · cases rest with
      | nil => rfl
      | cons c rest =>
        have other : c ≠ '\n' := by simpa using apart
        simp [lineTokens, other]
  | cons c body ih =>
    obtain ⟨feed, back⟩ := clean c List.mem_cons_self
    have later := ih fun d mem => clean d (List.mem_cons_of_mem _ mem)
    rw [List.cons_append, List.cons_append, lineTokens, later]
    · simp [feed, back]
    · simp [back]

/-- A token is a line, or the rest of the text that has no line end. -/
theorem isLine_or_of_mem_lineTokens {cs token : List Char} (mem : token ∈ lineTokens cs) :
    IsLine token ∨ IsBody token := by
  fun_induction lineTokens cs generalizing token with
  | case1 => cases mem
  | case2 rest ih =>
    rcases List.mem_cons.1 mem with rfl | mem
    · exact .inl ⟨[], by simp [IsBody], _, by simp [lineEnds], rfl⟩
    · exact ih mem
  | case3 c rest _ ends ih =>
    rcases List.mem_cons.1 mem with rfl | mem
    · refine .inl ⟨[], by simp [IsBody], [c], ?_, rfl⟩
      rcases ends with rfl | rfl <;> simp [lineEnds]
    · exact ih mem
  | case4 c rest _ within none ih =>
    obtain rfl := List.mem_singleton.1 mem
    right
    simpa [IsBody] using within
  | case5 c rest _ within token' tokens found ih =>
    rw [found] at ih
    rcases List.mem_cons.1 mem with rfl | mem
    · have clean : IsBody [c] := by simpa [IsBody] using within
      rcases ih List.mem_cons_self with line | body
      · exact .inl (line.append clean)
      · right
        intro d inside
        rcases List.mem_cons.1 inside with rfl | inside
        · exact clean _ List.mem_cons_self
        · exact body d inside
    · exact ih (List.mem_cons_of_mem _ mem)

/-- A token with a line end, its own or a new one. -/
def completed (token : List Char) : List Char := if endsLine token then token else token ++ ['\n']

/-- With a line end every token is a line. -/
theorem isLine_completed {cs token : List Char} (mem : token ∈ lineTokens cs) :
    IsLine (completed token) := by
  unfold completed
  rcases isLine_or_of_mem_lineTokens mem with line | body
  · obtain ⟨body, -, ending, ends, rfl⟩ := id line
    have closed : endsLine (body ++ ending) = true := by
      simp only [lineEnds, List.mem_cons, List.not_mem_nil, or_false] at ends
      rcases ends with rfl | rfl | rfl <;> simp [endsLine]
    rwa [if_pos closed]
  · have opened : endsLine token = false := by
      unfold endsLine
      split
      · rename_i c last
        have clean := body c (List.mem_of_getLast? last)
        simp [clean]
      · rfl
    rw [if_neg (by simp [opened])]
    exact ⟨token, body, ['\n'], by simp [lineEnds], rfl⟩

end Text

-- ====================================================== reading back

namespace Diff

/-- The code that ends a colour. -/
def resetCode : List Char := "\x1b[0m".toList

/-- The codes that start a colour, red and green. -/
def colourCodes : List (List Char) := ["\x1b[31m".toList, "\x1b[32m".toList]

/-- A line without a code that it starts with. -/
def withoutCode (line code : List Char) : List Char :=
  if code.isPrefixOf line then line.drop code.length else line

/-- A line without the colour codes that it starts with. -/
def uncoloured (line : List Char) : List Char :=
  (resetCode :: colourCodes).foldl withoutCode line

/-- The lines of a printed difference. -/
def visibleLines (cs : List Char) : List (List Char) :=
  ((Text.lineTokens cs).map uncoloured).filter (· ≠ [])

/-- The line between two groups. -/
def separator : List Char := "...\n".toList

/-- A line of one of the files, with what its sign says. -/
def readLine? : List Char → Option (Line (List Char))
  | ' ' :: line => some (.keep, line)
  | '-' :: line => some (.drop, line)
  | '+' :: line => some (.add, line)
  | _ => none

/-- The groups of a printed difference. -/
def readGroups? (cs : List Char) : Option (List (List (Line (List Char)))) :=
  ((visibleLines cs).splitOn separator).mapM (·.mapM readLine?)

end Diff

-- ========================================================== printing

namespace Diff

/-- The sign that shows what happens to a line. -/
def sign : Action → Char
  | .keep => ' '
  | .drop => '-'
  | .add => '+'

/-- A line with its sign and a line end. -/
def shown (line : Line (List Char)) : List Char := sign line.1 :: Text.completed line.2

/-- A line in the colour of its sign. -/
def painted : List Char → List Char
  | '-' :: rest => "\x1b[31m".toList ++ '-' :: rest ++ "\x1b[0m".toList
  | '+' :: rest => "\x1b[32m".toList ++ '+' :: rest ++ "\x1b[0m".toList
  | line => line

/-- A line that is shown: it ends, and starts with a sign or as the separator
does. -/
def IsShown (line : List Char) : Prop :=
  Text.IsLine line ∧ ∃ c ∈ [' ', '-', '+', '.'], ∃ rest, line = c :: rest

/-- A shown line stands between a code that starts a colour, or none, and one
that ends it, or none. -/
theorem exists_codes (line : List Char) :
    ∃ code ∈ [] :: colourCodes, ∃ after ∈ [[], resetCode],
      painted line = code ++ line ++ after := by
  unfold painted
  split
  · exact ⟨"\x1b[31m".toList, by decide, resetCode, by simp, rfl⟩
  · exact ⟨"\x1b[32m".toList, by decide, resetCode, by simp, rfl⟩
  · exact ⟨[], by simp, [], by simp, by simp⟩

theorem isBody_codes {before code : List Char} (first : before ∈ [[], resetCode])
    (second : code ∈ [] :: colourCodes) : Text.IsBody (before ++ code) := by
  have firsts : ∀ code ∈ [[], resetCode], Text.IsBody code := by decide
  have seconds : ∀ code ∈ [] :: colourCodes, Text.IsBody code := by decide
  intro c mem
  rcases List.mem_append.1 mem with mem | mem
  · exact firsts before first c mem
  · exact seconds code second c mem

/-- The codes before a sign are dropped, and nothing after it. -/
theorem uncoloured_codes {before code line : List Char} (first : before ∈ [[], resetCode])
    (second : code ∈ [] :: colourCodes)
    (starts : ∃ c ∈ [' ', '-', '+', '.'], ∃ rest, line = c :: rest) :
    uncoloured (before ++ code ++ line) = line := by
  obtain ⟨c, sign, rest, rfl⟩ := starts
  simp only [colourCodes, List.mem_cons, List.not_mem_nil, or_false] at first second sign
  rcases first with rfl | rfl <;> rcases second with rfl | rfl | rfl <;>
    rcases sign with rfl | rfl | rfl | rfl <;> rfl

/-- A painted line does not start with a line feed. -/
theorem exists_head_painted {line : List Char} (shown : IsShown line) :
    ∃ c rest, painted line = c :: rest ∧ c ≠ '\n' := by
  obtain ⟨-, c, sign, tail, rfl⟩ := shown
  simp only [List.mem_cons, List.not_mem_nil, or_false] at sign
  rcases sign with rfl | rfl | rfl | rfl
  · exact ⟨' ', tail, rfl, by decide⟩
  · exact ⟨'\x1b', _, rfl, by decide⟩
  · exact ⟨'\x1b', _, rfl, by decide⟩
  · exact ⟨'.', tail, rfl, by decide⟩

/-- What follows a painted line does not start with a line feed either. -/
theorem head?_painted {after : List Char} (last : after ∈ [[], resetCode])
    {lines : List (List Char)} (shown : ∀ line ∈ lines, IsShown line) :
    (after ++ lines.flatMap painted).head? ≠ some '\n' := by
  simp only [List.mem_cons, List.not_mem_nil, or_false] at last
  rcases last with rfl | rfl
  · cases lines with
    | nil => simp
    | cons line rest =>
      obtain ⟨c, tail, paint, other⟩ := exists_head_painted (shown line List.mem_cons_self)
      simpa [paint] using other
  · have starts : resetCode = '\x1b' :: resetCode.tail := rfl
    rw [starts]
    simp

/-- The shown lines are read as they are, after whatever code. -/
theorem visibleLines_painted {lines : List (List Char)} (shown : ∀ line ∈ lines, IsShown line)
    {before : List Char} (first : before ∈ [[], resetCode]) :
    visibleLines (before ++ lines.flatMap painted) = lines := by
  induction lines generalizing before with
  | nil =>
    simp only [List.mem_cons, List.not_mem_nil, or_false] at first
    rcases first with rfl | rfl <;> rfl
  | cons line rest ih =>
    obtain ⟨code, coloured, after, last, paint⟩ := exists_codes line
    obtain ⟨isLine, starts⟩ := shown line List.mem_cons_self
    have later : ∀ line ∈ rest, IsShown line := fun l mem => shown l (List.mem_cons_of_mem _ mem)
    have whole : before ++ (line :: rest).flatMap painted
        = (before ++ code ++ line) ++ (after ++ rest.flatMap painted) := by
      simp [paint]
    have read : uncoloured (before ++ code ++ line) = line := uncoloured_codes first coloured starts
    have some : line ≠ [] := by
      obtain ⟨c, -, tail, rfl⟩ := starts
      exact List.cons_ne_nil _ _
    have isLine := isLine.append (isBody_codes first coloured)
    rw [whole, visibleLines, Text.lineTokens_append isLine (head?_painted last later),
      List.map_cons, read, List.filter_cons_of_pos (by simpa using some)]
    exact congrArg _ (ih later last)

-- =========================================================== groups

theorem isShown_separator : IsShown separator :=
  ⟨⟨"...".toList, by decide, ['\n'], by decide, rfl⟩, '.', by decide, "..\n".toList, rfl⟩

theorem isShown_shown {line : Line (List Char)} (isLine : Text.IsLine (Text.completed line.2)) :
    IsShown (shown line) := by
  obtain ⟨action, token⟩ := line
  have clean : Text.IsBody [sign action] := by cases action <;> decide
  exact ⟨isLine.append clean, sign action, by cases action <;> decide, _, rfl⟩

theorem shown_ne_separator (line : Line (List Char)) : shown line ≠ separator := by
  obtain ⟨action, token⟩ := line
  have other : sign action ≠ '.' := by cases action <;> decide
  exact fun same => other (List.cons.inj same).1

theorem readLine?_shown (line : Line (List Char)) :
    readLine? (shown line) = some (line.1, Text.completed line.2) := by
  obtain ⟨action, token⟩ := line
  cases action <;> rfl

theorem forall_mem_intercalate {P : List Char → Prop} (between : P separator)
    {groups : List (List (List Char))} (each : ∀ group ∈ groups, ∀ line ∈ group, P line) :
    ∀ line ∈ [separator].intercalate groups, P line := by
  induction groups with
  | nil => exact fun _ mem => nomatch mem
  | cons group rest ih =>
    have later := ih fun other mem => each other (List.mem_cons_of_mem _ mem)
    cases rest with
    | nil => simpa using each group List.mem_cons_self
    | cons other others =>
      intro line mem
      rw [List.intercalate_cons_cons, List.append_assoc] at mem
      rcases List.mem_append.1 mem with mem | mem
      · exact each group List.mem_cons_self line mem
      · rcases List.mem_cons.1 mem with rfl | mem
        · exact between
        · exact later line mem

/-- Printing groups one after the other prints all their lines. -/
theorem flatMap_intercalate (groups : List (List (List Char))) :
    ([separator].intercalate groups).flatMap painted
      = separator.intercalate (groups.map (·.flatMap painted)) := by
  induction groups with
  | nil => rfl
  | cons group rest ih =>
    cases rest with
    | nil => simp
    | cons other others =>
      have plain : painted separator = separator := rfl
      rw [List.intercalate_cons_cons, List.flatMap_append, List.flatMap_append, ih,
        List.flatMap_singleton, plain]
      simp only [List.map_cons, List.intercalate_cons_cons]

/-- Items that are read back one by one are read back together. -/
theorem mapM_map_eq_some {α β γ : Type} {print : α → β} {read : β → Option γ} {value : α → γ}
    (each : ∀ a, read (print a) = some (value a)) (items : List α) :
    (items.map print).mapM read = some (items.map value) := by
  have whole : read ∘ print = fun a => pure (value a) := funext each
  rw [List.mapM_map, whole, List.mapM_pure]
  rfl

/-- Groups that are printed with separators between them are read as they
are, but for the line ends that were added. -/
theorem readGroups?_printed {groups : List (List (Line (List Char)))} (some : groups ≠ [])
    (lines : ∀ group ∈ groups, ∀ line ∈ group, Text.IsLine (Text.completed line.2)) :
    readGroups? (separator.intercalate
        (groups.map fun group => (group.map shown).flatMap painted))
      = Option.some (groups.map (·.map fun line => (line.1, Text.completed line.2))) := by
  let shownGroups := groups.map (·.map shown)
  have visible : ∀ line ∈ [separator].intercalate shownGroups, IsShown line := by
    refine forall_mem_intercalate isShown_separator fun group mem line inside => ?_
    obtain ⟨group, listed, rfl⟩ := List.mem_map.1 mem
    obtain ⟨line, member, rfl⟩ := List.mem_map.1 inside
    exact isShown_shown (lines group listed line member)
  have apart : ∀ group ∈ shownGroups, separator ∉ group := by
    intro group mem inside
    obtain ⟨group, -, rfl⟩ := List.mem_map.1 mem
    obtain ⟨line, -, same⟩ := List.mem_map.1 inside
    exact shown_ne_separator line same
  have fresh : ([] : List Char) ∈ [[], resetCode] := List.mem_cons_self
  have read := visibleLines_painted visible fresh
  rw [List.nil_append, flatMap_intercalate, List.map_map] at read
  unfold readGroups?
  rw [show (fun group : List (Line (List Char)) => (group.map shown).flatMap painted)
      = (·.flatMap painted) ∘ (·.map shown) from rfl, read,
    List.splitOn_intercalate separator apart (by simpa [shownGroups] using some)]
  exact mapM_map_eq_some (mapM_map_eq_some readLine?_shown) groups

end Diff

namespace FileChange

open Diff

theorem toList_signed (c : Char) (token : List Char) :
    (signed (String.singleton c) token).toList = c :: Text.completed token := by
  unfold signed Text.completed
  split <;> simp

/-- Each line of a segment is printed in the colour of its sign. -/
theorem toList_segmentText (segment : Segment (List Char)) :
    (segmentText segment).toList = (segment.lines.map shown).flatMap painted := by
  have kept (token : List Char) : (keptLine token).toList = painted (shown (.keep, token)) :=
    toList_signed ' ' token
  have dropped (token : List Char) :
      (droppedLine token).toList = painted (shown (.drop, token)) := by
    have signed := toList_signed '-' token
    simp only [droppedLine, String.toList_append]
    rw [show "-" = String.singleton '-' from rfl, signed]
    rfl
  have added (token : List Char) : (addedLine token).toList = painted (shown (.add, token)) := by
    have signed := toList_signed '+' token
    simp only [addedLine, String.toList_append]
    rw [show "+" = String.singleton '+' from rfl, signed]
    rfl
  cases segment with
  | same lines =>
    simp [segmentText, Segment.lines, marked, String.toList_join, List.flatMap_map, kept]
  | change gone new =>
    simp [segmentText, Segment.lines, marked, String.toList_join, List.flatMap_map, dropped, added]

theorem toList_groupText (group : List (Segment (List Char))) :
    (groupText group).toList = ((group.flatMap Segment.lines).map shown).flatMap painted := by
  simp [groupText, String.toList_join, List.flatMap_map, toList_segmentText, List.map_flatMap,
    List.flatMap_assoc]

/-- A difference that is printed is a patch. Read back it is in groups of
lines that lie one after the other in both files, which are the same before,
between and after them; and some line goes or comes. -/
theorem diff_fits {change : FileChange} {existing : String}
    (held : change.existing = some existing) (differs : existing ≠ change.wanted) :
    ∃ body groups, change.diff? = some (change.header ++ body)
      ∧ readGroups? body.toList
          = some (groups.map (·.map fun line => (line.1, Text.completed line.2)))
      ∧ Fits groups (Text.lineTokens existing.toList) (Text.lineTokens change.wanted.toList)
      ∧ ∃ group ∈ groups, ∃ line ∈ group, line.1 ≠ .keep := by
  let segments := Diff.groups context (Text.lineTokens existing.toList)
    (Text.lineTokens change.wanted.toList)
  let groups := segments.map (·.flatMap Segment.lines)
  have fits : Fits groups (Text.lineTokens existing.toList)
      (Text.lineTokens change.wanted.toList) := groups_fit context _ _
  have apart : Text.lineTokens existing.toList ≠ Text.lineTokens change.wanted.toList := by
    intro same
    have joined := congrArg List.flatten same
    rw [Text.flatten_lineTokens, Text.flatten_lineTokens] at joined
    exact differs (String.toList_inj.1 joined)
  have changes := fits.exists_change apart
  have printed : ("...\n".intercalate (segments.map groupText)).toList
      = separator.intercalate (groups.map fun group => (group.map shown).flatMap painted) := by
    rw [String.toList_intercalate, List.map_map, List.map_map]
    exact congrArg _ (List.map_congr_left fun group _ => toList_groupText group)
  have lines : ∀ group ∈ groups, ∀ line ∈ group, Text.IsLine (Text.completed line.2) := by
    intro group mem line inside
    rcases fits.mem_or_mem mem inside with old | new
    · exact Text.isLine_completed old
    · exact Text.isLine_completed new
  have some : groups ≠ [] := by
    obtain ⟨group, mem, -⟩ := changes
    exact List.ne_nil_of_mem mem
  refine ⟨"...\n".intercalate (segments.map groupText), groups, ?_, ?_, fits, changes⟩
  · simp only [diff?, held, if_neg differs]
    rfl
  · rw [printed]
    exact readGroups?_printed some lines

/-- A file with a line end inside, a colour code of its own and a last line
that does not end, of which one line is to be another one. -/
def repainted : FileChange where
  path := "types.ts"
  wanted := "a\rb\n\x1b[31md"
  existing := some "a\rc\n\x1b[31md"

theorem diff_fits_repainted :
    ∃ body groups, repainted.diff? = some (repainted.header ++ body)
      ∧ readGroups? body.toList
          = some (groups.map (·.map fun line => (line.1, Text.completed line.2)))
      ∧ Fits groups (Text.lineTokens "a\rc\n\x1b[31md".toList)
          (Text.lineTokens "a\rb\n\x1b[31md".toList)
      ∧ ∃ group ∈ groups, ∃ line ∈ group, line.1 ≠ .keep :=
  diff_fits rfl (by decide)

end FileChange

end OpenApiTypes
