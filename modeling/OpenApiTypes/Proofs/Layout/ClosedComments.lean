/-
Comments that close once. Everything in a comment comes from a document, and
a closing sequence in it would end the comment early and turn the rest of it
into code. Closing sequences are counted line by line: a line end is part of
none, so lines that close nothing close nothing together
(`occurrences_closing_unlines`). Breaking the sequences of a text leaves none
and makes none (`occurrences_breakClosings`), neither does cutting off its
end, and what is put before a text, a star and a blank or the name of a tag
and a blank, ends in a character that no closing sequence holds. Only the
last line is left with one.
-/
import OpenApiTypes.Compilation
import OpenApiTypes.Proofs.Layout.Comments

namespace OpenApiTypes.Layout

/-- What closes a comment. -/
def closing : List Char := ['*', '/']

-- ================================================ counting in parts

section Occurrences

variable {pattern : List Char} {c : Char}

/-- A pattern does not reach over a character that it does not hold. -/
theorem prefix_append_cons_iff (outside : c ∉ pattern) (before after : List Char) :
    pattern <+: before ++ c :: after ↔ pattern <+: before := by
  constructor
  · intro start
    rcases List.prefix_or_prefix_of_prefix start (List.prefix_append before (c :: after))
      with inside | ⟨excess, rfl⟩
    · exact inside
    · have next : excess <+: c :: after := (List.prefix_append_right_inj before).1 start
      cases excess with
      | nil => simp
      | cons first excess =>
          obtain ⟨rfl, -⟩ := List.cons_prefix_cons.1 next
          exact absurd (by simp) outside
  · exact fun inside => inside.trans (List.prefix_append _ _)

/-- A character that a pattern does not hold cuts a text into two parts in
which the pattern is counted apart. -/
theorem occurrences_append_cons (outside : c ∉ pattern) (nonempty : pattern ≠ [])
    (before after : List Char) :
    occurrences pattern (before ++ c :: after)
      = occurrences pattern before + occurrences pattern after := by
  induction before with
  | nil =>
      have apart : ¬ pattern.isPrefixOf (c :: after) = true := by
        rw [List.isPrefixOf_iff_prefix]
        have cut := prefix_append_cons_iff outside [] after
        rw [List.nil_append, List.prefix_nil] at cut
        exact fun start => nonempty (cut.1 start)
      simp only [List.nil_append, occurrences, if_neg apart]
  | cons first before ih =>
      have same : pattern.isPrefixOf (first :: (before ++ c :: after))
          = pattern.isPrefixOf (first :: before) := by
        rw [Bool.eq_iff_iff, List.isPrefixOf_iff_prefix, List.isPrefixOf_iff_prefix]
        exact prefix_append_cons_iff outside (first :: before) after
      rw [List.cons_append, occurrences, occurrences, same, ih, Nat.add_assoc]

/-- The start of a text holds a pattern no more often than the text. -/
theorem occurrences_le_of_prefix {start text : List Char} (starts : start <+: text) :
    occurrences pattern start ≤ occurrences pattern text := by
  induction start generalizing text with
  | nil => exact Nat.zero_le _
  | cons first start ih =>
      obtain ⟨rest, rfl⟩ := starts
      rw [List.cons_append, occurrences, occurrences]
      have later := ih (List.prefix_append start rest)
      have here : pattern <+: first :: start → pattern <+: first :: (start ++ rest) :=
        fun inside => inside.trans (List.prefix_append (first :: start) rest)
      simp only [List.isPrefixOf_iff_prefix]
      split
      · next inside =>
        rw [if_pos (here inside)]
        omega
      · omega

theorem occurrences_closing_append_cons {before after : List Char} {c : Char} (star : c ≠ '*')
    (slash : c ≠ '/') : occurrences closing (before ++ c :: after)
      = occurrences closing before + occurrences closing after := by
  have outside : c ∉ closing := by simp [closing, star, slash]
  exact occurrences_append_cons outside (by decide) before after

/-- Lines that close nothing close nothing together. -/
theorem occurrences_closing_unlines {lines : List (List Char)}
    (none : ∀ line ∈ lines, occurrences closing line = 0) (rest : List Char) :
    occurrences closing (unlines lines ++ rest) = occurrences closing rest := by
  induction lines with
  | nil => rfl
  | cons line lines ih =>
      rw [unlines_cons, List.append_assoc, List.cons_append,
        occurrences_closing_append_cons (by decide) (by decide), none line List.mem_cons_self,
        ih fun inner mem => none inner (List.mem_cons_of_mem _ mem), Nat.zero_add]

/-- Without a star nothing is closed. -/
theorem occurrences_closing_of_notMem {text : List Char} (starless : '*' ∉ text) :
    occurrences closing text = 0 := by
  have whole := occurrences_append_of_head_notMem starless ['/'] []
  rw [List.append_nil] at whole
  exact whole

end Occurrences

-- ================================================== lines of a block

theorem head?_breakClosings (cs : List Char) : (DocBlock.breakClosings cs).head? = cs.head? := by
  fun_cases DocBlock.breakClosings cs with
  | case1 => rfl
  | case2 rest => rfl
  | case3 c rest other => rfl

/-- Breaking the closing sequences of a text leaves none. -/
theorem occurrences_breakClosings (cs : List Char) :
    occurrences closing (DocBlock.breakClosings cs) = 0 := by
  fun_induction DocBlock.breakClosings cs with
  | case1 => rfl
  | case2 rest ih =>
      simp only [occurrences, ih]
      simp [closing, List.isPrefixOf]
  | case3 c rest other ih =>
      -- What follows a star starts as it did before, so not with a slash.
      have apart : ¬ closing <+: c :: DocBlock.breakClosings rest := by
        intro start
        obtain ⟨rfl, next⟩ := List.cons_prefix_cons.1 start
        have head := head?_breakClosings rest
        cases rest with
        | nil => simp [DocBlock.breakClosings] at next
        | cons second rest =>
            obtain ⟨excess, joined⟩ := next
            rw [← joined] at head
            obtain rfl : '/' = second := by simpa using head
            exact other rest rfl rfl
      rw [← List.isPrefixOf_iff_prefix] at apart
      rw [occurrences, if_neg apart, ih]

/-- A line of a description or a payload closes nothing. -/
theorem occurrences_commentLine {text : String} {line : List Char}
    (mem : line ∈ DocBlock.commentLines text) : occurrences closing line = 0 := by
  obtain ⟨raw, -, rfl⟩ := List.mem_map.1 mem
  exact occurrences_breakClosings raw

/-- A line of a tag closes nothing, not where a payload follows the name
either. -/
theorem occurrences_tagLine {tag : DocTag} (starless : '*' ∉ tag.name.toList)
    {line : List Char} (mem : line ∈ DocBlock.tagLines tag) : occurrences closing line = 0 := by
  have name : occurrences closing ('@' :: tag.name.toList) = 0 :=
    occurrences_closing_of_notMem (by simp [starless])
  unfold DocBlock.tagLines at mem
  split at mem
  · obtain rfl := List.mem_singleton.1 mem
    exact name
  · split at mem
    · obtain rfl := List.mem_singleton.1 mem
      rw [occurrences_closing_append_cons (by decide) (by decide), name]
      rfl
    · next first others lines =>
      have each : ∀ line ∈ first :: others, occurrences closing line = 0 :=
        fun line inner => occurrences_commentLine (lines ▸ inner)
      rcases List.mem_cons.1 mem with rfl | mem
      · rw [occurrences_closing_append_cons (by decide) (by decide), name,
          each first List.mem_cons_self]
      · exact each line (List.mem_cons_of_mem _ mem)

/-- A line of a block closes nothing. -/
theorem occurrences_bodyLine {block : DocBlock}
    (starless : ∀ tag ∈ block.tags, '*' ∉ tag.name.toList) {line : List Char}
    (mem : line ∈ block.bodyLines) : occurrences closing line = 0 := by
  rcases List.mem_append.1 mem with mem | mem
  · cases given : block.description with
    | none => simp [given] at mem
    | some description => exact occurrences_commentLine (by simpa [given] using mem)
  · obtain ⟨tag, listed, inner⟩ := List.mem_flatMap.1 mem
    exact occurrences_tagLine (starless tag listed) inner

/-- Setting a line after a star does not close the comment: a blank stands
between the star and the line. -/
theorem occurrences_starLine {indent line : List Char} (starless : '*' ∉ indent)
    (none : occurrences closing line = 0) : occurrences closing (starLine indent line) = 0 := by
  have trimmed : occurrences closing (Text.trimEnd line) = 0 := by
    have fewer : occurrences closing (Text.trimEnd line) ≤ occurrences closing line :=
      occurrences_le_of_prefix (List.rdropWhile_prefix Text.isBlank line)
    omega
  unfold starLine
  rw [occurrences_closing_append_cons (by decide) (by decide),
    occurrences_closing_of_notMem starless, Nat.zero_add]
  split
  · rfl
  · have before : ('*' :: ' ' :: Text.trimEnd line) = ['*'] ++ ' ' :: Text.trimEnd line := rfl
    rw [before, occurrences_closing_append_cons (by decide) (by decide), trimmed]
    rfl

/-- A line after a star has no blank at its end. -/
theorem isBlank_getLast_starLine {indent line : List Char} {c : Char}
    (last : c ∈ (starLine indent line).getLast?) : Text.isBlank c = false := by
  unfold starLine at last
  split at last
  · obtain rfl : '*' = c := by simpa using last
    decide
  · next filled =>
    have ending : (Text.trimEnd line).getLast filled = c := by
      simpa [List.getLast?_append, List.getLast?_cons, List.getLast?_eq_some_getLast filled]
        using last
    have visible := List.rdropWhile_last_not Text.isBlank line filled
    rw [← ending]
    exact Bool.eq_false_iff.2 visible

-- ========================================================= comments

/-- A text of which every line ends is cut at its line ends into its lines
and nothing. -/
theorem splitOn_unlines {lines : List (List Char)} (unbroken : ∀ line ∈ lines, '\n' ∉ line) :
    (unlines lines).splitOn '\n' = lines ++ [[]] := by
  induction lines with
  | nil => rfl
  | cons line lines ih =>
      rw [unlines_cons, List.splitOn_append_cons_self_of_not_mem (unbroken line List.mem_cons_self),
        ih fun inner mem => unbroken inner (List.mem_cons_of_mem _ mem), List.cons_append]

/-- A text is one comment after an indent. It opens with its first line and
closes with its last, nowhere else, and every line between starts with a star
and has no blanks at its end. -/
structure IsComment (indent text : String) : Prop where
  opens : (indent ++ "/**\n").toList <+: text.toList
  closes : (indent ++ " */\n").toList <:+ text.toList
  once : occurrences closing text.toList = 1
  between : ∃ inner, text.toList.splitOn '\n'
      = (indent ++ "/**").toList :: inner ++ [(indent ++ " */").toList, []]
    ∧ ∀ line ∈ inner, (indent ++ " *").toList <+: line
      ∧ ∀ c ∈ line.getLast?, Text.isBlank c = false

/-- The text of a block that says something, by its lines. -/
theorem toList_render {block : DocBlock} (filled : block.isEmpty = false) (indent : String) :
    (block.render indent).toList
      = unlines ((indent ++ "/**").toList :: block.bodyLines.map (starLine indent.toList)
        ++ [(indent ++ " */").toList]) := by
  rw [DocBlock.render, String.toList_ofList, chars_eq_unlines, commentLines, filled,
    String.toList_append, String.toList_append]
  rfl

section Comment

variable {block : DocBlock} {indent : String} (plain : IsPlain block)
  (starless : ∀ tag ∈ block.tags, '*' ∉ tag.name.toList)
  (blank : ∀ c ∈ indent.toList, Text.isBlank c = true) (inline : '\n' ∉ indent.toList)

include plain starless blank inline

/-- A block that says something is set as one comment. -/
theorem isComment_render (filled : block.isEmpty = false) :
    IsComment indent (block.render indent) := by
  let inner := block.bodyLines.map (starLine indent.toList)
  have noStar : '*' ∉ indent.toList := fun mem => absurd (blank _ mem) (by decide)
  have text := toList_render filled indent
  have closesNone : ∀ line ∈ (indent ++ "/**").toList :: inner, occurrences closing line = 0 := by
    intro line mem
    rcases List.mem_cons.1 mem with rfl | mem
    · rw [String.toList_append, closing, occurrences_append_of_head_notMem noStar]
      decide
    · obtain ⟨raw, listed, rfl⟩ := List.mem_map.1 mem
      exact occurrences_starLine noStar (occurrences_bodyLine starless listed)
  have unbroken : ∀ line ∈ (indent ++ "/**").toList :: inner ++ [(indent ++ " */").toList],
      '\n' ∉ line := by
    intro line mem
    rcases List.mem_append.1 mem with mem | mem
    · rcases List.mem_cons.1 mem with rfl | mem
      · simp [inline]
      · obtain ⟨raw, listed, rfl⟩ := List.mem_map.1 mem
        exact newline_notMem_starLine inline (newline_notMem_bodyLine plain listed)
    · obtain rfl := List.mem_singleton.1 mem
      simp [inline]
  refine ⟨?_, ?_, ?_, inner, ?_, ?_⟩
  · rw [text, List.cons_append, unlines_cons]
    simp [String.toList_append]
  · have last : unlines [(indent ++ " */").toList] = (indent ++ " */\n").toList := by
      simp [unlines]
    rw [text, unlines_append, last]
    exact List.suffix_append _ _
  · rw [text, unlines_append, occurrences_closing_unlines closesNone, String.toList_append,
      unlines_cons, List.append_assoc, closing, occurrences_append_of_head_notMem noStar]
    decide
  · rw [text, splitOn_unlines unbroken]
    simp [inner]
  · intro line mem
    obtain ⟨raw, listed, rfl⟩ := List.mem_map.1 mem
    refine ⟨?_, fun c last => isBlank_getLast_starLine last⟩
    simp [starLine, String.toList_append]

end Comment

-- ============================================= schemas and failures

/-- Neither a schema nor what is said of it elsewhere gives a comment. -/
structure SaysNothing (own : Keywords) (description : Option String) : Prop where
  description : ∀ text ∈ description, Text.isBlankText text = true
  ownDescription : ∀ text ∈ own.description, Text.isBlankText text = true
  current : own.deprecated ≠ some true
  noSample : own.sample = none

/-- Nothing is left of a text without its blanks exactly when it is blank. -/
theorem trim_eq_empty_iff {text : String} : Text.trim text = "" ↔ Text.isBlankText text = true := by
  rw [Text.trim, ← String.toList_eq_nil_iff, String.toList_ofList, Text.isBlankText,
    List.all_eq_true]
  constructor
  · intro none
    have blank : ∀ c ∈ Text.trimStart text.toList, Text.isBlank c = true :=
      List.rdropWhile_eq_nil_iff.1 none
    cases started : Text.trimStart text.toList with
    | nil => exact List.dropWhile_eq_nil_iff.1 started
    | cons first rest =>
        have visible : Text.isBlank first = false := by
          have head := List.head?_dropWhile_not Text.isBlank text.toList
          rw [Text.trimStart] at started
          rw [started] at head
          exact head
        rw [started] at blank
        rw [blank first List.mem_cons_self] at visible
        cases visible
  · intro blank
    have start : Text.trimStart text.toList = [] := List.dropWhile_eq_nil_iff.2 blank
    rw [start]
    rfl

/-- A description gives no comment exactly when it is missing or blank. -/
theorem description_ofDescription_eq_none_iff {description : Option String} :
    (DocBlock.ofDescription description).description = none
      ↔ ∀ text ∈ description, Text.isBlankText text = true := by
  rw [DocBlock.ofDescription, Option.filter_eq_none_iff]
  constructor
  · intro none text given
    subst given
    exact trim_eq_empty_iff.1 (by simpa using none)
  · intro blank text trimmed
    obtain ⟨raw, given, rfl⟩ := Option.map_eq_some_iff.1 trimmed
    simpa using trim_eq_empty_iff.2 (blank raw given)

theorem description_tag (block : DocBlock) (name : String) (active : Bool)
    (payload : Option String) :
    (block.tag name active payload).description = block.description := by
  unfold DocBlock.tag
  split
  · rfl
  · rfl

theorem tags_tag_eq_nil_iff {block : DocBlock} {name : String} {active : Bool}
    {payload : Option String} :
    (block.tag name active payload).tags = [] ↔ block.tags = [] ∧ active = false := by
  unfold DocBlock.tag
  cases active with
  | true => simp
  | false => simp

/-- The comment of a schema is empty exactly when there is nothing to say. -/
theorem isEmpty_ofSchema_iff {own : Keywords} {description : Option String} :
    (DocBlock.ofSchema own description).isEmpty = true ↔ SaysNothing own description := by
  have chosen : (∀ text ∈ (description.filter (! Text.isBlankText ·)).or own.description,
        Text.isBlankText text = true)
      ↔ (∀ text ∈ description, Text.isBlankText text = true)
        ∧ ∀ text ∈ own.description, Text.isBlankText text = true := by
    cases description with
    | none => simp
    | some given =>
        cases blank : Text.isBlankText given with
        | true => simp [blank, Option.filter]
        | false => simp [blank, Option.filter]
  have current : own.deprecated.getD false = false ↔ own.deprecated ≠ some true := by
    rcases own.deprecated with _ | _ | _ <;> simp
  rw [DocBlock.isEmpty, Bool.and_eq_true, Option.isNone_iff_eq_none, List.isEmpty_iff,
    DocBlock.ofSchema, description_tag, description_tag, description_ofDescription_eq_none_iff,
    chosen, tags_tag_eq_nil_iff, tags_tag_eq_nil_iff, current, Option.isSome_eq_false_iff,
    Option.isNone_iff_eq_none]
  constructor
  · rintro ⟨⟨given, own⟩, ⟨-, current⟩, noSample⟩
    exact ⟨given, own, current, noSample⟩
  · rintro ⟨given, own, current, noSample⟩
    exact ⟨⟨given, own⟩, ⟨rfl, current⟩, noSample⟩

theorem starless_ofSchema (own : Keywords) (description : Option String) :
    ∀ tag ∈ (DocBlock.ofSchema own description).tags, '*' ∉ tag.name.toList :=
  forall_mem_tags_ofSchema (P := fun name => '*' ∉ name.toList) (by decide) (by decide)
    own description

/-- The comment on a failure always says something. -/
theorem isEmpty_fallback (options : Options) (definition : Definition) (cause : LoweringError) :
    (Declaration.fallback options definition cause).doc.isEmpty = false := by
  have visible : Text.isBlankText ("Type generation failed: " ++ cause.message) = false := by
    rw [Text.isBlankText, String.toList_append, List.all_append]
    have start : "Type generation failed: ".toList.all Text.isBlank = false := by decide
    rw [start, Bool.false_and]
  have given : (Declaration.fallback options definition cause).doc.description ≠ none := by
    rw [Declaration.fallback, ne_eq, description_ofDescription_eq_none_iff]
    intro blank
    rw [blank _ rfl] at visible
    cases visible
  rw [DocBlock.isEmpty, Option.isNone_eq_false_iff.2 (Option.isSome_iff_ne_none.2 given),
    Bool.false_and]

/-- A comment cannot be closed early, whatever a document says. After an
indent of blanks that ends no line, the comment of a schema has no text
exactly when neither the schema nor the description from elsewhere says
anything, and otherwise its text is one comment. So is the text of the
comment on a failure, whatever its cause. -/
theorem comments_close_once {indent : String}
    (blank : ∀ c ∈ indent.toList, Text.isBlank c = true) (inline : '\n' ∉ indent.toList) :
    (∀ (schema : Schema) (description : Option String),
      ((DocBlock.ofSchema schema.own description).render indent = ""
          ↔ SaysNothing schema.own description)
      ∧ (¬ SaysNothing schema.own description →
          IsComment indent ((DocBlock.ofSchema schema.own description).render indent)))
    ∧ ∀ (options : Options) (definition : Definition) (cause : LoweringError),
      IsComment indent ((Declaration.fallback options definition cause).doc.render indent) := by
  refine ⟨fun schema description => ?_, fun options definition cause => ?_⟩
  · have comment (speaks : ¬ SaysNothing schema.own description) :
        IsComment indent ((DocBlock.ofSchema schema.own description).render indent) := by
      rw [← isEmpty_ofSchema_iff, Bool.not_eq_true] at speaks
      exact isComment_render (isPlain_ofSchema _ _) (starless_ofSchema _ _) blank inline speaks
    refine ⟨⟨fun empty => ?_, fun nothing => ?_⟩, comment⟩
    · by_contra speaks
      have once := (comment speaks).once
      rw [empty] at once
      cases once
    · rw [DocBlock.render, DocBlock.chars, if_pos (isEmpty_ofSchema_iff.2 nothing)]
  · refine isComment_render (isPlain_ofDescription _) ?_ blank inline
      (isEmpty_fallback options definition cause)
    intro tag mem
    cases mem

-- ---- strings that try to close the comment they stand in

/-- A schema whose description, message and sample all end a comment. -/
def closingSchema : Schema where
  own := {
    description := some "**/\n/ * /\r*/"
    deprecated := some true
    deprecatedMessage := some "\n*//"
    sample := some (.array [.string "*/"]) }

theorem comments_close_once_closing :
    (∀ c ∈ "  ".toList, Text.isBlank c = true) ∧ '\n' ∉ "  ".toList
      ∧ ¬ SaysNothing closingSchema.own none
      ∧ IsComment "  " ((DocBlock.ofSchema closingSchema.own none).render "  ") := by
  have blank : ∀ c ∈ "  ".toList, Text.isBlank c = true := by
    intro c mem
    obtain rfl : c = ' ' := by simpa using mem
    decide
  have inline : '\n' ∉ "  ".toList := by decide
  have speaks : ¬ SaysNothing closingSchema.own none := fun nothing => nothing.current rfl
  exact ⟨blank, inline, speaks, ((comments_close_once blank inline).1 closingSchema none).2 speaks⟩

end OpenApiTypes.Layout
