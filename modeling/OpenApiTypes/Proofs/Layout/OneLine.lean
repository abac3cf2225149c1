/-
Texts on one line. Whatever a document puts into a name, a key or a literal,
no line end comes out of it: identifiers keep identifier characters only,
and a quoted text writes its line ends as escapes. So the text of every type
stays on one line as long as the names in it do.
-/
import OpenApiTypes.Proofs.Emission.Characters
import OpenApiTypes.Proofs.Identifiers.Quoting
import OpenApiTypes.Proofs.Nesting

namespace OpenApiTypes.Layout

/-- A text without a line end. -/
def OneLine (text : String) : Prop := '\n' ∉ text.toList

instance : DecidablePred OneLine := fun text => inferInstanceAs (Decidable ('\n' ∉ text.toList))

theorem oneLine_append {first second : String} :
    OneLine (first ++ second) ↔ OneLine first ∧ OneLine second := by
  simp [OneLine]

theorem oneLine_ofList {cs : List Char} : OneLine (String.ofList cs) ↔ '\n' ∉ cs := by
  simp [OneLine]

theorem oneLine_intercalate {separator : String} (plain : OneLine separator) {texts : List String}
    (each : ∀ text ∈ texts, OneLine text) : OneLine (separator.intercalate texts) := by
  induction texts with
  | nil => simp [OneLine]
  | cons first others ih =>
      have start := each first List.mem_cons_self
      have later := ih fun text mem => each text (List.mem_cons_of_mem _ mem)
      cases others with
      | nil => simpa using start
      | cons second others =>
          rw [String.intercalate_cons_cons, oneLine_append, oneLine_append]
          exact ⟨⟨start, plain⟩, later⟩

-- ============================================== names and literals

/-- A quoted text is on one line, whatever it denotes. -/
theorem oneLine_quote (value : String) : OneLine (Text.quote value) := by
  have body : OneLine (Text.escape value) := Text.lineEnd_notMem_escape (.inl rfl)
  rw [Text.quote, oneLine_append, oneLine_append]
  exact ⟨⟨by decide, body⟩, by decide⟩

theorem oneLine_quoteIfNeeded (name : String) : OneLine (Identifier.quoteIfNeeded name) := by
  unfold Identifier.quoteIfNeeded
  split
  · next identifier =>
    intro mem
    have part := Identifier.isPart_of_isIdentifier identifier mem
    exact absurd part (by decide)
  · exact oneLine_quote name

theorem oneLine_number (value : Number) : OneLine value.text := by
  intro mem
  have char := Number.isChar_of_mem_text mem
  exact absurd char (by decide)

theorem oneLine_literal (value : Literal) : OneLine value.text := by
  cases value with
  | string value => exact oneLine_quote value
  | number value => exact oneLine_number value
  | bool value => cases value <;> decide
  | null => decide

/-- Only one code is that of a line end. -/
theorem eq_ten_of_ofNat {code : Nat} (same : Char.ofNat code = '\n') : code = 10 := by
  by_cases valid : code.isValidChar
  · have codes := congrArg Char.toNat same
    rw [Char.ofNat, dif_pos valid] at codes
    exact codes
  · rw [Char.ofNat, dif_neg valid] at same
    exact absurd same (by decide)

/-- No character has a line end as its upper case but the line end. -/
theorem newline_notMem_toUpper {c : Char} (other : c ≠ '\n') : '\n' ∉ Text.toUpper c := by
  have expansions : ∀ entry ∈ Text.upperExpansions, 10 ∉ entry.2 := by decide +kernel
  have runs : ∀ run ∈ Text.upperRuns, 10 < run.first + run.shift := by decide +kernel
  unfold Text.toUpper
  split
  · next codes found =>
    obtain ⟨before, after, entries, -⟩ := List.lookup_eq_some_iff.1 found
    intro mem
    obtain ⟨code, listed, same⟩ := List.mem_map.1 mem
    obtain rfl := eq_ten_of_ofNat same
    exact expansions (c.toNat, codes) (by simp [entries]) listed
  · split
    · next run found =>
      intro mem
      have code := eq_ten_of_ofNat (List.mem_singleton.1 mem).symm
      have far := runs run (List.mem_of_find?_eq_some found)
      have covers := List.find?_some found
      simp only [Text.CaseRun.covers, Bool.and_eq_true, decide_eq_true_eq] at covers
      omega
    · simpa [eq_comm] using other

/-- The segments of a name hold identifier characters only. -/
theorem isPart_of_mem_segments {cs segment : List Char} (mem : segment ∈ Identifier.segments cs)
    {c : Char} (inner : c ∈ segment) : Identifier.isPart c = true := by
  fun_induction Identifier.segments cs generalizing segment with
  | case1 => cases mem
  | case2 first part =>
      obtain rfl := List.mem_singleton.1 mem
      obtain rfl := List.mem_singleton.1 inner
      exact part
  | case3 first part next rest _ noMore ih =>
      rw [noMore] at mem
      obtain rfl := List.mem_singleton.1 mem
      obtain rfl := List.mem_singleton.1 inner
      exact part
  | case4 first part next rest _ head others more ih =>
      rw [more] at mem ih
      rcases List.mem_cons.1 mem with rfl | mem
      · rcases List.mem_cons.1 inner with rfl | inner
        · exact part
        · exact ih List.mem_cons_self inner
      · exact ih (List.mem_cons_of_mem _ mem) inner
  | case5 first part next rest _ ih =>
      rcases List.mem_cons.1 mem with rfl | mem
      · obtain rfl := List.mem_singleton.1 inner
        exact part
      · exact ih mem inner
  | case6 first rest _ ih => exact ih mem inner

theorem oneLine_typeName (raw : String) : OneLine (Identifier.typeName raw) := by
  have plain {segment : List Char} (mem : segment ∈ Identifier.segments raw.toList) :
      '\n' ∉ segment := by
    intro inner
    exact absurd (isPart_of_mem_segments mem inner) (by decide)
  have capital {segment : List Char} (plain : '\n' ∉ segment) :
      '\n' ∉ Identifier.capitalize segment := by
    cases segment with
    | nil => exact plain
    | cons c rest =>
        rw [List.mem_cons, not_or] at plain
        rw [Identifier.capitalize, List.mem_append, not_or]
        exact ⟨newline_notMem_toUpper fun same => plain.1 same.symm, plain.2⟩
  have joined : '\n' ∉ Identifier.joinSegments (Identifier.segments raw.toList) := by
    cases segments : Identifier.segments raw.toList with
    | nil => simp [Identifier.joinSegments]
    | cons first others =>
        rw [segments] at plain
        rw [Identifier.joinSegments, List.mem_append, List.mem_flatMap, not_or]
        refine ⟨plain List.mem_cons_self, ?_⟩
        intro h
        obtain ⟨segment, mem, inner⟩ := h
        exact capital (plain (List.mem_cons_of_mem _ mem)) inner
  unfold Identifier.typeName
  split
  · decide
  · rw [oneLine_ofList]
    split
    · rw [List.mem_cons, not_or]
      exact ⟨by decide, joined⟩
    · exact joined

theorem oneLine_referenceName (pointer : String) : OneLine (Identifier.referenceName pointer) :=
  oneLine_typeName _

-- =========================================================== types

theorem oneLine_bracket {needed : Bool} {text : String} (plain : OneLine text) :
    OneLine (TypeExpr.bracket needed text) := by
  unfold TypeExpr.bracket
  split
  · rw [oneLine_append, oneLine_append]
    exact ⟨⟨by decide, plain⟩, by decide⟩
  · exact plain

theorem oneLine_propertyHead (name : String) (optional : Bool) :
    OneLine (TypeExpr.propertyHead name optional) := by
  rw [TypeExpr.propertyHead, oneLine_append, oneLine_append]
  refine ⟨⟨oneLine_quoteIfNeeded name, ?_⟩, by decide⟩
  cases optional <;> decide

theorem oneLine_inlineObject {entries : List String} (each : ∀ entry ∈ entries, OneLine entry) :
    OneLine (TypeExpr.inlineObject entries) := by
  unfold TypeExpr.inlineObject
  split
  · decide
  · rw [oneLine_append, oneLine_append]
    exact ⟨⟨by decide, oneLine_intercalate (by decide) each⟩, by decide⟩

/-- The text of a type is on one line if the names in it are. -/
theorem oneLine_text {type : TypeExpr}
    (names : ∀ name, TypeExpr.Within (.ref name) type → OneLine name) : OneLine type.text := by
  induction type using TypeExpr.induction with
  | primitive type => cases type <;> decide
  | literal value => exact oneLine_literal value
  | ref name => exact names name .self
  | array item ih =>
      rw [TypeExpr.text, oneLine_append]
      exact ⟨oneLine_bracket (ih fun name within => names name (.item within)), by decide⟩
  | union members ih =>
      rw [TypeExpr.text, TypeExpr.texts_eq_map]
      refine oneLine_intercalate (by decide) (List.forall_mem_map.2 fun member mem => ?_)
      exact ih member mem fun name within => names name (.alternative mem within)
  | intersection members ih =>
      rw [TypeExpr.text, TypeExpr.factorTexts_eq_map]
      refine oneLine_intercalate (by decide) (List.forall_mem_map.2 fun member mem => ?_)
      exact oneLine_bracket (ih member mem fun name within => names name (.factor mem within))
  | object shape ihProperties ihIndex =>
      rw [TypeExpr.text_object, TypeExpr.propertyTexts_eq_map]
      refine oneLine_inlineObject fun entry mem => ?_
      rcases List.mem_append.1 mem with mem | mem
      · obtain ⟨property, inner, rfl⟩ := List.mem_map.1 mem
        rw [oneLine_append]
        refine ⟨oneLine_propertyHead _ _, ?_⟩
        exact ihProperties property inner fun name within => names name (.property inner within)
      · obtain ⟨type, inner, rfl⟩ := List.mem_map.1 mem
        have given : shape.index = some type := by simpa using inner
        rw [oneLine_append]
        exact ⟨by decide, ihIndex type given fun name within => names name (.index given within)⟩

end OpenApiTypes.Layout
