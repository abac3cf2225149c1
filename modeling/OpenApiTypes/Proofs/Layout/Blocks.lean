/-
Declarations as blocks. The text of a declaration is a header with quiet
lines around it: comments before it, and after it the entries of an object
or the members of an enum and a closing brace. All that it takes is that the
names in it stay on one line.
-/
import OpenApiTypes.Proofs.Compilation.Declarations
import OpenApiTypes.Proofs.Layout.Comments
import OpenApiTypes.Proofs.Layout.OneLine

namespace OpenApiTypes.Layout

-- ========================================================= objects

/-- What is set line by line must not break its lines: the names in a type
are on one line, and so are the tags of its properties, which an object
shows when it is set as a block. -/
structure IsTidy (type : TypeExpr) : Prop where
  names : ∀ name, TypeExpr.Within (.ref name) type → OneLine name
  docs : ∀ shape, type = .object shape → ∀ property ∈ shape.properties, IsPlain property.doc

/-- The lines of a property in a block. -/
def propertyBlock (property : Property TypeExpr) : List (List Char) :=
  commentLines property.doc ObjectShape.indent.toList
    ++ [(ObjectShape.indent ++ (TypeExpr.propertyHead property.name property.optional
      ++ property.type.text ++ ";")).toList]

/-- The lines of the entry for other keys in a block. -/
def indexBlock (index : Option TypeExpr) : List (List Char) :=
  index.toList.map fun type =>
    (ObjectShape.indent ++ (TypeExpr.indexHead ++ type.text ++ ";")).toList

/-- The lines between the braces of a block. -/
def innerLines (shape : ObjectType) : List (List Char) :=
  shape.properties.flatMap propertyBlock ++ indexBlock shape.index

theorem toList_propertyLines (property : Property TypeExpr) :
    (ObjectShape.propertyLines property).toList = unlines (propertyBlock property) := by
  simp [ObjectShape.propertyLines, propertyBlock, DocBlock.render, chars_eq_unlines, unlines]

theorem toList_indexLines (index : Option TypeExpr) :
    (ObjectShape.indexLines index).toList = unlines (indexBlock index) := by
  cases index with
  | none => rfl
  | some type => simp [ObjectShape.indexLines, indexBlock, unlines]

/-- An object type as a block is a pair of braces, or its lines between
two braces. -/
theorem toList_block (shape : ObjectType) :
    shape.block.toList = ['\x7b', '\x7d']
      ∨ shape.block.toList = '\x7b' :: '\n' :: (unlines (innerLines shape) ++ ['\x7d']) := by
  unfold ObjectShape.block
  split
  · exact .inl (by decide)
  · refine .inr ?_
    have properties : (String.join (shape.properties.map ObjectShape.propertyLines)).toList
        = unlines (shape.properties.flatMap propertyBlock) := by
      simp [String.toList_join, List.flatMap_map, toList_propertyLines, unlines, List.flatMap_assoc]
    simp [properties, toList_indexLines, innerLines, unlines_append]

/-- An indented line declares nothing. -/
theorem isQuiet_indent {text : String} (plain : OneLine text) :
    IsQuiet (ObjectShape.indent ++ text).toList := by
  have chars : (ObjectShape.indent ++ text).toList = [' '] ++ ' ' :: text.toList := by
    simp [ObjectShape.indent]
  rw [chars]
  refine isQuiet_of_start (by simp) (by decide) ?_
  rw [List.mem_cons, not_or]
  exact ⟨by decide, plain⟩

theorem isQuiet_of_mem_innerLines {shape : ObjectType} (tidy : IsTidy (.object shape))
    {line : List Char} (mem : line ∈ innerLines shape) : IsQuiet line := by
  rcases List.mem_append.1 mem with mem | mem
  · obtain ⟨property, listed, mem⟩ := List.mem_flatMap.1 mem
    rcases List.mem_append.1 mem with mem | mem
    · have spaces : ∀ c ∈ ObjectShape.indent.toList, c = ' ' := by simp [ObjectShape.indent]
      exact isQuiet_of_mem_commentLines (tidy.docs shape rfl property listed) spaces mem
    · obtain rfl := List.mem_singleton.1 mem
      have type : OneLine property.type.text :=
        oneLine_text fun name within => tidy.names name (.property listed within)
      apply isQuiet_indent
      rw [oneLine_append, oneLine_append]
      exact ⟨⟨oneLine_propertyHead _ _, type⟩, by decide⟩
  · obtain ⟨type, inner, rfl⟩ := List.mem_map.1 mem
    have given : shape.index = some type := by simpa using inner
    have text : OneLine type.text :=
      oneLine_text fun name within => tidy.names name (.index given within)
    apply isQuiet_indent
    rw [oneLine_append, oneLine_append]
    exact ⟨⟨by decide, text⟩, by decide⟩

-- ==================================================== declarations

/-- A text without its last line end is a header with quiet lines after
it. -/
def IsBody (name text : String) : Prop :=
  ∃ header after, (text ++ "\n").toList = unlines (header :: after)
    ∧ IsLine header ∧ IsHeader name header ∧ ∀ line ∈ after, IsQuiet line

theorem oneLine_opening {name opening : String} (plain : OneLine name)
    (mem : opening ∈ openings name) : OneLine ("export " ++ opening) := by
  have each (before after : String) (first : OneLine before) (last : OneLine after) :
      OneLine ("export " ++ (before ++ name ++ after)) := by
    rw [oneLine_append, oneLine_append, oneLine_append]
    exact ⟨by decide, ⟨first, plain⟩, last⟩
  simp only [openings, List.mem_cons, List.not_mem_nil, or_false] at mem
  rcases mem with rfl | rfl | rfl
  · exact each _ _ (by decide) (by decide)
  · exact each _ _ (by decide) (by decide)
  · exact each _ _ (by decide) (by decide)

section Body

variable {name opening : String} (plain : OneLine name) (mem : opening ∈ openings name)

include plain mem

/-- A header on one line. -/
theorem isBody_oneLine {rest : String} (inline : OneLine rest) :
    IsBody name ("export " ++ opening ++ rest) := by
  refine ⟨("export " ++ opening ++ rest).toList, [], by simp [unlines], ⟨by simp, ?_⟩,
    ⟨opening, mem, ?_⟩, by simp⟩
  · exact oneLine_append.2 ⟨oneLine_opening plain mem, inline⟩
  · have chars : ("export " ++ opening ++ rest).toList
        = ("export " ++ opening).toList ++ rest.toList :=
      String.toList_append
    rw [chars]
    exact List.prefix_append _ _

/-- A header that opens a brace, lines, and the line of the brace that
closes it. -/
theorem isBody_braces {rest : String} {inner : List (List Char)} {last : List Char}
    (chars : rest.toList = '\x7b' :: '\n' :: (unlines inner ++ '\x7d' :: last))
    (quiet : ∀ line ∈ inner, IsQuiet line) (inline : '\n' ∉ last) :
    IsBody name ("export " ++ opening ++ rest) := by
  refine ⟨("export " ++ opening).toList ++ ['\x7b'], inner ++ ['\x7d' :: last], ?_, ⟨by simp, ?_⟩,
    ⟨opening, mem, List.prefix_append _ _⟩, fun line inside => ?_⟩
  · simp [chars, unlines]
  · rw [List.mem_append, not_or]
    exact ⟨oneLine_opening plain mem, by decide⟩
  · rcases List.mem_append.1 inside with inside | inside
    · exact quiet line inside
    · obtain rfl := List.mem_singleton.1 inside
      have spaces : ∀ c ∈ ([] : List Char), c = ' ' := by simp
      refine isQuiet_of_start spaces (by decide) ?_
      rw [List.mem_cons, not_or]
      exact ⟨by decide, inline⟩

/-- An object type as a block after its header. -/
theorem isBody_block {shape : ObjectType} (tidy : IsTidy (.object shape)) {last : String}
    (inline : OneLine last) : IsBody name ("export " ++ opening ++ (shape.block ++ last)) := by
  rcases toList_block shape with chars | chars
  · apply isBody_oneLine plain mem
    rw [oneLine_append]
    refine ⟨?_, inline⟩
    rw [OneLine, chars]
    decide
  · have braces : (shape.block ++ last).toList
        = '\x7b' :: '\n' :: (unlines (innerLines shape) ++ '\x7d' :: last.toList) := by
      simp [chars]
    exact isBody_braces plain mem braces (fun line => isQuiet_of_mem_innerLines tidy) inline

end Body

/-- What a declaration shows besides its name keeps to its lines. -/
structure IsTidyKind (kind : DeclarationKind) : Prop where
  types : ∀ type ∈ kind.types, IsTidy type
  members : ∀ members, kind = .enumeration members → ∀ member ∈ members, OneLine member.name

theorem isQuiet_memberLine {member : EnumMember} (plain : OneLine member.name) :
    ∃ line, member.line.toList = line ++ ['\n'] ∧ IsQuiet line := by
  refine ⟨(ObjectShape.indent ++ (member.text ++ ",")).toList, ?_, isQuiet_indent ?_⟩
  · simp [EnumMember.line, ObjectShape.indent]
  · rw [oneLine_append, EnumMember.text, oneLine_append, oneLine_append]
    exact ⟨⟨⟨plain, by decide⟩, oneLine_literal _⟩, by decide⟩

/-- The members of an enum are set in quiet lines. -/
theorem exists_memberLines {members : List EnumMember}
    (plain : ∀ member ∈ members, OneLine member.name) :
    ∃ lines, (String.join (members.map EnumMember.line)).toList = unlines lines
      ∧ ∀ line ∈ lines, IsQuiet line := by
  induction members with
  | nil => exact ⟨[], rfl, by simp⟩
  | cons member others ih =>
      obtain ⟨first, chars, quiet⟩ := isQuiet_memberLine (plain member List.mem_cons_self)
      obtain ⟨lines, chars', quiet'⟩ := ih fun inner mem => plain inner (List.mem_cons_of_mem _ mem)
      refine ⟨first :: lines, ?_, List.forall_mem_cons.2 ⟨quiet, quiet'⟩⟩
      rw [List.map_cons, String.join_cons, String.toList_append, chars, chars', unlines_cons,
        List.append_assoc, List.singleton_append]

/-- How the parts of a header are grouped. -/
theorem export_append (keyword name after rest : String) :
    "export " ++ keyword ++ name ++ after ++ rest
      = "export " ++ (keyword ++ name ++ after) ++ rest := by
  simp only [String.append_assoc]

/-- A declaration of any kind is a header with quiet lines after it. -/
theorem isBody_kind {name : String} (plain : OneLine name) {kind : DeclarationKind}
    (tidy : IsTidyKind kind) : IsBody name (kind.text name) := by
  cases kind with
  | interface shape =>
      have start : "export interface " = "export " ++ "interface " := by decide
      have shown : IsTidy (.object shape) := tidy.types _ List.mem_cons_self
      have nothing : OneLine "" := by decide
      have body := isBody_block plain (interface_mem_openings name) shown nothing
      rw [String.append_empty] at body
      rw [DeclarationKind.text_interface, start, export_append]
      exact body
  | typeAlias type =>
      have start : "export type " = "export " ++ "type " := by decide
      have shown : IsTidy type := tidy.types _ List.mem_cons_self
      by_cases object : ∃ shape, type = .object shape
      · obtain ⟨shape, rfl⟩ := object
        rw [DeclarationKind.text_objectAlias, start, String.append_assoc, export_append]
        exact isBody_block plain (type_mem_openings name) shown (by decide)
      · rw [DeclarationKind.text_otherAlias name (not_exists.1 object), start, String.append_assoc,
          export_append]
        apply isBody_oneLine plain (type_mem_openings name)
        rw [oneLine_append]
        exact ⟨oneLine_text shown.names, by decide⟩
  | enumeration members =>
      have start : "export enum " = "export " ++ "enum " := by decide
      have brace : " \x7b\n" = " " ++ "\x7b\n" := by decide
      obtain ⟨lines, chars, quiet⟩ := exists_memberLines (tidy.members members rfl)
      rw [DeclarationKind.text_enumeration, start, brace, ← String.append_assoc,
        String.append_assoc, String.append_assoc, export_append]
      have braces : ("\x7b\n" ++ (String.join (members.map EnumMember.line) ++ "\x7d")).toList
          = '\x7b' :: '\n' :: (unlines lines ++ ['\x7d']) := by
        simp [chars]
      exact isBody_braces plain (enum_mem_openings name) braces quiet List.not_mem_nil

/-- A declaration is a block: its comment, its header and what closes it. -/
theorem isBlock_declaration {declaration : Declaration} (plain : OneLine declaration.name)
    (doc : IsPlain declaration.doc) (tidy : IsTidyKind declaration.kind) :
    ∃ block, IsBlock declaration.name block ∧ declaration.text.toList = unlines block := by
  obtain ⟨header, after, chars, isLine, isHeader, quiet⟩ := isBody_kind plain tidy
  have comment {line : List Char} (mem : line ∈ commentLines declaration.doc []) : IsQuiet line :=
    isQuiet_of_mem_commentLines doc (by simp) mem
  refine ⟨_, .around (fun line => comment) isLine isHeader quiet, ?_⟩
  have rendered : (declaration.doc.render "").toList
      = unlines (commentLines declaration.doc []) := by
    simp [DocBlock.render, chars_eq_unlines]
  rw [Declaration.text, String.append_assoc, String.toList_append, rendered, chars, unlines_append]

end OpenApiTypes.Layout
