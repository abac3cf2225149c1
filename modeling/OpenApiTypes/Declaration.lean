/-
Declarations: what a definition finally becomes. A declaration has a name
and documentation, and is an interface, an alias or an enum.
-/
import OpenApiTypes.TypeExpr.Text

namespace OpenApiTypes

/-- A member of an enum. Its name is already in quotes where it has to be. -/
structure EnumMember where
  name : String
  value : Literal
  deriving DecidableEq, Repr

/-- The three kinds of declaration. -/
inductive DeclarationKind where
  | interface (shape : ObjectType)
  | typeAlias (type : TypeExpr)
  | enumeration (members : List EnumMember)

/-- A declaration. -/
structure Declaration where
  name : String
  doc : DocBlock := {}
  kind : DeclarationKind

/-- The text of an enum member. -/
def EnumMember.text (member : EnumMember) : String :=
  member.name ++ " = " ++ member.value.text

/-- The line of an enum member in its declaration. -/
def EnumMember.line (member : EnumMember) : String := "  " ++ member.text ++ ",\n"

namespace DeclarationKind

/-- The declaration of a name, without its last line end. An alias of an
object type shows it as a block. -/
def text (name : String) : DeclarationKind → String
  | interface shape => "export interface " ++ name ++ " " ++ shape.block
  | typeAlias (.object shape) => "export type " ++ name ++ " = " ++ shape.block ++ ";"
  | typeAlias type => "export type " ++ name ++ " = " ++ type.text ++ ";"
  | enumeration members =>
      "export enum " ++ name ++ " \x7b\n" ++ String.join (members.map EnumMember.line) ++ "\x7d"

theorem text_interface (name : String) (shape : ObjectType) :
    (interface shape).text name = "export interface " ++ name ++ " " ++ shape.block := rfl

theorem text_objectAlias (name : String) (shape : ObjectType) :
    (typeAlias (.object shape)).text name
      = "export type " ++ name ++ " = " ++ shape.block ++ ";" := rfl

theorem text_otherAlias (name : String) {type : TypeExpr} (other : ∀ shape, type ≠ .object shape) :
    (typeAlias type).text name = "export type " ++ name ++ " = " ++ type.text ++ ";" := by
  cases type with
  | object shape => exact absurd rfl (other shape)
  | primitive | array | union | intersection | literal | ref => rfl

theorem text_enumeration (name : String) (members : List EnumMember) :
    (enumeration members).text name
      = "export enum " ++ name ++ " \x7b\n" ++ String.join (members.map EnumMember.line)
        ++ "\x7d" := rfl

end DeclarationKind

/-- The text of a declaration, after its documentation. -/
def Declaration.text (declaration : Declaration) : String :=
  declaration.doc.render "" ++ declaration.kind.text declaration.name ++ "\n"

end OpenApiTypes
