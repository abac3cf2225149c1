/-
How type expressions are written. The brackets are few: around a union or
intersection whose array is taken, and around a union inside an
intersection. Object types have two forms, one on a single line and one as a
block whose lines carry the documentation of the properties.
-/
import OpenApiTypes.Identifier
import OpenApiTypes.TypeExpr

namespace OpenApiTypes

/-- The keyword of a primitive type. -/
def Primitive.keyword : Primitive → String
  | .string => "string"
  | .number => "number"
  | .boolean => "boolean"
  | .null => "null"
  | .any => "any"
  | .unknown => "unknown"

/-- The text of a literal. -/
def Literal.text : Literal → String
  | .string value => Text.quote value
  | .number value => value.text
  | .bool value => if value then "true" else "false"
  | .null => "null"

namespace TypeExpr

/-- A text in brackets, if they are needed. -/
def bracket (needed : Bool) (text : String) : String :=
  if needed then "(" ++ text ++ ")" else text

/-- How a property starts: its name, and a mark if it may be absent. -/
def propertyHead (name : String) (optional : Bool) : String :=
  Identifier.quoteIfNeeded name ++ (if optional then "?" else "") ++ ": "

/-- How the entry for all other keys starts. -/
def indexHead : String := "[key: string]: "

/-- Entries of an object type on one line. -/
def inlineObject : List String → String
  | [] => "\x7b\x7d"
  | entries => "\x7b " ++ "; ".intercalate entries ++ " \x7d"

mutual

/-- The text of a type, on one line. -/
def text : TypeExpr → String
  | primitive type => type.keyword
  | array item => bracket item.isCompound item.text ++ "[]"
  | union members => " | ".intercalate (texts members)
  | intersection members => " & ".intercalate (factorTexts members)
  | object ⟨properties, index⟩ =>
      inlineObject (propertyTexts properties ++
        match index with
        | none => []
        | some type => [indexHead ++ type.text])
  | literal value => value.text
  | ref name => name

/-- The texts of types. -/
def texts : List TypeExpr → List String
  | [] => []
  | member :: rest => member.text :: texts rest

/-- The texts of types as members of an intersection. -/
def factorTexts : List TypeExpr → List String
  | [] => []
  | member :: rest => bracket member.isUnion member.text :: factorTexts rest

/-- The texts of properties. -/
def propertyTexts : List (Property TypeExpr) → List String
  | [] => []
  | ⟨name, type, optional, _⟩ :: rest =>
      (propertyHead name optional ++ type.text) :: propertyTexts rest

end

-- ================================================= texts of members

theorem texts_eq_map (members : List TypeExpr) : texts members = members.map text := by
  induction members with
  | nil => rfl
  | cons member rest ih => rw [texts, ih, List.map_cons]

theorem factorTexts_eq_map (members : List TypeExpr) :
    factorTexts members = members.map fun member => bracket member.isUnion member.text := by
  induction members with
  | nil => rfl
  | cons member rest ih => rw [factorTexts, ih, List.map_cons]

theorem propertyTexts_eq_map (properties : List (Property TypeExpr)) :
    propertyTexts properties = properties.map fun property =>
      propertyHead property.name property.optional ++ property.type.text := by
  induction properties with
  | nil => rfl
  | cons property rest ih =>
      obtain ⟨name, type, optional, doc⟩ := property
      rw [propertyTexts, ih, List.map_cons]

theorem text_object (shape : ObjectShape TypeExpr) :
    (object shape).text = inlineObject (propertyTexts shape.properties
      ++ shape.index.toList.map fun type => indexHead ++ type.text) := by
  obtain ⟨properties, index⟩ := shape
  cases index with
  | none => rw [text]; rfl
  | some type => rw [text]; rfl

end TypeExpr

namespace ObjectShape

/-- The indent of the lines of a block. -/
def indent : String := "  "

/-- The text of an object type on one line. -/
def text (shape : ObjectType) : String := (TypeExpr.object shape).text

/-- The lines of a property in a block. -/
def propertyLines (property : Property TypeExpr) : String :=
  property.doc.render indent ++ indent
    ++ TypeExpr.propertyHead property.name property.optional ++ property.type.text ++ ";\n"

/-- The lines of the entry for all other keys in a block. -/
def indexLines (index : Option TypeExpr) : String :=
  match index with
  | none => ""
  | some type => indent ++ TypeExpr.indexHead ++ type.text ++ ";\n"

/-- The text of an object type as a block. -/
def block (shape : ObjectType) : String :=
  if shape.properties.isEmpty && shape.index.isNone then "\x7b\x7d"
  else
    "\x7b\n" ++ String.join (shape.properties.map propertyLines) ++ indexLines shape.index
      ++ "\x7d"

end ObjectShape

end OpenApiTypes
