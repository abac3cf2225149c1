/-
Normal forms: what a type expression says once the ways of writing it are
forgotten. Members joined by one sign lie side by side and never inside one
another, a single member stands for itself, documentation is dropped, null
is one type whether it was a primitive or a literal, and a number is the
token that is written for it.

Unions and intersections are handled as one construction with a sign, for
all that differs between them is the sign.
-/
import OpenApiTypes.Proofs.Nesting
import OpenApiTypes.TypeExpr.Text

namespace OpenApiTypes

/-- The signs that stand between members: of a union, and of an
intersection. -/
inductive Sign where
  | bar
  | amp
  deriving DecidableEq, Repr

/-- A normal form. -/
inductive NormalForm where
  | primitive (type : Primitive)
  | bool (value : Bool)
  | number (token : String)
  | string (value : String)
  | ref (name : String)
  | array (item : NormalForm)
  | joined (sign : Sign) (members : List NormalForm)
  | object (shape : ObjectShape NormalForm)

namespace NormalForm

variable {sign : Sign} {form : NormalForm} {forms : List NormalForm}

-- ======================================================== joining

/-- What a form contributes to a join with a sign: its members if it is
joined by that sign, and itself otherwise. -/
def parts (sign : Sign) : NormalForm → List NormalForm
  | joined given members => if given = sign then members else [joined given members]
  | form => [form]

/-- Members under one sign, of which a single one stands for itself. -/
def collapse (sign : Sign) : List NormalForm → NormalForm
  | [form] => form
  | forms => joined sign forms

/-- The join of forms by a sign, whose members are not joined by it. -/
def join (sign : Sign) (forms : List NormalForm) : NormalForm :=
  collapse sign (forms.flatMap (parts sign))

/-- The joins in a form, down to the first array or object, are flat: the
members of each are not joined by its own sign, and there is not just one. -/
inductive Flat : NormalForm → Prop where
  | alone {form : NormalForm} (alone : ∀ sign, form.parts sign = [form]) : Flat form
  | joined {sign : Sign} {members : List NormalForm} (several : members.length ≠ 1)
      (flat : ∀ member ∈ members, Flat member)
      (apart : ∀ member ∈ members, member.parts sign = [member]) :
      Flat (joined sign members)

theorem parts_joined_self {members : List NormalForm} :
    (joined sign members).parts sign = members := by
  simp [parts]

theorem parts_joined_of_ne {given : Sign} {members : List NormalForm} (other : given ≠ sign) :
    (joined given members).parts sign = [joined given members] := by
  simp [parts, other]

theorem collapse_of_length_ne_one (several : forms.length ≠ 1) :
    collapse sign forms = joined sign forms := by
  unfold collapse
  split
  · simp at several
  · rfl

/-- The parts of a flat form are flat, and not joined by the sign. -/
theorem Flat.of_mem_parts (flat : Flat form) {part : NormalForm} (mem : part ∈ form.parts sign) :
    Flat part ∧ part.parts sign = [part] := by
  cases flat with
  | alone alone =>
      rw [alone, List.mem_singleton] at mem
      subst mem
      exact ⟨.alone alone, alone sign⟩
  | @joined given members several flat apart =>
      by_cases same : given = sign
      · subst same
        rw [parts_joined_self] at mem
        exact ⟨flat part mem, apart part mem⟩
      · rw [parts_joined_of_ne same, List.mem_singleton] at mem
        subst mem
        exact ⟨.joined several flat apart, parts_joined_of_ne same⟩

/-- A flat form is what its parts collapse to. -/
theorem Flat.collapse_parts (flat : Flat form) : collapse sign (form.parts sign) = form := by
  cases flat with
  | alone alone => rw [alone, collapse]
  | @joined given members several flat apart =>
      by_cases same : given = sign
      · subst same
        rw [parts_joined_self, collapse_of_length_ne_one several]
      · rw [parts_joined_of_ne same, collapse]

/-- Members that are not joined by the sign are the parts again. -/
theorem parts_collapse (apart : ∀ form ∈ forms, form.parts sign = [form]) :
    (collapse sign forms).parts sign = forms := by
  unfold collapse
  split
  · next form => exact apart form List.mem_cons_self
  · exact parts_joined_self

theorem of_mem_flatMap_parts (flat : ∀ form ∈ forms, Flat form) {part : NormalForm}
    (mem : part ∈ forms.flatMap (parts sign)) : Flat part ∧ part.parts sign = [part] := by
  obtain ⟨form, inner, mem⟩ := List.mem_flatMap.1 mem
  exact (flat form inner).of_mem_parts mem

theorem parts_join (flat : ∀ form ∈ forms, Flat form) :
    (join sign forms).parts sign = forms.flatMap (parts sign) :=
  parts_collapse fun _ mem => (of_mem_flatMap_parts flat mem).2

theorem flat_join (flat : ∀ form ∈ forms, Flat form) : Flat (join sign forms) := by
  by_cases single : (forms.flatMap (parts sign)).length = 1
  · obtain ⟨form, same⟩ := List.length_eq_one_iff.1 single
    have inner : form ∈ forms.flatMap (parts sign) := by simp [same]
    rw [join, same, collapse]
    exact (of_mem_flatMap_parts flat inner).1
  · rw [join, collapse_of_length_ne_one single]
    exact .joined single (fun _ mem => (of_mem_flatMap_parts flat mem).1)
      fun _ mem => (of_mem_flatMap_parts flat mem).2

end NormalForm

-- =============================================== type expressions

/-- The normal form of a literal. -/
def Literal.normalForm : Literal → NormalForm
  | .string value => .string value
  | .number value => .number value.text
  | .bool value => .bool value
  | .null => .primitive .null

namespace TypeExpr

mutual

/-- The normal form of a type. -/
def normalForm : TypeExpr → NormalForm
  | primitive type => .primitive type
  | array item => .array item.normalForm
  | union members => .join .bar (normalForms members)
  | intersection members => .join .amp (normalForms members)
  | object ⟨properties, index⟩ =>
      .object {
        properties := propertyForms properties
        index :=
          match index with
          | none => none
          | some type => some type.normalForm }
  | literal value => value.normalForm
  | ref name => .ref name

/-- The normal forms of types. -/
def normalForms : List TypeExpr → List NormalForm
  | [] => []
  | member :: rest => member.normalForm :: normalForms rest

/-- The properties of an object type with their types in normal form and
without documentation. -/
def propertyForms : List (Property TypeExpr) → List (Property NormalForm)
  | [] => []
  | ⟨name, type, optional, _⟩ :: rest =>
      { name, type := type.normalForm, optional } :: propertyForms rest

end

theorem normalForms_eq_map (members : List TypeExpr) :
    normalForms members = members.map normalForm := by
  induction members with
  | nil => rfl
  | cons member rest ih => rw [normalForms, ih, List.map_cons]

theorem propertyForms_eq_map (properties : List (Property TypeExpr)) :
    propertyForms properties = properties.map fun property => {
      name := property.name
      type := property.type.normalForm
      optional := property.optional } := by
  induction properties with
  | nil => rfl
  | cons property rest ih =>
      obtain ⟨name, type, optional, doc⟩ := property
      rw [propertyForms, ih, List.map_cons]

theorem normalForm_object (shape : ObjectType) :
    (object shape).normalForm = .object {
      properties := propertyForms shape.properties, index := shape.index.map normalForm } := by
  obtain ⟨properties, index⟩ := shape
  cases index with
  | none => rw [normalForm, Option.map_none]
  | some type => rw [normalForm, Option.map_some]

/-- Normal forms are flat. -/
theorem flat_normalForm (type : TypeExpr) : type.normalForm.Flat := by
  induction type using TypeExpr.induction with
  | primitive type => exact .alone fun _ => rfl
  | array item ih => exact .alone fun _ => rfl
  | union members ih =>
      rw [normalForm, normalForms_eq_map]
      exact NormalForm.flat_join (List.forall_mem_map.2 ih)
  | intersection members ih =>
      rw [normalForm, normalForms_eq_map]
      exact NormalForm.flat_join (List.forall_mem_map.2 ih)
  | object shape ihProperties ihIndex =>
      rw [normalForm_object]
      exact .alone fun _ => rfl
  | literal value =>
      rw [normalForm]
      cases value <;> exact .alone fun _ => rfl
  | ref name => exact .alone fun _ => rfl

end TypeExpr

end OpenApiTypes
