/-
What lowering can do, said once. `typeAt` is a chain of keywords in which
the first one present decides, and below each of them a monadic computation
that enters a level and lowers the parts. Taken apart again in every proof
about types, the chain would be most of the proof; here it is taken apart
for good.

`typeAt_eq_ok` says that a schema lowers to a type exactly when one of the
constructors of `Reads` gives it, null aside. A constructor names the deciding
keyword, the keywords before it that are absent, and what was lowered for
its parts. Where several schemas are lowered, `List.Forall₂` relates them to
their types one by one.
-/
import OpenApiTypes.Proofs.Nesting
import OpenApiTypes.Proofs.Outcomes

namespace OpenApiTypes

/-- The JSON value that a literal denotes. -/
def Literal.json : Literal → Json
  | .string value => .string value
  | .number value => .number value
  | .bool value => .bool value
  | .null => .null

/-- Whether a value holds other values, and so has no literal. -/
def Json.isContainer : Json → Bool
  | .array _ => true
  | .object _ => true
  | .null | .bool _ | .number _ | .string _ => false

namespace Lowering

-- ================================================== related lists

/-- What is related to a list one by one is related to some member of it. -/
theorem exists_of_mem_right {α β : Type} {R : α → β → Prop} {as : List α} {bs : List β}
    (related : List.Forall₂ R as bs) {b : β} (mem : b ∈ bs) : ∃ a ∈ as, R a b := by
  induction related with
  | nil => cases mem
  | cons first others ih =>
      rcases List.mem_cons.1 mem with rfl | mem
      · exact ⟨_, List.mem_cons_self, first⟩
      · obtain ⟨a, inner, relates⟩ := ih mem
        exact ⟨a, List.mem_cons_of_mem _ inner, relates⟩

/-- Every member of a list has what is related to it. -/
theorem exists_of_mem_left {α β : Type} {R : α → β → Prop} {as : List α} {bs : List β}
    (related : List.Forall₂ R as bs) {a : α} (mem : a ∈ as) : ∃ b ∈ bs, R a b :=
  exists_of_mem_right related.flip mem

variable {options : Options} {depth : Nat}

/-- There is a level below as long as the limit allows it. -/
theorem enter_eq_ok {below : Nat} :
    enter options depth = .ok below ↔ depth + 1 ≤ options.maxDepth ∧ below = depth + 1 := by
  unfold enter
  split
  · next tooDeep =>
    constructor
    · intro h
      cases h
    · intro h
      obtain ⟨room, -⟩ := h
      omega
  · next room =>
    simp only [Except.ok.injEq]
    constructor
    · intro same
      subst same
      exact ⟨by omega, rfl⟩
    · intro h
      obtain ⟨-, rfl⟩ := h
      rfl

-- ========================================================== literals

/-- A value has a literal exactly when it is the value of the literal. -/
theorem literal_eq_ok {index : Nat} {value : Json} {result : Literal} :
    literal index value = .ok result ↔ value = result.json := by
  cases value <;> cases result <;> simp [literal, Literal.json]

/-- The values that a literal denotes are those that hold no others. -/
theorem isContainer_eq_false_iff {value : Json} :
    value.isContainer = false ↔ ∃ literal : Literal, value = literal.json := by
  constructor
  · intro plain
    cases value with
    | null => exact ⟨.null, rfl⟩
    | bool value => exact ⟨.bool value, rfl⟩
    | number value => exact ⟨.number value, rfl⟩
    | string value => exact ⟨.string value, rfl⟩
    | array items => cases plain
    | object entries => cases plain
  · intro h
    obtain ⟨literal, rfl⟩ := h
    cases literal <;> rfl

/-- Values that hold no others are denoted by literals. -/
theorem exists_literals_iff {values : List Json} :
    (∃ given : List Literal, values = given.map Literal.json)
      ↔ ∀ value ∈ values, value.isContainer = false := by
  induction values with
  | nil => simp
  | cons value rest ih =>
      rw [List.forall_mem_cons, isContainer_eq_false_iff, ← ih]
      constructor
      · intro h
        obtain ⟨given, same⟩ := h
        cases given with
        | nil => cases same
        | cons first given =>
            simp only [List.map_cons, List.cons.injEq] at same
            exact ⟨⟨first, same.1⟩, given, same.2⟩
      · intro h
        obtain ⟨⟨first, rfl⟩, given, rfl⟩ := h
        exact ⟨first :: given, rfl⟩

/-- The literal types of values are the literals that the values are. -/
theorem literals_eq_ok {index : Nat} {values : List Json} {types : List TypeExpr} :
    literals index values = .ok types
      ↔ ∃ given : List Literal, values = given.map Literal.json ∧ types = given.map .literal := by
  induction values generalizing index types with
  | nil =>
      constructor
      · intro h
        cases h
        exact ⟨[], rfl, rfl⟩
      · intro h
        obtain ⟨given, hvalues, rfl⟩ := h
        obtain rfl : given = [] := by simpa using hvalues
        rfl
  | cons value rest ih =>
      rw [literals, bind_eq_ok]
      constructor
      · intro h
        obtain ⟨first, hfirst, h⟩ := h
        obtain ⟨others, hothers, h⟩ := bind_eq_ok.1 h
        cases h
        obtain ⟨given, rfl, rfl⟩ := ih.1 hothers
        exact ⟨first :: given, by rw [literal_eq_ok.1 hfirst, List.map_cons], rfl⟩
      · intro h
        obtain ⟨given, hvalues, rfl⟩ := h
        cases given with
        | nil => cases hvalues
        | cons first given =>
            simp only [List.map_cons, List.cons.injEq] at hvalues
            obtain ⟨hfirst, hothers⟩ := hvalues
            refine ⟨first, literal_eq_ok.2 hfirst, bind_eq_ok.2 ?_⟩
            exact ⟨given.map .literal, ih.2 ⟨given, hothers, rfl⟩, rfl⟩

/-- The type of the literal types of an `enum`: one stands for itself. -/
def enumUnion : List TypeExpr → TypeExpr
  | [type] => type
  | types => .union types

/-- The type of an `enum` is made of the literals that its values are. -/
theorem enumType_eq_ok {values : List Json} {type : TypeExpr} :
    enumType values = .ok type
      ↔ ∃ given : List Literal, values = given.map Literal.json
          ∧ type = enumUnion (given.map .literal) := by
  have step : enumType values = (literals 0 values).map enumUnion := by
    unfold enumType
    rw [← bind_ok]
    congr 1
    funext types
    unfold enumUnion
    split
    · rfl
    · simp
  rw [step, map_eq_ok]
  constructor
  · intro h
    obtain ⟨types, htypes, rfl⟩ := h
    obtain ⟨given, rfl, rfl⟩ := literals_eq_ok.1 htypes
    exact ⟨given, rfl, rfl⟩
  · intro h
    obtain ⟨given, hvalues, rfl⟩ := h
    exact ⟨given.map .literal, literals_eq_ok.2 ⟨given, hvalues, rfl⟩, rfl⟩

-- ============================================= schemas one by one

/-- The types of schemas are made schema by schema. -/
theorem typesAt_eq_mapM (parts : List Schema) :
    typesAt options depth parts = parts.mapM (typeAt options depth) := by
  induction parts with
  | nil => rfl
  | cons part rest ih =>
      rw [typesAt, List.mapM_cons, ih]
      rfl

/-- The types of schemas are their types one by one. -/
theorem typesAt_eq_ok {parts : List Schema} {types : List TypeExpr} :
    typesAt options depth parts = .ok types
      ↔ List.Forall₂ (fun part type => typeAt options depth part = .ok type) parts types := by
  rw [typesAt_eq_mapM, mapM_eq_ok]

/-- The type of an array, by what is said about its items. -/
theorem arrayAt_eq_ok {items : Option Schema} {type : TypeExpr} :
    arrayAt options depth items = .ok type
      ↔ (items = none ∧ type = .array (unknownType options))
        ∨ ∃ schema item, items = some schema ∧ depth + 1 ≤ options.maxDepth
            ∧ typeAt options (depth + 1) schema = .ok item ∧ type = .array item := by
  cases items with
  | none => simp [arrayAt, eq_comm]
  | some schema =>
      rw [arrayAt, bind_eq_ok]
      constructor
      · intro h
        obtain ⟨below, hbelow, h⟩ := h
        obtain ⟨room, rfl⟩ := enter_eq_ok.1 hbelow
        obtain ⟨item, hitem, h⟩ := bind_eq_ok.1 h
        cases h
        exact .inr ⟨schema, item, rfl, room, hitem, rfl⟩
      · intro h
        rcases h with ⟨h, -⟩ | ⟨_, item, h, room, hitem, rfl⟩
        · cases h
        · cases h
          exact ⟨depth + 1, enter_eq_ok.2 ⟨room, rfl⟩, bind_eq_ok.2 ⟨item, hitem, rfl⟩⟩

-- =========================================================== objects

/-- The properties of a map are made entry by entry. -/
theorem propertiesAt_eq_map {required : List String} (properties : List (String × Schema)) :
    propertiesAt options depth required properties
      = properties.map fun entry =>
          (entry.1, (typeAt options depth entry.2).map
            (property required entry.1 entry.2.own)) := by
  induction properties with
  | nil => rfl
  | cons entry rest ih =>
      obtain ⟨name, schema⟩ := entry
      rw [propertiesAt, ih, List.map_cons]

/-- Sorting by name does not look at what stands under a name. -/
theorem sortEntries_map {α β : Type} (f : String × α → β) (entries : List (String × α)) :
    Text.sortEntries (entries.map fun entry => (entry.1, f entry))
      = (Text.sortEntries entries).map fun entry => (entry.1, f entry) := by
  unfold Text.sortEntries Text.sortByName
  rw [List.map_mergeSort]
  exact fun _ _ _ _ => rfl

/-- Sorting moves the entries of a map and keeps them. -/
theorem mem_sortEntries {α : Type} {entry : String × α} {entries : List (String × α)} :
    entry ∈ Text.sortEntries entries ↔ entry ∈ entries :=
  (Text.sortByName_perm Prod.fst entries).mem_iff

/-- A property stands for an entry of a map of schemas: the type is that of
the schema under the same name. -/
def PropertyReads (options : Options) (depth : Nat) (required : List String)
    (entry : String × Schema) (result : Property TypeExpr) : Prop :=
  ∃ type, typeAt options depth entry.2 = .ok type
    ∧ property required entry.1 entry.2.own type = result

/-- The declared properties stand for the entries in the order of names. -/
theorem declaredAt_eq_ok {required : List String} {properties : Option (List (String × Schema))}
    {results : List (Property TypeExpr)} :
    declaredAt options depth required properties = .ok results
      ↔ List.Forall₂ (PropertyReads options depth required)
          (Text.sortEntries (properties.getD [])) results := by
  cases properties with
  | none =>
      have nothing : Text.sortEntries ([] : List (String × Schema)) = [] :=
        List.mergeSort_nil ..
      rw [declaredAt, Option.getD_none, nothing, List.forall₂_nil_left_iff]
      exact ⟨fun h => (Except.ok.inj h).symm, fun h => by rw [h]⟩
  | some properties =>
      rw [declaredAt, orderedProperties, propertiesAt_eq_map, sortEntries_map, mapM_eq_ok,
        List.forall₂_map_left_iff, Option.getD_some]
      simp only [map_eq_ok]
      rfl

/-- The declared properties have the names of the entries, in order. -/
theorem map_name_of_properties {required : List String} {entries : List (String × Schema)}
    {results : List (Property TypeExpr)}
    (reads : List.Forall₂ (PropertyReads options depth required) entries results) :
    results.map Property.name = entries.map Prod.fst := by
  induction reads with
  | nil => rfl
  | cons first others ih =>
      obtain ⟨type, -, rfl⟩ := first
      rw [List.map_cons, List.map_cons, ih]
      rfl

/-- What an object type says about other keys, by what the schema says. -/
theorem indexAt_eq_ok {declared : Bool} {additional : Option (Additional Schema)}
    {index : Option TypeExpr} :
    indexAt options depth declared additional = .ok index
      ↔ match additional with
        | none => (if declared then none else some (unknownType options)) = index
        | some (.allowed value) => (if value then some (unknownType options) else none) = index
        | some (.each schema) =>
            ∃ type, typeAt options depth schema = .ok type ∧ some type = index := by
  match additional with
  | none => simp [indexAt]
  | some (.allowed value) => simp [indexAt]
  | some (.each schema) => simp [indexAt, map_eq_ok]

/-- The type for other keys is open, or that of the schema for them. -/
theorem index_cases {declared : Bool} {additional : Option (Additional Schema)} {type : TypeExpr}
    (read : indexAt options depth declared additional = .ok (some type)) :
    type = unknownType options
      ∨ ∃ schema, additional = some (.each schema) ∧ typeAt options depth schema = .ok type := by
  rw [indexAt_eq_ok] at read
  match additional with
  | none =>
      simp only at read
      split at read
      · cases read
      · exact .inl (Option.some.inj read).symm
  | some (.allowed value) =>
      simp only at read
      split at read
      · exact .inl (Option.some.inj read).symm
      · cases read
  | some (.each schema) =>
      obtain ⟨type, lowered, given⟩ := read
      cases given
      exact .inr ⟨schema, rfl, lowered⟩

/-- The object type of a schema: one level below, its declared properties
and its entry for other keys. -/
theorem objectAt_eq_ok {schema : Schema} {shape : ObjectType} :
    objectAt options depth schema = .ok shape
      ↔ depth + 1 ≤ options.maxDepth
        ∧ List.Forall₂ (PropertyReads options (depth + 1) (schema.own.required.getD []))
            (Text.sortEntries (schema.properties.getD [])) shape.properties
        ∧ indexAt options (depth + 1) schema.properties.isSome schema.additional
            = .ok shape.index := by
  rw [objectAt, bind_eq_ok]
  constructor
  · intro h
    obtain ⟨below, hbelow, h⟩ := h
    obtain ⟨room, rfl⟩ := enter_eq_ok.1 hbelow
    obtain ⟨properties, hproperties, h⟩ := bind_eq_ok.1 h
    obtain ⟨index, hindex, h⟩ := bind_eq_ok.1 h
    cases h
    exact ⟨room, declaredAt_eq_ok.1 hproperties, hindex⟩
  · intro h
    obtain ⟨room, hproperties, hindex⟩ := h
    refine ⟨depth + 1, enter_eq_ok.2 ⟨room, rfl⟩, bind_eq_ok.2 ?_⟩
    exact ⟨shape.properties, declaredAt_eq_ok.2 hproperties,
      bind_eq_ok.2 ⟨shape.index, hindex, rfl⟩⟩

-- ============================================== the type keyword

/-- The type names that lowering knows. -/
def knownNames : List String :=
  ["string", "number", "integer", "boolean", "null", "file", "array", "object"]

/-- What one type name is lowered to, with the schema it stands in. -/
inductive Named (options : Options) (depth : Nat) (schema : Schema) : String → TypeExpr → Prop where
  | text (noBinary : schema.own.format ≠ some "binary") :
      Named options depth schema "string" (.primitive .string)
  | binary (given : schema.own.format = some "binary") :
      Named options depth schema "string" fileType
  | number : Named options depth schema "number" (.primitive .number)
  | integer : Named options depth schema "integer" (.primitive .number)
  | boolean : Named options depth schema "boolean" (.primitive .boolean)
  | null : Named options depth schema "null" (.primitive .null)
  | file : Named options depth schema "file" fileType
  | array {type : TypeExpr} (read : arrayAt options depth schema.items = .ok type) :
      Named options depth schema "array" type
  | object {shape : ObjectType} (read : objectAt options depth schema = .ok shape) :
      Named options depth schema "object" (.object shape)
  | unknown {name : String} (unheard : name ∉ knownNames) :
      Named options depth schema name (unknownType options)

/-- The type of one name in a schema. -/
def nameAt (options : Options) (depth : Nat) (schema : Schema) (name : String) :
    Except LoweringError TypeExpr :=
  namedType options schema.own.format (arrayAt options depth schema.items)
    ((objectAt options depth schema).map .object) name

/-- The constructors of `Named` are all that a type name is lowered to. -/
theorem nameAt_eq_ok {schema : Schema} {name : String} {type : TypeExpr} :
    nameAt options depth schema name = .ok type ↔ Named options depth schema name type := by
  constructor
  · intro h
    unfold nameAt namedType at h
    split at h
    case h_1 =>
      cases h
      split
      · next given => exact .binary given
      · next noBinary => exact .text noBinary
    case h_2 => cases h; exact .number
    case h_3 => cases h; exact .integer
    case h_4 => cases h; exact .boolean
    case h_5 => cases h; exact .null
    case h_6 => cases h; exact .file
    case h_7 => exact .array h
    case h_8 =>
      obtain ⟨shape, read, rfl⟩ := map_eq_ok.1 h
      exact .object read
    case h_9 =>
      cases h
      refine .unknown fun known => ?_
      simp only [knownNames, List.mem_cons, List.not_mem_nil, or_false] at known
      grind
  · intro h
    unfold nameAt namedType
    cases h with
    | text noBinary => simp [noBinary]
    | binary given => simp [given]
    | number | integer | boolean | null | file => rfl
    | array read => exact read
    | object read => simp [read, Except.map]
    | unknown unheard =>
        simp only [knownNames, List.mem_cons, List.not_mem_nil, or_false, not_or] at unheard
        simp [unheard]

/-- The types of several names are made name by name. -/
theorem namedTypes_eq_mapM {format : Option String}
    {array object : Except LoweringError TypeExpr} (names : List String) :
    namedTypes options format array object names
      = names.mapM (namedType options format array object) := by
  induction names with
  | nil => rfl
  | cons name rest ih =>
      rw [namedTypes, List.mapM_cons, ih]
      rfl

/-- The types of several names are their types one by one. -/
theorem namedTypes_eq_ok {format : Option String} {array object : Except LoweringError TypeExpr}
    {names : List String} {types : List TypeExpr} :
    namedTypes options format array object names = .ok types
      ↔ List.Forall₂ (fun name type => namedType options format array object name = .ok type)
          names types := by
  rw [namedTypes_eq_mapM, mapM_eq_ok]

/-- What the keyword `type` gives, or without it the keywords of objects and
of arrays. -/
inductive Typed (options : Options) (depth : Nat) (schema : Schema) : TypeExpr → Prop where
  | one {name : String} {type : TypeExpr} (given : schema.own.types = some (.one name))
      (named : Named options depth schema name type) : Typed options depth schema type
  | several {names : List String} {types : List TypeExpr}
      (given : schema.own.types = some (.several names))
      (named : List.Forall₂ (Named options depth schema) names types) :
      Typed options depth schema (join options .union types)
  | objectLike {shape : ObjectType} (untyped : schema.own.types = none)
      (like : schema.properties.isSome || schema.additional.isSome)
      (read : objectAt options depth schema = .ok shape) :
      Typed options depth schema (.object shape)
  | arrayLike {type : TypeExpr} (untyped : schema.own.types = none)
      (unlike : schema.properties = none ∧ schema.additional = none)
      (like : schema.items.isSome) (read : arrayAt options depth schema.items = .ok type) :
      Typed options depth schema type
  | neither (untyped : schema.own.types = none)
      (unlike : schema.properties = none ∧ schema.additional = none ∧ schema.items = none) :
      Typed options depth schema (unknownType options)

/-- The constructors of `Typed` are all that the keyword `type` gives. -/
theorem keywordType_eq_ok {schema : Schema} {type : TypeExpr} :
    keywordType options schema.own (schema.properties.isSome || schema.additional.isSome)
        schema.items.isSome (arrayAt options depth schema.items)
        ((objectAt options depth schema).map .object) = .ok type
      ↔ Typed options depth schema type := by
  constructor
  · intro h
    unfold keywordType at h
    split at h
    · next name given => exact .one given (nameAt_eq_ok.1 h)
    · next names given =>
      obtain ⟨types, htypes, h⟩ := bind_eq_ok.1 h
      cases h
      refine .several given ((namedTypes_eq_ok.1 htypes).imp fun name type hname => ?_)
      exact nameAt_eq_ok.1 hname
    · next untyped =>
      split at h
      · next like =>
        obtain ⟨shape, read, rfl⟩ := map_eq_ok.1 h
        exact .objectLike untyped like read
      · next unlike =>
        simp only [Bool.or_eq_true, not_or, Bool.not_eq_true, Option.isSome_eq_false_iff,
          Option.isNone_iff_eq_none] at unlike
        split at h
        · next like => exact .arrayLike untyped unlike like h
        · next noItems =>
          cases h
          simp only [Bool.not_eq_true, Option.isSome_eq_false_iff,
            Option.isNone_iff_eq_none] at noItems
          exact .neither untyped ⟨unlike.1, unlike.2, noItems⟩
  · intro h
    unfold keywordType
    cases h with
    | one given named =>
        simp only [given]
        exact nameAt_eq_ok.2 named
    | several given named =>
        simp only [given]
        refine bind_eq_ok.2 ⟨_, namedTypes_eq_ok.2 (named.imp fun name type hname => ?_), rfl⟩
        exact nameAt_eq_ok.2 hname
    | objectLike untyped like read =>
        simp only [untyped, like, if_true, read]
        rfl
    | arrayLike untyped unlike like read =>
        simp [untyped, unlike.1, unlike.2, like, read]
    | neither untyped unlike =>
        simp [untyped, unlike.1, unlike.2.1, unlike.2.2]

-- ============================================== the deciding keyword

/-- The types of the parts of `anyOf` or `oneOf`. -/
def unionAt (options : Options) (depth : Nat) (parts : List Schema) :
    Except LoweringError TypeExpr := do
  let depth ← enter options depth
  .ok (join options .union (← typesAt options depth parts))

/-- The type that the deciding keyword of a schema gives. -/
def decidedAt (options : Options) (depth : Nat) (schema : Schema) :
    Except LoweringError TypeExpr :=
  match schema.own.reference, schema.own.constant, schema.allOf, schema.anyOf, schema.oneOf with
  | some pointer, _, _, _, _ => .ok (.ref (Identifier.referenceName pointer))
  | none, some value, _, _, _ => .ok (constantType options value)
  | none, none, some parts, _, _ => allOfAt options depth parts
  | none, none, none, some parts, _ => unionAt options depth parts
  | none, none, none, none, some parts => unionAt options depth parts
  | none, none, none, none, none =>
      match schema.own.values, schema.isType "object" with
      | some values, false => enumType values
      | _, _ =>
          keywordType options schema.own (schema.properties.isSome || schema.additional.isSome)
            schema.items.isSome (arrayAt options depth schema.items)
            ((objectAt options depth schema).map .object)

/-- The type of a schema adds null to the one that its deciding keyword
gives, if it is nullable. -/
def withNull (schema : Schema) (type : TypeExpr) : TypeExpr :=
  if schema.own.nullable = some true then orNull type else type

/-- Lowering is the deciding keyword, and then null. -/
theorem typeAt_eq_map (schema : Schema) :
    typeAt options depth schema = (decidedAt options depth schema).map (withNull schema) := by
  obtain ⟨own, properties, items, anyOf, oneOf, allOf, additional⟩ := schema
  unfold typeAt decidedAt
  simp only [allOfAt, unionAt, objectAt, map_bind, Schema.isType]
  cases own.reference with
  | some pointer => rfl
  | none =>
  cases own.constant with
  | some value => rfl
  | none =>
  cases allOf with
  | some parts => simp only [map_bind]; rfl
  | none =>
  cases anyOf with
  | some parts => simp only [map_bind]; rfl
  | none =>
  cases oneOf with
  | some parts => simp only [map_bind]; rfl
  | none =>
  cases own.values with
  | none => simp only [bind_ok]; rfl
  | some values =>
      cases own.isType "object" with
      | false => rfl
      | true => simp only [bind_ok]; rfl

/-- The types of the parts of a schema, one level below it. -/
def PartsRead (options : Options) (depth : Nat) (parts : List Schema) (types : List TypeExpr) :
    Prop :=
  depth + 1 ≤ options.maxDepth
    ∧ List.Forall₂ (fun part type => typeAt options (depth + 1) part = .ok type) parts types

/-- Parts are joined into one type when there is a level for them and each
of them has a type. -/
theorem joinedAt_eq_ok {many : List TypeExpr → TypeExpr} {parts : List Schema} {type : TypeExpr} :
    (do let depth ← enter options depth
        .ok (join options many (← typesAt options depth parts))) = .ok type
      ↔ ∃ types, PartsRead options depth parts types ∧ type = join options many types := by
  rw [bind_eq_ok]
  constructor
  · intro h
    obtain ⟨below, hbelow, h⟩ := h
    obtain ⟨room, rfl⟩ := enter_eq_ok.1 hbelow
    obtain ⟨types, htypes, h⟩ := bind_eq_ok.1 h
    cases h
    exact ⟨types, ⟨room, typesAt_eq_ok.1 htypes⟩, rfl⟩
  · intro h
    obtain ⟨types, ⟨room, htypes⟩, rfl⟩ := h
    refine ⟨depth + 1, enter_eq_ok.2 ⟨room, rfl⟩, bind_eq_ok.2 ?_⟩
    exact ⟨types, typesAt_eq_ok.2 htypes, rfl⟩

/-- What the deciding keyword of a schema gives, with the keywords before it
absent. -/
inductive Reads (options : Options) (depth : Nat) (schema : Schema) : TypeExpr → Prop where
  | reference {pointer : String} (given : schema.own.reference = some pointer) :
      Reads options depth schema (.ref (Identifier.referenceName pointer))
  | constant {value : Json} (noReference : schema.own.reference = none)
      (given : schema.own.constant = some value) :
      Reads options depth schema (constantType options value)
  | allOf {parts : List Schema} {types : List TypeExpr}
      (noReference : schema.own.reference = none) (noConstant : schema.own.constant = none)
      (given : schema.allOf = some parts) (read : PartsRead options depth parts types) :
      Reads options depth schema (join options .intersection types)
  | anyOf {parts : List Schema} {types : List TypeExpr}
      (noReference : schema.own.reference = none) (noConstant : schema.own.constant = none)
      (noAllOf : schema.allOf = none)
      (given : schema.anyOf = some parts) (read : PartsRead options depth parts types) :
      Reads options depth schema (join options .union types)
  | oneOf {parts : List Schema} {types : List TypeExpr}
      (noReference : schema.own.reference = none) (noConstant : schema.own.constant = none)
      (noAllOf : schema.allOf = none) (noAnyOf : schema.anyOf = none)
      (given : schema.oneOf = some parts) (read : PartsRead options depth parts types) :
      Reads options depth schema (join options .union types)
  | values {given : List Literal}
      (noReference : schema.own.reference = none) (noConstant : schema.own.constant = none)
      (noAllOf : schema.allOf = none) (noAnyOf : schema.anyOf = none)
      (noOneOf : schema.oneOf = none) (noObject : schema.isType "object" = false)
      (literals : schema.own.values = some (given.map Literal.json)) :
      Reads options depth schema (enumUnion (given.map .literal))
  | typed {type : TypeExpr}
      (noReference : schema.own.reference = none) (noConstant : schema.own.constant = none)
      (noAllOf : schema.allOf = none) (noAnyOf : schema.anyOf = none)
      (noOneOf : schema.oneOf = none)
      (noValues : schema.own.values = none ∨ schema.isType "object" = true)
      (typed : Typed options depth schema type) : Reads options depth schema type

/-- The constructors of `Reads` are all that the deciding keyword gives. -/
theorem decidedAt_eq_ok {schema : Schema} {type : TypeExpr} :
    decidedAt options depth schema = .ok type ↔ Reads options depth schema type := by
  constructor
  · intro h
    unfold decidedAt at h
    split at h
    · next given => cases h; exact .reference given
    · next noReference given => cases h; exact .constant noReference given
    · next noReference noConstant given =>
      obtain ⟨types, read, rfl⟩ := joinedAt_eq_ok.1 h
      exact .allOf noReference noConstant given read
    · next noReference noConstant noAllOf given =>
      obtain ⟨types, read, rfl⟩ := joinedAt_eq_ok.1 h
      exact .anyOf noReference noConstant noAllOf given read
    · next noReference noConstant noAllOf noAnyOf given =>
      obtain ⟨types, read, rfl⟩ := joinedAt_eq_ok.1 h
      exact .oneOf noReference noConstant noAllOf noAnyOf given read
    · next noReference noConstant noAllOf noAnyOf noOneOf =>
      split at h
      · next values given noObject =>
        obtain ⟨literals, rfl, rfl⟩ := enumType_eq_ok.1 h
        exact .values noReference noConstant noAllOf noAnyOf noOneOf noObject given
      · next noValues =>
        refine .typed noReference noConstant noAllOf noAnyOf noOneOf ?_ (keywordType_eq_ok.1 h)
        cases given : schema.own.values with
        | none => exact .inl rfl
        | some values =>
            refine .inr ?_
            cases object : schema.isType "object" with
            | true => rfl
            | false => exact (noValues values given object).elim
  · intro h
    unfold decidedAt
    cases h with
    | reference given => simp only [given]
    | constant noReference given => simp only [noReference, given]
    | allOf noReference noConstant given read =>
        simp only [noReference, noConstant, given]
        exact joinedAt_eq_ok.2 ⟨_, read, rfl⟩
    | anyOf noReference noConstant noAllOf given read =>
        simp only [noReference, noConstant, noAllOf, given]
        exact joinedAt_eq_ok.2 ⟨_, read, rfl⟩
    | oneOf noReference noConstant noAllOf noAnyOf given read =>
        simp only [noReference, noConstant, noAllOf, noAnyOf, given]
        exact joinedAt_eq_ok.2 ⟨_, read, rfl⟩
    | values noReference noConstant noAllOf noAnyOf noOneOf noObject literals =>
        simp only [noReference, noConstant, noAllOf, noAnyOf, noOneOf, noObject, literals]
        exact enumType_eq_ok.2 ⟨_, rfl, rfl⟩
    | typed noReference noConstant noAllOf noAnyOf noOneOf noValues typed =>
        simp only [noReference, noConstant, noAllOf, noAnyOf, noOneOf]
        rcases noValues with noValues | object
        · simp only [noValues]
          exact keywordType_eq_ok.2 typed
        · cases schema.own.values with
          | none => exact keywordType_eq_ok.2 typed
          | some values =>
              simp only [object]
              exact keywordType_eq_ok.2 typed

/-- A schema lowers to a type exactly when its deciding keyword gives the
type, with null added if the schema is nullable. -/
theorem typeAt_eq_ok {schema : Schema} {type : TypeExpr} :
    typeAt options depth schema = .ok type
      ↔ ∃ decided, Reads options depth schema decided ∧ withNull schema decided = type := by
  rw [typeAt_eq_map, map_eq_ok]
  simp only [decidedAt_eq_ok]

end Lowering

end OpenApiTypes
