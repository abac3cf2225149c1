/-
The depth limit is exact, and otherwise invisible. How deep lowering goes is
a number that can be read off a schema, its `height`: a reference, a constant
and the values of an `enum` take no level, a join takes one for itself, and
so do an object and the items of an array. Lowering at a depth succeeds
exactly if the height fits below the depth and no `enum` that it comes to
lists an array or object, and what it gives depends on neither the depth nor
the limit.

Both halves are one property of a run under a limit, `Takes`, which is
closed under everything that lowering is made of: entering a level adds one,
and of two runs in a row the larger number counts. So the lemma about each
lowering function follows its text, and the induction is over the schema.
-/
import OpenApiTypes.Proofs.Lowering.Decision

namespace OpenApiTypes

/-- The same choices under another depth limit. -/
def Options.limited (options : Options) (limit : Nat) : Options :=
  { options with maxDepth := limit }

-- ========================================================== heights

/-- The largest of some numbers, and zero if there are none. -/
def largest (numbers : List Nat) : Nat := numbers.foldr max 0

theorem largest_cons (number : Nat) (numbers : List Nat) :
    largest (number :: numbers) = max number (largest numbers) := rfl

/-- The largest of some numbers does not depend on their order. -/
theorem largest_eq_of_perm {numbers others : List Nat} (perm : numbers.Perm others) :
    largest numbers = largest others := by
  induction perm with
  | nil => rfl
  | cons number _ ih => rw [largest_cons, largest_cons, ih]
  | swap first second rest =>
      simp only [largest_cons]
      omega
  | trans _ _ ih ih' => rw [ih, ih']

namespace Schema

/-- The height of a type name, given those of the array and of the object
that it may stand for. -/
def kindHeight (array object : Nat) : String → Nat
  | "array" => array
  | "object" => object
  | _ => 0

mutual

/-- How many levels below its own lowering a schema takes. -/
def height : Schema → Nat
  | ⟨own, properties, items, anyOf, oneOf, allOf, additional⟩ =>
      match own.reference, own.constant with
      | some _, _ => 0
      | none, some _ => 0
      | none, none =>
      match allOf with
      | some parts => 1 + highest parts
      | none =>
      match anyOf with
      | some parts => 1 + highest parts
      | none =>
      match oneOf with
      | some parts => 1 + highest parts
      | none =>
      match own.values, own.isType "object" with
      | some _, false => 0
      | _, _ =>
          let kinds := own.kinds (properties.isSome || additional.isSome) items.isSome
          let object := 1 + max (declaredHeight properties) (othersHeight additional)
          largest (kinds.map (kindHeight (itemsHeight items) object))

/-- The largest height of some schemas. -/
def highest : List Schema → Nat
  | [] => 0
  | schema :: rest => max schema.height (highest rest)

/-- The height of an array with these items. -/
def itemsHeight : Option Schema → Nat
  | none => 0
  | some items => 1 + items.height

/-- The largest height of the declared properties. -/
def declaredHeight : Option (List (String × Schema)) → Nat
  | none => 0
  | some properties => highestProperty properties

/-- The largest height of some properties. -/
def highestProperty : List (String × Schema) → Nat
  | [] => 0
  | (_, schema) :: rest => max schema.height (highestProperty rest)

/-- The height of the schema of other keys, if they have one. -/
def othersHeight : Option (Additional Schema) → Nat
  | none => 0
  | some (.allowed _) => 0
  | some (.each schema) => schema.height

end

/-- The height of a type name in a schema. -/
def heightOf (schema : Schema) (name : String) : Nat :=
  kindHeight (itemsHeight schema.items)
    (1 + max (declaredHeight schema.properties) (othersHeight schema.additional)) name

theorem heightOf_of_ne {schema : Schema} {name : String} (noArray : name ≠ "array")
    (noObject : name ≠ "object") : schema.heightOf name = 0 := by
  unfold heightOf kindHeight
  split
  · exact absurd rfl noArray
  · exact absurd rfl noObject
  · rfl

theorem highest_eq_largest (parts : List Schema) : highest parts = largest (parts.map height) := by
  induction parts with
  | nil => rfl
  | cons part rest ih => rw [highest, ih, List.map_cons, largest_cons]

theorem highestProperty_eq_largest (properties : List (String × Schema)) :
    highestProperty properties = largest (properties.map fun entry => entry.2.height) := by
  induction properties with
  | nil => rfl
  | cons entry rest ih => rw [highestProperty, ih, List.map_cons, largest_cons]

/-- The height of a schema, by what decides its type. -/
theorem height_eq_match (schema : Schema) :
    schema.height = match schema.decision with
      | .factors parts => 1 + highest parts
      | .alternatives parts => 1 + highest parts
      | .types => largest (schema.kinds.map schema.heightOf)
      | .reference _ | .constant _ | .values _ => 0 := by
  obtain ⟨own, properties, items, anyOf, oneOf, allOf, additional⟩ := schema
  unfold height decision isType
  dsimp only
  cases own.reference with
  | some pointer => rfl
  | none =>
  cases own.constant with
  | some value => rfl
  | none =>
  cases allOf with
  | some parts => rfl
  | none =>
  cases anyOf with
  | some parts => rfl
  | none =>
  cases oneOf with
  | some parts => rfl
  | none =>
  cases own.values with
  | none => rfl
  | some values =>
      cases own.isType "object" with
      | false => rfl
      | true => rfl

/-- No `enum` that lowering comes to lists an array or object. -/
def Literal (schema : Schema) : Prop :=
  ∀ inner, Reached inner schema → ∀ values, inner.enumerated = some values →
    ∀ value ∈ values, value.isContainer = false

/-- What an `enum` lists is looked at in the schema itself, and in those that
lowering goes on to. -/
theorem literal_iff {schema : Schema} :
    schema.Literal ↔
      (∀ values, schema.enumerated = some values → ∀ value ∈ values, value.isContainer = false)
        ∧ ∀ child ∈ schema.lowered, child.Literal := by
  constructor
  · intro literal
    exact ⟨literal schema .self,
      fun child mem inner reached => literal inner (.child mem reached)⟩
  · intro h inner reached
    obtain ⟨own, children⟩ := h
    cases reached with
    | self => exact own
    | child mem reached => exact children _ mem inner reached

/-- The same, by what decides the type of the schema. -/
theorem literal_iff_match (schema : Schema) :
    schema.Literal ↔ match schema.decision with
      | .factors parts => ∀ part ∈ parts, part.Literal
      | .alternatives parts => ∀ part ∈ parts, part.Literal
      | .values values => ∀ value ∈ values, value.isContainer = false
      | .types => ∀ name ∈ schema.kinds, ∀ child ∈ schema.under name, child.Literal
      | .reference _ | .constant _ => True := by
  rw [literal_iff]
  unfold enumerated lowered
  cases schema.decision with
  | reference | constant | factors | alternatives | values => simp
  | types => simp only [reduceCtorEq, false_imp_iff, implies_true, true_and, List.forall_mem_flatMap]

end Schema

-- ============================================== runs under a limit

namespace Lowering

variable {α β σ : Type}

/-- A run at a depth under a limit takes so many levels. It succeeds where
the limit leaves as many below the depth, provided that it is legal, and
what it gives depends on neither. -/
structure Takes (levels : Nat) (legal : Prop)
    (run : (limit depth : Nat) → Except LoweringError α) : Prop where
  succeeds : ∀ limit depth,
    (∃ value, run limit depth = .ok value) ↔ levels ≤ limit - depth ∧ legal
  same : ∀ {limit depth limit' depth' value value'},
    run limit depth = .ok value → run limit' depth' = .ok value' → value = value'

namespace Takes

variable {levels levels' : Nat} {legal legal' : Prop}
  {run : (limit depth : Nat) → Except LoweringError α}
  {next : (limit depth : Nat) → Except LoweringError β}

/-- What looks at neither the depth nor the limit takes no level. -/
theorem const (result : Except LoweringError α) :
    Takes 0 (∃ value, result = .ok value) fun _ _ => result where
  succeeds limit depth := by simp
  same first second := by
    rw [first] at second
    exact Except.ok.inj second

theorem imp (takes : Takes levels legal run) (levels_eq : levels = levels')
    (legal_iff : legal ↔ legal') : Takes levels' legal' run where
  succeeds limit depth := by rw [takes.succeeds, levels_eq, legal_iff]
  same := takes.same

theorem map (takes : Takes levels legal run) (f : α → β) :
    Takes levels legal fun limit depth => (run limit depth).map f where
  succeeds limit depth := by
    rw [← takes.succeeds]
    constructor
    · intro h
      obtain ⟨_, ok⟩ := h
      obtain ⟨value, ok, -⟩ := map_eq_ok.1 ok
      exact ⟨value, ok⟩
    · intro h
      obtain ⟨value, ok⟩ := h
      exact ⟨f value, map_eq_ok.2 ⟨value, ok, rfl⟩⟩
  same first second := by
    obtain ⟨value, ok, rfl⟩ := map_eq_ok.1 first
    obtain ⟨value', ok', rfl⟩ := map_eq_ok.1 second
    rw [takes.same ok ok']

/-- Entering a level takes one more. -/
theorem entered (takes : Takes levels legal run) (options : Options) :
    Takes (1 + levels) legal fun limit depth =>
      enter (options.limited limit) depth >>= run limit where
  succeeds limit depth := by
    have below := takes.succeeds limit (depth + 1)
    constructor
    · intro h
      obtain ⟨value, ok⟩ := h
      obtain ⟨_, entered, ok⟩ := bind_eq_ok.1 ok
      obtain ⟨room, rfl⟩ := enter_eq_ok.1 entered
      obtain ⟨fits, legal⟩ := below.1 ⟨value, ok⟩
      have room : depth + 1 ≤ limit := room
      exact ⟨by omega, legal⟩
    · intro h
      obtain ⟨fits, legal⟩ := h
      obtain ⟨value, ok⟩ := below.2 ⟨by omega, legal⟩
      have room : depth + 1 ≤ limit := by omega
      exact ⟨value, bind_eq_ok.2 ⟨depth + 1, enter_eq_ok.2 ⟨room, rfl⟩, ok⟩⟩
  same first second := by
    obtain ⟨_, -, first⟩ := bind_eq_ok.1 first
    obtain ⟨_, -, second⟩ := bind_eq_ok.1 second
    exact takes.same first second

/-- Of two runs in a row the one that takes more levels counts. -/
theorem both {γ : Type} (first : Takes levels legal run) (second : Takes levels' legal' next)
    (f : α → β → γ) :
    Takes (max levels levels') (legal ∧ legal') fun limit depth => do
      let value ← run limit depth
      let other ← next limit depth
      .ok (f value other) where
  succeeds limit depth := by
    have one := first.succeeds limit depth
    have other := second.succeeds limit depth
    constructor
    · intro h
      obtain ⟨_, ok⟩ := h
      obtain ⟨value, ok, more⟩ := bind_eq_ok.1 ok
      obtain ⟨value', ok', -⟩ := bind_eq_ok.1 more
      obtain ⟨fits, legal⟩ := one.1 ⟨value, ok⟩
      obtain ⟨fits', legal'⟩ := other.1 ⟨value', ok'⟩
      exact ⟨by omega, legal, legal'⟩
    · intro h
      obtain ⟨fits, legal, legal'⟩ := h
      obtain ⟨value, ok⟩ := one.2 ⟨by omega, legal⟩
      obtain ⟨value', ok'⟩ := other.2 ⟨by omega, legal'⟩
      exact ⟨f value value', bind_eq_ok.2 ⟨value, ok, bind_eq_ok.2 ⟨value', ok', rfl⟩⟩⟩
  same ok ok' := by
    obtain ⟨value, left, ok⟩ := bind_eq_ok.1 ok
    obtain ⟨other, right, ok⟩ := bind_eq_ok.1 ok
    obtain ⟨value', left', ok'⟩ := bind_eq_ok.1 ok'
    obtain ⟨other', right', ok'⟩ := bind_eq_ok.1 ok'
    cases ok
    cases ok'
    rw [first.same left left', second.same right right']

/-- Of several runs in a row the one that takes most levels counts. -/
theorem mapM {items : List σ} {level : σ → Nat} {legal : σ → Prop}
    {run : σ → (limit depth : Nat) → Except LoweringError α}
    (each : ∀ item ∈ items, Takes (level item) (legal item) (run item)) :
    Takes (largest (items.map level)) (∀ item ∈ items, legal item)
      fun limit depth => items.mapM fun item => run item limit depth := by
  induction items with
  | nil =>
      refine (const (.ok [])).imp rfl ?_
      simp
  | cons item rest ih =>
      have others := ih fun other mem => each other (List.mem_cons_of_mem item mem)
      have takes := (each item List.mem_cons_self).both others List.cons
      simp only [List.mapM_cons]
      exact takes.imp rfl List.forall_mem_cons.symm

end Takes

-- ================================================= lowering functions

variable (options : Options)

/-- Lowering a schema takes as many levels as the schema is high. -/
def TakesHeight (schema : Schema) : Prop :=
  Takes schema.height schema.Literal fun limit depth =>
    typeAt (options.limited limit) depth schema

variable {options} {schema : Schema}

/-- An `enum` has a type when its values have literals. -/
theorem exists_enumType_iff {values : List Json} :
    (∃ type, enumType values = .ok type) ↔ ∀ value ∈ values, value.isContainer = false := by
  rw [← exists_literals_iff]
  simp only [enumType_eq_ok]
  constructor
  · intro h
    obtain ⟨_, given, same, -⟩ := h
    exact ⟨given, same⟩
  · intro h
    obtain ⟨given, same⟩ := h
    exact ⟨_, given, same, rfl⟩

theorem takes_typesAt {parts : List Schema} (each : ∀ part ∈ parts, TakesHeight options part) :
    Takes (Schema.highest parts) (∀ part ∈ parts, part.Literal) fun limit depth =>
      typesAt (options.limited limit) depth parts := by
  simp only [typesAt_eq_mapM, Schema.highest_eq_largest]
  exact Takes.mapM each

/-- A join takes a level for itself. -/
theorem takes_joinedAt {parts : List Schema} (each : ∀ part ∈ parts, TakesHeight options part)
    (many : List TypeExpr → TypeExpr) :
    Takes (1 + Schema.highest parts) (∀ part ∈ parts, part.Literal) fun limit depth =>
      (do let depth ← enter (options.limited limit) depth
          .ok (join (options.limited limit) many
            (← typesAt (options.limited limit) depth parts))) := by
  have joined := (takes_typesAt each).map (join options many)
  simp only [← bind_ok] at joined
  exact joined.entered options

theorem takes_arrayAt (each : ∀ items ∈ schema.items, TakesHeight options items) :
    Takes (Schema.itemsHeight schema.items) (∀ items ∈ schema.items.toList, items.Literal)
      fun limit depth => arrayAt (options.limited limit) depth schema.items := by
  cases given : schema.items with
  | none =>
      refine (Takes.const (.ok (TypeExpr.array (unknownType options)))).imp rfl ?_
      simp
  | some items =>
      have item := (each items given).map TypeExpr.array
      simp only [← bind_ok] at item
      refine (item.entered options).imp rfl ?_
      simp

theorem takes_declaredAt (required : List String)
    (each : ∀ entry ∈ schema.properties.getD [], TakesHeight options entry.2) :
    Takes (Schema.declaredHeight schema.properties)
      (∀ entry ∈ schema.properties.getD [], entry.2.Literal)
      fun limit depth => declaredAt (options.limited limit) depth required schema.properties := by
  cases given : schema.properties with
  | none =>
      refine (Takes.const (.ok [])).imp rfl ?_
      simp
  | some properties =>
      rw [given, Option.getD_some] at each
      have one (entry : String × Schema) (mem : entry ∈ Text.sortEntries properties) :
          Takes entry.2.height entry.2.Literal fun limit depth =>
            (typeAt (options.limited limit) depth entry.2).map
              (property required entry.1 entry.2.own) :=
        (each entry (mem_sortEntries.1 mem)).map _
      have perm : (Text.sortEntries properties).Perm properties :=
        Text.sortByName_perm Prod.fst properties
      have takes := Takes.mapM one
      simp only [declaredAt, orderedProperties, propertiesAt_eq_map, sortEntries_map,
        List.mapM_map]
      refine takes.imp ?_ ?_
      · rw [Schema.declaredHeight, Schema.highestProperty_eq_largest]
        exact largest_eq_of_perm (perm.map _)
      · simp only [Option.getD_some, mem_sortEntries]

theorem takes_indexAt (declared : Bool)
    (each : ∀ others, schema.additional = some (.each others) → TakesHeight options others) :
    Takes (Schema.othersHeight schema.additional)
      (∀ others ∈ (schema.additional.bind Additional.schema?).toList, others.Literal)
      fun limit depth => indexAt (options.limited limit) depth declared schema.additional := by
  match given : schema.additional with
  | none =>
      refine (Takes.const (.ok (if declared then none else some (unknownType options)))).imp rfl ?_
      simp
  | some (.allowed value) =>
      refine (Takes.const (.ok (if value then some (unknownType options) else none))).imp rfl ?_
      simp [Additional.schema?]
  | some (.each others) =>
      refine ((each others given).map some).imp rfl ?_
      simp [Additional.schema?]

section Step

variable (ih : ∀ child ∈ schema.children, TakesHeight options child)

include ih

/-- An object takes a level for itself. -/
theorem takes_objectAt :
    Takes (1 + max (Schema.declaredHeight schema.properties)
        (Schema.othersHeight schema.additional))
      (∀ child ∈ schema.under "object", child.Literal)
      fun limit depth => objectAt (options.limited limit) depth schema := by
  have declared := takes_declaredAt (schema.own.required.getD [])
    fun entry mem => ih entry.2 (Schema.mem_children_of_property mem)
  have index := takes_indexAt schema.properties.isSome
    fun others given => ih others (Schema.mem_children_of_additional given)
  have shape := (declared.both index ObjectShape.mk).entered options
  refine shape.imp rfl ?_
  simp only [Schema.under, List.forall_mem_append, List.forall_mem_map]

omit ih in
/-- Any other name than those of arrays and objects has one type. -/
theorem exists_type_of_ne (options : Options) (schema : Schema) {name : String}
    (noArray : name ≠ "array") (noObject : name ≠ "object") :
    ∃ type, ∀ limit depth, nameAt (options.limited limit) depth schema name = .ok type := by
  unfold nameAt namedType
  split
  case h_7 => exact absurd rfl noArray
  case h_8 => exact absurd rfl noObject
  case h_9 => exact ⟨unknownType options, fun _ _ => rfl⟩
  all_goals exact ⟨_, fun _ _ => rfl⟩

/-- A type name takes its height. -/
theorem takes_nameAt (name : String) :
    Takes (schema.heightOf name) (∀ child ∈ schema.under name, child.Literal)
      fun limit depth => nameAt (options.limited limit) depth schema name := by
  by_cases array : name = "array"
  · subst array
    exact takes_arrayAt fun items given => ih items (Schema.mem_children_of_items given)
  by_cases object : name = "object"
  · subst object
    exact (takes_objectAt ih).map TypeExpr.object
  · obtain ⟨type, made⟩ := exists_type_of_ne options schema array object
    simp only [made, Schema.heightOf_of_ne array object, Schema.under_of_ne array object]
    exact (Takes.const (.ok type)).imp rfl (by simp)

/-- The schema takes the levels of what decides its type. -/
theorem takes_decidedAt :
    Takes schema.height schema.Literal fun limit depth =>
      decidedAt (options.limited limit) depth schema := by
  have children : ∀ child ∈ schema.lowered, TakesHeight options child :=
    fun child mem => ih child (Schema.mem_children_of_lowered mem)
  have height := schema.height_eq_match
  have literal := schema.literal_iff_match
  simp only [decidedAt_eq_match]
  unfold Schema.lowered at children
  cases decides : schema.decision with
  | reference pointer =>
      rw [decides] at height literal
      exact (Takes.const _).imp height.symm (iff_of_true ⟨_, rfl⟩ (literal.2 trivial))
  | constant value =>
      rw [decides] at height literal
      exact (Takes.const (.ok (constantType options value))).imp height.symm
        (iff_of_true ⟨_, rfl⟩ (literal.2 trivial))
  | factors parts =>
      rw [decides] at height literal children
      exact (takes_joinedAt children .intersection).imp height.symm literal.symm
  | alternatives parts =>
      rw [decides] at height literal children
      exact (takes_joinedAt children .union).imp height.symm literal.symm
  | values values =>
      rw [decides] at height literal
      exact (Takes.const (enumType values)).imp height.symm (exists_enumType_iff.trans literal.symm)
  | types =>
      rw [decides] at height literal
      have names := Takes.mapM fun name (_ : name ∈ schema.kinds) => takes_nameAt ih name
      exact (names.map (join options .union)).imp height.symm literal.symm

end Step

/-- Lowering a schema takes as many levels as the schema is high. -/
theorem takesHeight (options : Options) (schema : Schema) : TakesHeight options schema := by
  induction schema using Schema.induction with
  | step schema ih =>
      unfold TakesHeight
      simp only [typeAt_eq_map]
      exact (takes_decidedAt ih).map (withNull schema)

/-- What lowers at a depth lowers to the same type at any smaller depth. -/
theorem typeAt_of_le {options : Options} {schema : Schema} {depth depth' : Nat} {type : TypeExpr}
    (lowered : typeAt options depth schema = .ok type) (le : depth' ≤ depth) :
    typeAt options depth' schema = .ok type := by
  have takes := takesHeight options schema
  have given : typeAt (options.limited options.maxDepth) depth schema = .ok type := lowered
  obtain ⟨fits, legal⟩ := (takes.succeeds options.maxDepth depth).1 ⟨type, given⟩
  have fits' : schema.height ≤ options.maxDepth - depth' := by omega
  obtain ⟨type', lowered'⟩ := (takes.succeeds options.maxDepth depth').2 ⟨fits', legal⟩
  rw [takes.same given lowered']
  exact lowered'

/-- Lowering at a depth within the limit succeeds exactly if the schema is
not higher than what is left, and no `enum` on the way lists an array or
object. Its type is the same at every depth and under every limit. -/
theorem typeAt_limit_exact (options : Options) (schema : Schema) :
    (∀ limit depth, depth ≤ limit →
      ((∃ type, typeAt (options.limited limit) depth schema = .ok type) ↔
        depth + schema.height ≤ limit
          ∧ ∀ inner, Schema.Reached inner schema → ∀ values, inner.enumerated = some values →
              ∀ value ∈ values, value.isContainer = false))
    ∧ ∀ limit limit' depth depth' type type',
        typeAt (options.limited limit) depth schema = .ok type →
          typeAt (options.limited limit') depth' schema = .ok type' → type = type' := by
  have takes := takesHeight options schema
  constructor
  · intro limit depth within
    rw [takes.succeeds limit depth]
    have fits : schema.height ≤ limit - depth ↔ depth + schema.height ≤ limit := by omega
    rw [fits]
    rfl
  · intro limit limit' depth depth' type type' first second
    exact takes.same first second

/-- A schema three levels high: a choice, in it an array, and in that a join
without parts, which takes a level all the same. What stands in the shadowed
`oneOf` is higher and does not count. -/
def layered : Schema where
  anyOf := some [
    { own := { types := some (.one "array") },
      items := some { own := { values := some [.string "a"] } } },
    { own := { types := some (.several ["array", "null"]) }, items := some { allOf := some [] } }]
  oneOf := some [{ oneOf := some [{ oneOf := some [{ oneOf := some [] }] }] }]

/-- The type of the schema. -/
def layeredType : TypeExpr :=
  .union [.array (.literal (.string "a")), .union [.array (.primitive .any), .primitive .null]]

/-- A limit of four leaves three levels below the depth one, where the schema
has the type that it has anywhere, and two below the depth two, where it has
none. -/
theorem layered_exact :
    layered.height = 3
      ∧ typeAt (Options.limited {} 4) 1 layered = .ok layeredType
      ∧ ¬ ∃ type, typeAt (Options.limited {} 4) 2 layered = .ok type := by
  obtain ⟨fits, same⟩ := typeAt_limit_exact {} layered
  have lowered : typeAt (Options.limited {} 3) 0 layered = .ok layeredType := rfl
  have plain := ((fits 3 0 (by decide)).1 ⟨layeredType, lowered⟩).2
  refine ⟨rfl, ?_, ?_⟩
  · obtain ⟨type, ok⟩ := (fits 4 1 (by decide)).2 ⟨by decide, plain⟩
    rw [ok, same 4 3 1 0 type layeredType ok lowered]
  · intro found
    have room : 2 + layered.height ≤ 4 := ((fits 4 2 (by decide)).1 found).1
    exact absurd room (by decide)

end Lowering

end OpenApiTypes
