/-
What is kept when a part of a document is exchanged for another one. At each
place the decoder of that place is run on both parts, and `Kept` says that
where the first run succeeds so does the second, and that what they read is
the same up to the order of maps.

A record keeps what it reads when each of its fields does. That is all there
is to say about the decoders of the records one by one (`kept_of_record`); what
a list or a map keeps does not depend on what it holds.
-/
import OpenApiTypes.Proofs.Decoding.Steps

namespace OpenApiTypes.Decoding

-- ===================================================== the decoders

/-- What a record is decoded to. -/
def Kind.Result : Kind → Type
  | document => Document
  | components => Components
  | payload => Payload
  | mediaType => MediaType
  | schema => Schema

/-- The decoder of a record, for trees. -/
def Kind.read : (kind : Kind) → Nat → Tree → Option kind.Result
  | document => Decoding.document Tree.refusing
  | components => Decoding.components Tree.refusing
  | payload => Decoding.payload Tree.refusing
  | mediaType => Decoding.mediaType Tree.refusing
  | schema => fun budget => Decoding.schema budget Tree.refusing

/-- Two records say the same up to the order of maps. -/
def Kind.Same : (kind : Kind) → kind.Result → kind.Result → Prop
  | document => Document.Same
  | components => Components.Same
  | payload => Payload.Same
  | mediaType => MediaType.Same
  | schema => Schema.Same

/-- What is said about other keys: a part is read whole and then decoded. -/
def additional (budget : Nat) (part : Tree) : Option (Additional Schema) := do
  match ← tree Tree.refusing budget part with
  | .flag value => pure (.allowed value)
  | part => .each <$> schema budget Tree.refusing part

/-- What a part is decoded to at a place. -/
def Place.Result : Place → Type
  | raw => Unit
  | record kind => kind.Result
  | whole => Additional Schema
  | map kind => List (String × kind.Result)
  | list kind => List kind.Result

/-- The decoder at a place. A raw part is left to each field. -/
def Place.read : (place : Place) → Nat → Tree → Option place.Result
  | raw => fun _ _ => some ()
  | record kind => kind.read
  | whole => additional
  | map kind => fun budget => Decoding.map Tree.refusing budget (kind.read (budget - 1))
  | list kind => fun budget => Decoding.list Tree.refusing budget (kind.read (budget - 1))

/-- What is decoded at a place is the same up to the order of maps. -/
def Place.Same : (place : Place) → place.Result → place.Result → Prop
  | raw => fun _ _ => True
  | record kind => kind.Same
  | whole => Additional.Alike Schema.Same
  | map kind => SameMap kind.Same
  | list kind => List.Forall₂ kind.Same

/-- Two parts read as the same wherever a field takes a part as it is. -/
structure ReadsAlike (part other : Tree) : Prop where
  text : text Tree.refusing part = text Tree.refusing other
  flag : flag Tree.refusing part = flag Tree.refusing other
  value (budget : Nat) : value Tree.refusing budget part = value Tree.refusing budget other
  texts (budget : Nat) : list Tree.refusing budget (Decoding.text Tree.refusing) part
    = list Tree.refusing budget (Decoding.text Tree.refusing) other
  values (budget inner : Nat) : list Tree.refusing budget (Decoding.value Tree.refusing inner) part
    = list Tree.refusing budget (Decoding.value Tree.refusing inner) other
  types (budget : Nat) : (tree Tree.refusing budget part >>= typeNames Tree.refusing)
    = (tree Tree.refusing budget other >>= typeNames Tree.refusing)

/-- Where the first part is decoded, the other one is decoded to the same. -/
structure Kept (budget : Nat) (place : Place) (part other : Tree) : Prop where
  leads : Leads place.Same (place.read budget part) (place.read budget other)
  raw : place = .raw → ReadsAlike part other

theorem Kept.of_leads {budget : Nat} {place : Place} {part other : Tree} (apart : place ≠ .raw)
    (leads : Leads place.Same (place.read budget part) (place.read budget other)) :
    Kept budget place part other :=
  ⟨leads, fun raw => absurd raw apart⟩

theorem Kept.of_readsAlike {budget : Nat} {part other : Tree} (alike : ReadsAlike part other) :
    Kept budget .raw part other :=
  ⟨.pure trivial, fun _ => alike⟩

/-- Each field of a record is filled in both or in neither, and what fills it
is kept. -/
def FilledAlike (budget : Nat) (kind : Kind) (given others : List (String × Tree)) : Prop :=
  ∀ name, Option.Rel (Kept budget (kind.place name)) (filled given name) (filled others name)

section Records

variable {budget : Nat} {kind : Kind} {given others : List (String × Tree)} {part other : Tree}

/-- A field that is filled alike is read as the same. -/
theorem FilledAlike.leads (alike : FilledAlike budget kind given others) (name : String) :
    Leads (Option.Rel (kind.place name).Same)
      (field Tree.refusing given name ((kind.place name).read budget))
      (field Tree.refusing others name ((kind.place name).read budget)) :=
  leads_field (rel_imp_of_mem (fun _ _ _ kept => kept.leads) (alike name))

/-- A field that is filled alike and taken as it is reads as the same. -/
theorem FilledAlike.congr {α : Type} (alike : FilledAlike budget kind given others)
    (name : String) (place : kind.place name = .raw) {read : Tree → Option α}
    (reads : ∀ {part other}, ReadsAlike part other → read part = read other) :
    field Tree.refusing given name read = field Tree.refusing others name read :=
  field_congr (rel_imp_of_mem (fun _ _ _ kept => reads (kept.raw place)) (alike name))

-- ========================================================== schemas

theorem schema_zero : schema 0 Tree.refusing = fun _ : Tree => none :=
  funext fun part => Option.bind_eq_none_iff.2 fun given read => by
    rw [fields_zero] at read
    cases read

/-- A schema is decoded field by field. -/
theorem schema_succ (budget : Nat) (part : Tree) :
    schema (budget + 1) Tree.refusing part = (do
      let given ← fields Tree.refusing (budget + 1) schemaKeywords part
      let own ← keywords Tree.refusing budget given
      let properties ← field Tree.refusing given "properties"
        (map Tree.refusing budget (schema (budget - 1) Tree.refusing))
      let items ← field Tree.refusing given "items" (schema budget Tree.refusing)
      let anyOf ← field Tree.refusing given "anyOf"
        (list Tree.refusing budget (schema (budget - 1) Tree.refusing))
      let oneOf ← field Tree.refusing given "oneOf"
        (list Tree.refusing budget (schema (budget - 1) Tree.refusing))
      let allOf ← field Tree.refusing given "allOf"
        (list Tree.refusing budget (schema (budget - 1) Tree.refusing))
      let additional ← field Tree.refusing given "additionalProperties" (additional budget)
      pure { own, properties, items, anyOf, oneOf, allOf, additional }) := by
  cases budget with
  | zero =>
      have entries : map Tree.refusing 0 (schema 0 Tree.refusing)
          = map Tree.refusing 0 fun _ => none := by rw [schema_zero]
      have parts : list Tree.refusing 0 (schema 0 Tree.refusing)
          = list Tree.refusing 0 fun _ => none := by rw [schema_zero]
      rw [Nat.zero_sub, entries, parts]
      rfl
  | succ budget => rfl

/-- What a schema says by itself is the same if its fields are filled
alike. -/
theorem keywords_congr (alike : FilledAlike budget .schema given others) :
    keywords Tree.refusing budget given = keywords Tree.refusing budget others := by
  unfold keywords
  rw [alike.congr "type" rfl fun alike => alike.types budget,
    alike.congr "$ref" rfl fun alike => alike.text,
    alike.congr "required" rfl fun alike => alike.texts budget,
    alike.congr "enum" rfl fun alike => alike.values budget (budget - 1),
    alike.congr "x-enumNames" rfl fun alike => alike.texts budget,
    alike.congr "format" rfl fun alike => alike.text,
    alike.congr "const" rfl fun alike => alike.value budget,
    alike.congr "nullable" rfl fun alike => alike.flag,
    alike.congr "title" rfl fun alike => alike.text,
    alike.congr "description" rfl fun alike => alike.text,
    alike.congr "deprecated" rfl fun alike => alike.flag,
    alike.congr "x-deprecatedMessage" rfl fun alike => alike.text,
    alike.congr "example" rfl fun alike => alike.value budget]

theorem leads_schema (first : Leads (FilledAlike budget .schema)
      (fields Tree.refusing (budget + 1) schemaKeywords part)
      (fields Tree.refusing (budget + 1) schemaKeywords other)) :
    Leads Schema.Same (schema (budget + 1) Tree.refusing part)
      (schema (budget + 1) Tree.refusing other) := by
  rw [schema_succ, schema_succ]
  refine first.bind fun given others alike => ?_
  refine (Leads.of_eq (keywords_congr alike)).bind fun _ _ own => ?_
  refine (alike.leads "properties").bind fun _ _ properties => ?_
  refine (alike.leads "items").bind fun _ _ items => ?_
  refine (alike.leads "anyOf").bind fun _ _ anyOf => ?_
  refine (alike.leads "oneOf").bind fun _ _ oneOf => ?_
  refine (alike.leads "allOf").bind fun _ _ allOf => ?_
  refine (alike.leads "additionalProperties").bind fun _ _ additional => ?_
  exact .pure (.intro own properties items anyOf oneOf allOf additional)

/-- A record is kept when what fills its fields is. -/
theorem leads_record (first : Leads (FilledAlike budget kind)
      (fields Tree.refusing (budget + 1) kind.names part)
      (fields Tree.refusing (budget + 1) kind.names other)) :
    Leads kind.Same (kind.read (budget + 1) part) (kind.read (budget + 1) other) := by
  cases kind with
  | document =>
      refine first.bind fun given others alike => ?_
      refine (alike.leads "components").bind fun _ _ components => ?_
      exact (alike.leads "definitions").bind fun _ _ definitions =>
        .pure ⟨components, definitions⟩
  | components =>
      refine first.bind fun given others alike => ?_
      refine (alike.leads "schemas").bind fun _ _ schemas => ?_
      refine (alike.leads "responses").bind fun _ _ responses => ?_
      exact (alike.leads "requestBodies").bind fun _ _ requestBodies =>
        .pure ⟨schemas, responses, requestBodies⟩
  | payload =>
      refine first.bind fun given others alike => ?_
      have description := alike.congr "description" rfl fun alike => alike.text
      refine (Leads.of_eq description).bind fun _ _ description => ?_
      exact (alike.leads "content").bind fun _ _ content => .pure ⟨description, content⟩
  | mediaType =>
      refine first.bind fun given others alike => ?_
      exact (alike.leads "schema").bind fun _ _ schema => .pure ⟨schema⟩
  | schema => exact leads_schema first

/-- Without any budget left no record can be read. -/
theorem Kind.read_zero (kind : Kind) (part : Tree) : kind.read 0 part = none := by
  have fails {α : Type} (names : List String) (next : List (String × Tree) → Option α) :
      fields Tree.refusing 0 names part >>= next = none := by
    rw [fields_zero]
    rfl
  cases kind with
  | schema => exact congrFun schema_zero part
  | _ => exact fails _ _

-- ==================================================== reading whole

/-- Items that are each given back or refused are given back together. -/
theorem mapM_eq_ite {α : Type} {f : α → Option α} {p : α → Bool} {items : List α}
    (each : ∀ item ∈ items, f item = if p item then some item else none) :
    items.mapM f = if items.all p then some items else none := by
  induction items with
  | nil => rfl
  | cons item rest ih =>
      rw [List.mapM_cons, each item List.mem_cons_self,
        ih fun item mem => each item (List.mem_cons_of_mem _ mem), List.all_cons]
      cases p item with
      | false => rfl
      | true =>
          cases rest.all p with
          | false => rfl
          | true => rfl

theorem tree_list (budget : Nat) (items : List Tree) :
    tree Tree.refusing (budget + 1) (.list items)
      = Tree.list <$> items.mapM (tree Tree.refusing budget) := by
  delta tree
  rfl

theorem tree_map (budget : Nat) (entries : List (Tree × Tree)) :
    tree Tree.refusing (budget + 1) (.map entries)
      = Tree.map <$> entries.mapM fun entry =>
          tree Tree.refusing budget entry.1 >>= fun key =>
            tree Tree.refusing budget entry.2 >>= fun part => some (key, part) := by
  delta tree
  rfl

/-- What is read whole is given back as it is. -/
theorem tree_eq (budget : Nat) (part : Tree) :
    tree Tree.refusing budget part = if readable budget part then some part else none := by
  induction budget generalizing part with
  | zero =>
      delta tree
      cases part with
      | number value => cases value <;> rfl
      | _ => rfl
  | succ budget ih =>
      cases part with
      | list items =>
          rw [tree_list, mapM_eq_ite fun item _ => ih item, readable]
          split <;> rfl
      | map entries =>
          have each (entry : Tree × Tree) :
              (tree Tree.refusing budget entry.1 >>= fun key =>
                tree Tree.refusing budget entry.2 >>= fun part => some (key, part))
              = if readable budget entry.1 && readable budget entry.2 then some entry
                else none := by
            rw [ih, ih]
            cases readable budget entry.1 with
            | false => rfl
            | true =>
                cases readable budget entry.2 with
                | false => rfl
                | true => rfl
          rw [tree_map, mapM_eq_ite fun entry _ => each entry, readable]
          split <;> rfl
      | number value =>
          delta tree
          cases value <;> rfl
      | _ =>
          delta tree
          rfl

/-- What is said about other keys is a flag, or a schema in its place. -/
theorem additional_eq (budget : Nat) (part : Tree) :
    additional budget part = if readable budget part then
        match flag Tree.refusing part with
        | some value => some (.allowed value)
        | none => .each <$> schema budget Tree.refusing part
      else none := by
  unfold additional
  rw [tree_eq]
  split
  · cases part with
    | number value => cases value <;> rfl
    | _ => rfl
  · rfl

/-- What is said about other keys is kept if it is a flag in both or a schema
that is kept, and can still be read whole. -/
theorem leads_additional (flags : flag Tree.refusing part = flag Tree.refusing other)
    (whole : readable budget part = true → readable budget other = true)
    (leads : Leads Schema.Same (schema budget Tree.refusing part)
      (schema budget Tree.refusing other)) :
    Leads (Additional.Alike Schema.Same) (additional budget part) (additional budget other) := by
  rw [additional_eq, additional_eq, flags]
  by_cases able : readable budget part = true
  · rw [if_pos able, if_pos (whole able)]
    cases flag Tree.refusing other with
    | some value => exact .pure (.allowed value)
    | none => exact leads.map fun _ _ same => .each same
  · rw [if_neg able]
    exact .of_none rfl

-- ============================================== the part itself

/-- Whatever is decoded is the same as itself, the maps in it having distinct
keys. -/
theorem kept_refl (budget : Nat) (place : Place) (part : Tree) : Kept budget place part part := by
  have raw (budget : Nat) (part : Tree) : Kept budget .raw part part :=
    .of_readsAlike ⟨rfl, rfl, fun _ => rfl, fun _ => rfl, fun _ _ => rfl, fun _ => rfl⟩
  have whole {budget : Nat} {part : Tree} (schema : Kept budget (.record .schema) part part) :
      Kept budget .whole part part :=
    .of_leads nofun (leads_additional rfl id schema.leads)
  induction budget generalizing place part with
  | zero =>
      have record (kind : Kind) : Kept 0 (.record kind) part part :=
        .of_leads nofun (.of_none (kind.read_zero part))
      cases place with
      | raw => exact raw 0 part
      | record kind => exact record kind
      | whole => exact whole (record .schema)
      | map kind => exact .of_leads nofun (.of_none (map_zero (kind.read 0) part))
      | list kind => exact .of_leads nofun (.of_none (list_zero (kind.read 0) part))
  | succ budget ih =>
      have record (kind : Kind) : Kept (budget + 1) (.record kind) part part := by
        refine .of_leads nofun (leads_record fun given read => ⟨given, read, fun name => ?_⟩)
        cases filled given name with
        | none => exact .none
        | some inner => exact .some (ih _ inner)
      cases place with
      | raw => exact raw _ part
      | record kind => exact record kind
      | whole => exact whole (record .schema)
      | map kind =>
          refine .of_leads nofun fun entries read => ?_
          obtain ⟨given, rfl⟩ := exists_object_of_map read
          refine leads_map (List.forall₂_same.2 fun entry _ => ?_) entries read
          exact .intro entry.1 (ih (.record kind) entry.2).leads
      | list kind =>
          refine .of_leads nofun fun items read => ?_
          obtain ⟨given, rfl, -⟩ := list_eq_some read
          exact leads_list (List.forall₂_same.2 fun item _ => (ih (.record kind) item).leads)
            items read

end Records

end OpenApiTypes.Decoding
