/-
What was decoded did fit. A part under `additionalProperties` that cannot be
read whole is an error, whatever it would be decoded to, and an error
anywhere in a record is one of the record. So where a tree is decoded, every
such part in it can be read (`fits_of_isSome_read`).
-/
import OpenApiTypes.Proofs.Decoding.Records

namespace OpenApiTypes.Decoding

variable {budget : Nat} {place : Place} {kind : Kind} {part : Tree} {names : List String}
  {given : List (String × Tree)}

-- ========================================================== fields

/-- What fills a field of a record was read with the record. -/
theorem isSome_of_field {α : Type} {name : String} {read : Tree → Option α} {result : Option α}
    (success : field Tree.refusing given name read = some result) {inner : Tree}
    (found : filled given name = some inner) : (read inner).isSome = true := by
  rw [field_eq, found] at success
  obtain ⟨value, read, -⟩ := Option.map_eq_some_iff.1 success
  exact Option.isSome_iff_exists.2 ⟨value, read⟩

/-- A record is read with all that is in its fields. -/
theorem exists_fields (success : (kind.read (budget + 1) part).isSome = true) :
    ∃ given, fields Tree.refusing (budget + 1) kind.names part = some given
      ∧ ∀ entry ∈ kind.inner, ∀ inner, filled given entry.1 = some inner →
        (entry.2.read budget inner).isSome = true := by
  obtain ⟨result, success⟩ := Option.isSome_iff_exists.1 success
  cases kind with
  | document =>
      obtain ⟨given, read, success⟩ := Option.bind_eq_some_iff.1 success
      obtain ⟨_, components, success⟩ := Option.bind_eq_some_iff.1 success
      obtain ⟨_, definitions, -⟩ := Option.bind_eq_some_iff.1 success
      refine ⟨given, read, List.forall_mem_cons.2 ⟨fun _ => isSome_of_field components, ?_⟩⟩
      exact List.forall_mem_singleton.2 fun _ => isSome_of_field definitions
  | components =>
      obtain ⟨given, read, success⟩ := Option.bind_eq_some_iff.1 success
      obtain ⟨_, schemas, success⟩ := Option.bind_eq_some_iff.1 success
      obtain ⟨_, responses, success⟩ := Option.bind_eq_some_iff.1 success
      obtain ⟨_, requestBodies, -⟩ := Option.bind_eq_some_iff.1 success
      refine ⟨given, read, List.forall_mem_cons.2 ⟨fun _ => isSome_of_field schemas, ?_⟩⟩
      refine List.forall_mem_cons.2 ⟨fun _ => isSome_of_field responses, ?_⟩
      exact List.forall_mem_singleton.2 fun _ => isSome_of_field requestBodies
  | payload =>
      obtain ⟨given, read, success⟩ := Option.bind_eq_some_iff.1 success
      obtain ⟨_, _, success⟩ := Option.bind_eq_some_iff.1 success
      obtain ⟨_, content, -⟩ := Option.bind_eq_some_iff.1 success
      exact ⟨given, read, List.forall_mem_singleton.2 fun _ => isSome_of_field content⟩
  | mediaType =>
      obtain ⟨given, read, success⟩ := Option.bind_eq_some_iff.1 success
      obtain ⟨_, schema, -⟩ := Option.bind_eq_some_iff.1 success
      exact ⟨given, read, List.forall_mem_singleton.2 fun _ => isSome_of_field schema⟩
  | schema =>
      have success : schema (budget + 1) Tree.refusing part = some result := success
      rw [schema_succ] at success
      obtain ⟨given, read, success⟩ := Option.bind_eq_some_iff.1 success
      obtain ⟨_, _, success⟩ := Option.bind_eq_some_iff.1 success
      obtain ⟨_, properties, success⟩ := Option.bind_eq_some_iff.1 success
      obtain ⟨_, items, success⟩ := Option.bind_eq_some_iff.1 success
      obtain ⟨_, anyOf, success⟩ := Option.bind_eq_some_iff.1 success
      obtain ⟨_, oneOf, success⟩ := Option.bind_eq_some_iff.1 success
      obtain ⟨_, allOf, success⟩ := Option.bind_eq_some_iff.1 success
      obtain ⟨_, additional, -⟩ := Option.bind_eq_some_iff.1 success
      refine ⟨given, read, List.forall_mem_cons.2 ⟨fun _ => isSome_of_field properties, ?_⟩⟩
      refine List.forall_mem_cons.2 ⟨fun _ => isSome_of_field items, ?_⟩
      refine List.forall_mem_cons.2 ⟨fun _ => isSome_of_field anyOf, ?_⟩
      refine List.forall_mem_cons.2 ⟨fun _ => isSome_of_field oneOf, ?_⟩
      refine List.forall_mem_cons.2 ⟨fun _ => isSome_of_field allOf, ?_⟩
      exact List.forall_mem_singleton.2 fun _ => isSome_of_field additional

/-- Every field that a map gives by its name is read, each of them once. -/
theorem mem_of_keyedFields {entries : List (Tree × Tree)}
    (read : keyedFields Tree.refusing names entries = some given) :
    (given.map Prod.fst).Nodup ∧ ∀ name part, (.text name, part) ∈ entries → name ∈ names →
      (name, part) ∈ given := by
  induction entries generalizing given with
  | nil =>
      cases read
      exact ⟨List.nodup_nil, fun _ _ mem => nomatch mem⟩
  | cons entry rest ih =>
      obtain ⟨key, part⟩ := entry
      obtain ⟨named, readKey, read⟩ := Option.bind_eq_some_iff.1 read
      obtain ⟨others, readRest, read⟩ := Option.bind_eq_some_iff.1 read
      obtain ⟨distinct, listed⟩ := ih readRest
      have here (name : String) (same : key = .text name) (heard : name ∈ names) :
          fieldName names named = some name := by
        subst same
        cases readKey
        exact if_pos (List.contains_iff_mem.2 heard)
      cases stands : fieldName names named with
      | none =>
          rw [stands] at read
          cases read
          refine ⟨distinct, fun name inner mem heard => ?_⟩
          rcases List.mem_cons.1 mem with same | mem
          · cases same
            rw [here name rfl heard] at stands
            cases stands
          · exact listed name inner mem heard
      | some field =>
          rw [stands] at read
          dsimp only at read
          split at read
          · cases read
          · rename_i fresh
            cases read
            refine ⟨List.nodup_cons.2 ⟨fun again => fresh (any_key_iff.2 again), distinct⟩, ?_⟩
            intro name inner mem heard
            rcases List.mem_cons.1 mem with same | mem
            · cases same
              rw [here name rfl heard] at stands
              cases stands
              exact List.mem_cons_self
            · exact List.mem_cons_of_mem _ (listed name inner mem heard)

-- ============================================================ fit

theorem Kind.nodup_names (kind : Kind) : kind.names.Nodup := by
  cases kind <;> decide

/-- A field is raw unless it is one of the known ones that hold records. -/
theorem Kind.place_cases (kind : Kind) (name : String) : kind.place name = .raw
    ∨ (name, kind.place name) ∈ kind.inner ∧ name ∈ kind.names := by
  have heard : ∀ entry ∈ kind.inner, entry.1 ∈ kind.names := by
    cases kind <;> decide
  cases found : kind.inner.lookup name with
  | none => exact .inl (by rw [Kind.place, found, Option.getD_none])
  | some place =>
      have mem := mem_of_lookup_eq_some found
      rw [Kind.place, found, Option.getD_some]
      exact .inr ⟨mem, heard _ mem⟩

/-- Null can be read, whatever it stands for. -/
theorem fits_null : fits budget place .null = true :=
  fits_of_readable (by cases budget <;> rfl)

/-- What a field is given fits if whatever fills a field is read and
thereby fits. -/
theorem fits_of_given {name : String} (distinct : (given.map Prod.fst).Nodup)
    (mem : name ∈ kind.names → (name, part) ∈ given)
    (reads : ∀ entry ∈ kind.inner, ∀ inner, filled given entry.1 = some inner →
      fits budget entry.2 inner = true) :
    fits budget (kind.place name) part = true := by
  rcases kind.place_cases name with raw | ⟨inside, heard⟩
  · rw [raw, fits_raw]
  · have found : given.lookup name = some part := lookup_eq_some_of_mem distinct (mem heard)
    cases null : part.isNull with
    | true =>
        cases part with
        | null => exact fits_null
        | _ => cases null
    | false =>
        refine reads _ inside part ?_
        rw [filled, found, Option.filter_some, null]
        rfl

/-- What is said about other keys was read whole. -/
theorem readable_of_additional (success : (additional budget part).isSome = true) :
    readable budget part = true := by
  rw [additional_eq] at success
  split at success
  · assumption
  · cases success

/-- Whatever is decoded fits. -/
theorem fits_of_isSome_read (success : (place.read budget part).isSome = true) :
    fits budget place part = true := by
  induction budget generalizing place part with
  | zero =>
      cases place with
      | whole => exact readable_of_additional success
      | _ => cases part <;> rfl
  | succ budget ih =>
      cases place with
      | raw => exact fits_raw
      | record kind =>
          have apart : Place.record kind ≠ .whole := nofun
          obtain ⟨given, read, reads⟩ := exists_fields success
          have inside : ∀ entry ∈ kind.inner, ∀ inner, filled given entry.1 = some inner →
              fits budget entry.2 inner = true :=
            fun entry mem inner found => ih (reads entry mem inner found)
          cases part with
          | map entries =>
              obtain ⟨distinct, listed⟩ := mem_of_keyedFields read
              refine (fits_map apart entries).2 fun name part mem => ?_
              exact fits_of_given distinct (listed name part mem) inside
          | list items =>
              obtain ⟨rfl, length⟩ := fields_list_eq_some.1 read
              have distinct : ((kind.names.zip items).map Prod.fst).Nodup := by
                rw [List.map_fst_zip length.ge]
                exact kind.nodup_names
              refine (fits_list apart items).2 fun index item found => ?_
              refine fits_of_given distinct (fun _ => ?_) inside
              have below : index < kind.names.length :=
                length ▸ (List.getElem?_eq_some_iff.1 found).1
              refine List.mem_iff_getElem?.2 ⟨index, ?_⟩
              have named : kind.names[index]? = some (kind.names.getD index "") := by
                rw [List.getD_eq_getElem?_getD, List.getElem?_eq_getElem below, Option.getD_some]
              exact List.getElem?_zip_eq_some.2 ⟨named, found⟩
          | _ => rfl
      | whole => exact readable_of_additional success
      | map kind =>
          have apart : Place.map kind ≠ .whole := nofun
          obtain ⟨results, read⟩ := Option.isSome_iff_exists.1 success
          obtain ⟨entries, rfl⟩ := exists_object_of_map read
          have read' : (lastEntries <$> entries.mapM fun entry =>
              (entry.1, ·) <$> kind.read budget entry.2) = some results :=
            (map_object entries).symm.trans read
          obtain ⟨values, readValues, -⟩ := Option.map_eq_some_iff.1 read'
          refine (fits_object apart entries).2 fun entry mem => ih ?_
          obtain ⟨_, -, readEntry⟩ :=
            Lowering.exists_of_mem_left (mapM_eq_some.1 readValues) mem
          obtain ⟨value, readPart, -⟩ := Option.map_eq_some_iff.1 readEntry
          exact Option.isSome_iff_exists.2 ⟨value, readPart⟩
      | list kind =>
          have apart : Place.list kind ≠ .whole := nofun
          obtain ⟨results, read⟩ := Option.isSome_iff_exists.1 success
          obtain ⟨items, rfl, readItems⟩ := list_eq_some read
          refine (fits_list apart items).2 fun index item found => ih ?_
          obtain ⟨value, -, readItem⟩ :=
            Lowering.exists_of_mem_left (mapM_eq_some.1 readItems) (List.mem_of_getElem? found)
          exact Option.isSome_iff_exists.2 ⟨value, readItem⟩

end OpenApiTypes.Decoding
