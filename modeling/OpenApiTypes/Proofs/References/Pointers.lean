/-
Pointers: a reference names its definition in the last segment, where a
tilde and a slash are written as escapes. The name that lowering reads from
it is the type name of the definition, for every name: the escape of a
slash is undone first, so a tilde that was written out never meets the digit
after it before the slashes are back.
-/
import OpenApiTypes.Identifier

namespace OpenApiTypes.Identifier

/-- How one character of a name stands in a pointer. -/
def pointerChar (c : Char) : List Char :=
  if c = '~' then ['~', '0'] else if c = '/' then ['~', '1'] else [c]

/-- A name as a segment of a pointer. -/
def pointerSegment (name : String) : String := String.ofList (name.toList.flatMap pointerChar)

/-- How one character of a name stands in a pointer whose slashes are back: a
tilde is still an escape. -/
def tildeChar (c : Char) : List Char := if c = '~' then ['~', '0'] else [c]

theorem replaceTilde_cons {digit char c : Char} (other : c ≠ '~') (rest : List Char) :
    replaceTilde digit char (c :: rest) = c :: replaceTilde digit char rest := by
  rw [replaceTilde]
  rintro next rest rfl
  exact absurd rfl other

/-- The escapes of slashes are undone, and those of tildes left. -/
theorem replaceTilde_slash (name : List Char) :
    replaceTilde '1' '/' (name.flatMap pointerChar) = name.flatMap tildeChar := by
  induction name with
  | nil => rfl
  | cons c name ih =>
      rw [List.flatMap_cons, List.flatMap_cons, pointerChar, tildeChar]
      split
      · rw [← ih]
        simp [replaceTilde, replaceTilde_cons]
      · split
        · next slash => simp [replaceTilde, ih, slash]
        · next tilde _ => simp [replaceTilde_cons tilde, ih]

/-- The escapes of tildes are undone. -/
theorem replaceTilde_tilde (name : List Char) :
    replaceTilde '0' '~' (name.flatMap tildeChar) = name := by
  induction name with
  | nil => rfl
  | cons c name ih =>
      rw [List.flatMap_cons, tildeChar]
      split
      · next tilde => simp [replaceTilde, ih, tilde]
      · next tilde => simp [replaceTilde_cons tilde, ih]

/-- Escaping a name is undone. -/
theorem unescapeSegment_pointerSegment (name : String) :
    unescapeSegment (pointerSegment name).toList = name.toList := by
  rw [unescapeSegment, pointerSegment, String.toList_ofList, replaceTilde_slash,
    replaceTilde_tilde]

/-- No slash is left in a segment. -/
theorem slash_notMem_pointerSegment (name : String) : '/' ∉ (pointerSegment name).toList := by
  rw [pointerSegment, String.toList_ofList, List.mem_flatMap]
  intro h
  obtain ⟨c, -, mem⟩ := h
  unfold pointerChar at mem
  split at mem
  · simp at mem
  · split at mem
    · simp at mem
    · next slash => exact slash (List.mem_singleton.1 mem).symm

/-- The last segment of a pointer follows its last slash. -/
theorem lastSegment_append {before segment : List Char} (noSlash : '/' ∉ segment) :
    lastSegment (before ++ '/' :: segment) = segment := by
  have inside : ∀ c ∈ segment.reverse, (c != '/') = true := by
    intro c mem
    rw [bne_iff_ne]
    intro same
    subst same
    exact noSlash (List.mem_reverse.1 mem)
  rw [lastSegment, List.reverse_append, List.reverse_cons, List.append_assoc,
    List.takeWhile_append_of_pos inside]
  simp

/-- A reference means the type of the definition whose name its last segment
is, whatever the name. -/
theorem referenceName_pointer (before name : String) :
    referenceName (before ++ "/" ++ pointerSegment name) = typeName name := by
  have segment : lastSegment (before ++ "/" ++ pointerSegment name).toList
      = (pointerSegment name).toList := by
    have chars : (before ++ "/" ++ pointerSegment name).toList
        = before.toList ++ '/' :: (pointerSegment name).toList := by simp
    rw [chars, lastSegment_append (slash_notMem_pointerSegment name)]
  rw [referenceName, segment, unescapeSegment_pointerSegment, String.ofList_toList]

end OpenApiTypes.Identifier
