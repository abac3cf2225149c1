/-
The text of a type determines its normal form. The reader is run on the
text, and what it ends with is the normal form of the type: as one text has
one reading, two types with the same text have the same normal form.

A text can stand in three places, and what it leaves on the stack differs.
As an operand it leaves its normal form, to which brackets may still be
added. As a factor or as an alternative it may leave several members, the
last of them not yet ended, and what counts is what the next sign collects.
An operand is a factor, a factor is an alternative, and round brackets make
an operand of an alternative: these are the three steps from which the text
of every type is built.
-/
import OpenApiTypes.Proofs.Emission.Reader

namespace OpenApiTypes

/-- The text of a sign. -/
def Sign.text : Sign → String
  | bar => " | "
  | amp => " & "

namespace Emission

variable {sign : Sign} {form : NormalForm} {text : String}

-- ========================================================== places

/-- Reading a text leads from one stack to another, whatever follows it of
what may follow a type. -/
def Leads (text : String) (before after : Stack) : Prop :=
  ∀ rest final, Follows rest → Reads after rest final → Reads before (text.toList ++ rest) final

/-- A text is read as one operand. -/
def IsOperand (text : String) (form : NormalForm) : Prop :=
  ∀ alternatives factors outer,
    Leads text ⟨{ alternatives, factors }, outer⟩
      ⟨{ alternatives, factors, operand := some form }, outer⟩

/-- The frame in which the next member of a join is to be read, with the
members that have been collected. -/
def Frame.collecting (alternatives collected : List NormalForm) : Sign → Frame
  | .bar => { alternatives := collected }
  | .amp => { alternatives, factors := collected }

/-- A text is read as a member, or several, of a join by a sign. -/
def IsPart (sign : Sign) (text : String) (form : NormalForm) : Prop :=
  ∀ alternatives collected outer, ∃ frame : Frame,
    frame.after sign = .collecting alternatives (collected ++ form.parts sign) sign
      ∧ Leads text ⟨.collecting alternatives collected sign, outer⟩ ⟨frame, outer⟩

/-- An operand is a factor. -/
theorem IsOperand.isFactor (operand : IsOperand text form) : IsPart .amp text form := by
  intro alternatives collected outer
  refine ⟨{ alternatives, factors := collected, operand := some form }, ?_, operand _ _ _⟩
  simp [Frame.after, Frame.collecting, Frame.current]

/-- A factor is an alternative. -/
theorem IsPart.isAlternative (flat : form.Flat) (factor : IsPart .amp text form) :
    IsPart .bar text form := by
  intro _ collected outer
  obtain ⟨frame, after, leads⟩ := factor collected [] outer
  refine ⟨frame, ?_, leads⟩
  simp only [Frame.after, Frame.collecting, Frame.mk.injEq, List.nil_append, and_true] at after ⊢
  rw [Frame.members, after.1, after.2, flat.collapse_parts]

/-- A frame that is read from the start as an alternative stands for it. -/
theorem close_eq (flat : form.Flat) {frame : Frame}
    (after : frame.after .bar = .collecting [] (form.parts .bar) .bar) : frame.close = form := by
  simp only [Frame.after, Frame.collecting, Frame.mk.injEq, and_true] at after
  rw [Frame.close, after, flat.collapse_parts]

/-- Round brackets make an operand of an alternative. -/
theorem IsPart.bracketed (flat : form.Flat) (alternative : IsPart .bar text form) :
    IsOperand ("(" ++ text ++ ")") form := by
  intro alternatives factors outer rest final follows reads
  obtain ⟨frame, after, leads⟩ :=
    alternative [] [] (.bracket { alternatives, factors } :: outer)
  have inside : Reads ⟨frame, .bracket { alternatives, factors } :: outer⟩ (')' :: rest) final := by
    refine .token rfl ?_
    simp only [Stack.step, close_eq flat after]
    exact reads
  have chars : ("(" ++ text ++ ")").toList ++ rest = '(' :: (text.toList ++ ')' :: rest) := by simp
  rw [chars]
  exact .token rfl (leads _ _ (follows_cons (by simp)) inside)

/-- Square brackets after an operand make an array of it. -/
theorem IsOperand.array (operand : IsOperand text form) :
    IsOperand (text ++ "[]") (.array form) := by
  intro alternatives factors outer rest final follows reads
  have chars : (text ++ "[]").toList ++ rest = text.toList ++ '[' :: ']' :: rest := by simp
  rw [chars]
  exact operand _ _ _ _ _ (follows_cons (by simp)) (.token rfl reads)

-- =========================================================== joins

theorem next_sign (sign : Sign) (rest : List Char) :
    next (sign.text.toList ++ rest) = some (.sign sign, rest) := by
  cases sign <;> rfl

theorem follows_sign (sign : Sign) (rest : List Char) : Follows (sign.text.toList ++ rest) := by
  cases sign <;> exact follows_cons (c := ' ') (by simp)

/-- Members with a sign between them are read as all their parts. -/
theorem isPart_join {α : Type} (sign : Sign) {textOf : α → String} {formOf : α → NormalForm}
    {members : List α} (nonempty : members ≠ [])
    (flat : ∀ member ∈ members, (formOf member).Flat)
    (each : ∀ member ∈ members, IsPart sign (textOf member) (formOf member)) :
    IsPart sign (sign.text.intercalate (members.map textOf)) (.join sign (members.map formOf)) := by
  intro alternatives collected outer
  rw [NormalForm.parts_join (List.forall_mem_map.2 flat)]
  clear flat
  induction members generalizing collected with
  | nil => contradiction
  | cons member others ih =>
      obtain ⟨frame, after, leads⟩ := each member List.mem_cons_self alternatives collected outer
      cases others with
      | nil => exact ⟨frame, by simpa using after, by simpa using leads⟩
      | cons second others =>
          obtain ⟨last, collects, more⟩ := ih (by simp)
            (fun inner mem => each inner (List.mem_cons_of_mem _ mem))
            (collected ++ (formOf member).parts sign)
          refine ⟨last, by simpa [List.append_assoc] using collects, ?_⟩
          intro rest final follows reads
          have chars :
              (sign.text.intercalate ((member :: second :: others).map textOf)).toList ++ rest
              = (textOf member).toList ++ (sign.text.toList
                ++ ((sign.text.intercalate ((second :: others).map textOf)).toList ++ rest)) := by
            simp [String.intercalate_cons_cons]
          rw [chars]
          refine leads _ _ (follows_sign _ _) (.token (next_sign _ _) ?_)
          simp only [Stack.step, after]
          exact more _ _ follows reads

-- ========================================================= objects

/-- How an entry starts. -/
def Entry.head : Entry → String
  | property name optional => TypeExpr.propertyHead name optional
  | otherKeys => TypeExpr.indexHead

/-- The token that starts an entry. -/
def Entry.token : Entry → Token
  | property name optional => .key name optional
  | otherKeys => .otherKeys

/-- The entries of an object type. -/
def entries (shape : ObjectType) : List (Entry × TypeExpr) :=
  (shape.properties.map fun property => (.property property.name property.optional, property.type))
    ++ (shape.index.toList.map fun type => (.otherKeys, type))

/-- The text of an entry. -/
def entryText (entry : Entry × TypeExpr) : String := entry.1.head ++ entry.2.text

/-- The start of an entry is read as its token. -/
theorem next_head (entry : Entry) (rest : List Char) :
    next (entry.head.toList ++ rest) = some (entry.token, rest) := by
  cases entry with
  | otherKeys => rfl
  | property name optional =>
      have chars : (Entry.property name optional).head.toList ++ rest
          = (Identifier.quoteIfNeeded name).toList
            ++ ((if optional then "?" else "").toList ++ ": ".toList ++ rest) := by
        simp [Entry.head, TypeExpr.propertyHead]
      rw [chars, Identifier.quoteIfNeeded]
      split
      · next identifier =>
        have nonempty : name ≠ "" :=
          mt String.toList_eq_nil_iff.2 (Identifier.ne_nil_of_isIdentifier identifier)
        have parts : ∀ c ∈ name.toList, inWord c = true :=
          fun _ mem =>
            inWord_of_apart (by decide) (Identifier.isPart_of_isIdentifier identifier mem)
        have ends :
            ∀ c, ((if optional then "?" else "").toList ++ ": ".toList ++ rest).head? = some c →
              inWord c = false := by
          cases optional <;> rintro _ ⟨⟩ <;> decide
        rw [next_word nonempty parts ends, named_key, Entry.token]
      · rw [next_quote, named_key, Entry.token]

/-- The entry that an object is open for is read up to its type. -/
theorem reads_entry {entry : Entry × TypeExpr}
    (value : IsPart .bar entry.2.text entry.2.normalForm) (around : Frame)
    (shape : ObjectShape NormalForm) (outer : List Around) :
    ∃ frame : Frame, frame.close = entry.2.normalForm
      ∧ Leads (entryText entry) ⟨{}, .object around shape none :: outer⟩
        ⟨frame, .object around shape (some entry.1) :: outer⟩ := by
  obtain ⟨frame, after, leads⟩ := value [] [] (.object around shape (some entry.1) :: outer)
  refine ⟨frame, close_eq (TypeExpr.flat_normalForm _) after, fun rest final follows reads => ?_⟩
  have started : Stack.step ⟨{}, .object around shape none :: outer⟩ entry.1.token
      = ⟨{}, .object around shape (some entry.1) :: outer⟩ := by
    cases entry.1 <;> rfl
  rw [entryText, String.toList_append, List.append_assoc]
  refine .token (next_head _ _) ?_
  rw [started]
  exact leads _ _ follows reads

/-- The entries of an object are read one after the other, up to the brace
that closes it. -/
theorem leads_entries {entries : List (Entry × TypeExpr)} (nonempty : entries ≠ [])
    (each : ∀ entry ∈ entries, IsPart .bar entry.2.text entry.2.normalForm)
    (around : Frame) (shape : ObjectShape NormalForm) (outer : List Around) :
    Leads ("; ".intercalate (entries.map entryText) ++ " \x7d")
      ⟨{}, .object around shape none :: outer⟩
      ⟨around.put (.object (entries.foldl
        (fun shape entry => addEntry shape (some entry.1) entry.2.normalForm) shape)), outer⟩ := by
  intro rest final follows reads
  induction entries generalizing shape with
  | nil => contradiction
  | cons entry others ih =>
      obtain ⟨frame, close, leads⟩ := reads_entry (each entry List.mem_cons_self) around shape outer
      cases others with
      | nil =>
          have chars : ("; ".intercalate ([entry].map entryText) ++ " \x7d").toList ++ rest
              = (entryText entry).toList ++ ' ' :: '\x7d' :: rest := by simp
          rw [chars]
          refine leads _ _ (follows_cons (by simp)) (.token rfl ?_)
          simp only [Stack.step, close]
          exact reads
      | cons second others =>
          have chars :
              ("; ".intercalate ((entry :: second :: others).map entryText) ++ " \x7d").toList
                  ++ rest
                = (entryText entry).toList ++ ';' :: ' '
                  :: (("; ".intercalate ((second :: others).map entryText) ++ " \x7d").toList
                    ++ rest) := by
            simp [String.intercalate_cons_cons]
          rw [chars]
          refine leads _ _ (follows_cons (by simp)) (.token rfl ?_)
          simp only [Stack.step, close]
          exact ih (by simp) (fun inner mem => each inner (List.mem_cons_of_mem _ mem)) _ reads

/-- Reading the entries of an object type gives its normal form. -/
theorem foldl_entries (shape : ObjectType) :
    (TypeExpr.object shape).normalForm = .object ((entries shape).foldl
      (fun shape entry => addEntry shape (some entry.1) entry.2.normalForm) {}) := by
  have properties (given : List (Property TypeExpr)) (shape : ObjectShape NormalForm) :
      (given.map fun property =>
          (Entry.property property.name property.optional, property.type)).foldl
        (fun shape entry => addEntry shape (some entry.1) entry.2.normalForm) shape
      = { shape with properties := shape.properties ++ TypeExpr.propertyForms given } := by
    induction given generalizing shape with
    | nil => simp [TypeExpr.propertyForms]
    | cons property rest ih =>
        rw [List.map_cons, List.foldl_cons, ih]
        simp [addEntry, TypeExpr.propertyForms_eq_map]
  rw [TypeExpr.normalForm_object, entries, List.foldl_append, properties]
  cases shape.index with
  | none => simp
  | some type => simp [addEntry]

/-- An object type is read as an operand. -/
theorem isOperand_object {shape : ObjectType}
    (each : ∀ entry ∈ entries shape, IsPart .bar entry.2.text entry.2.normalForm) :
    IsOperand (TypeExpr.object shape).text (TypeExpr.object shape).normalForm := by
  have text : (TypeExpr.object shape).text
      = TypeExpr.inlineObject ((entries shape).map entryText) := by
    rw [TypeExpr.text_object, TypeExpr.propertyTexts_eq_map, entries, List.map_append,
      List.map_map, List.map_map]
    rfl
  intro alternatives factors outer rest final follows reads
  rw [foldl_entries] at reads
  rw [text]
  cases given : entries shape with
  | nil =>
      rw [given] at reads
      exact .token rfl reads
  | cons entry others =>
      rw [given] at each reads
      have chars : (TypeExpr.inlineObject ((entry :: others).map entryText)).toList ++ rest
          = '\x7b' :: ' ' ::
            (("; ".intercalate ((entry :: others).map entryText) ++ " \x7d").toList ++ rest) := by
        simp [TypeExpr.inlineObject]
      rw [chars]
      exact .token rfl (leads_entries (by simp) each _ _ _ _ _ follows reads)

-- =========================================================== words

theorem isOperand_word {word : String} (nonempty : word ≠ "")
    (chars : ∀ c ∈ word.toList, inWord c = true) : IsOperand word (ofWord word) := by
  intro alternatives factors outer rest final follows reads
  have ends : ∀ c, rest.head? = some c → inWord c = false := by
    intro c head
    have apart : [' ', ')', ';', '['].any inWord = false := by decide
    exact Bool.eq_false_iff.2 (List.any_eq_false.1 apart c (follows c head))
  have first := next_word nonempty chars ends
  rw [named_of_follows follows] at first
  exact .token first reads

theorem isOperand_quote (value : String) : IsOperand (Text.quote value) (.string value) := by
  intro alternatives factors outer rest final follows reads
  have first := next_quote value rest
  rw [named_of_follows follows] at first
  exact .token first reads

theorem isOperand_primitive (type : Primitive) : IsOperand type.keyword (.primitive type) := by
  have word : ofWord type.keyword = .primitive type := by cases type <;> rfl
  rw [← word]
  have chars : type.keyword.toList.all inWord = true := by cases type <;> decide
  apply isOperand_word
  · cases type <;> decide
  · exact List.all_eq_true.1 chars

theorem isOperand_number (value : Number) : IsOperand value.text (.number value.text) := by
  have word : ofWord value.text = .number value.text := by
    simp [ofWord, Number.isNumeral_text]
  rw [← word]
  apply isOperand_word
  · exact mt String.toList_eq_nil_iff.2 (Number.isNumeral_ne_nil (Number.isNumeral_text value))
  · exact fun _ mem => inWord_of_apart (by decide) (Number.isChar_of_mem_text mem)

theorem isOperand_literal (value : Literal) : IsOperand value.text value.normalForm := by
  cases value with
  | string value => exact isOperand_quote value
  | number value => exact isOperand_number value
  | bool value =>
      have word : ofWord (Literal.bool value).text = .bool value := by cases value <;> rfl
      rw [Literal.normalForm, ← word]
      have chars : (Literal.bool value).text.toList.all inWord = true := by cases value <;> decide
      apply isOperand_word
      · cases value <;> decide
      · exact List.all_eq_true.1 chars
  | null => exact isOperand_primitive .null

-- =========================================================== names

/-- ASCII punctuation, as ranges of code points. -/
def punctuationRanges : List (Nat × Nat) :=
  [(0x21, 0x2F), (0x3A, 0x40), (0x5B, 0x60), (0x7B, 0x7E)]

/-- Whether a character is ASCII punctuation. -/
def isPunctuation (c : Char) : Bool := Text.inRanges punctuationRanges c.toNat

/-- Whether a character is neither blank nor ASCII punctuation other than
the underscore and the dollar sign. -/
def isPlainChar (c : Char) : Bool :=
  ! Text.isBlank c && (! isPunctuation c || c == '_' || c == '$')

/-- A name that cannot be taken for anything else in the text of a type. -/
structure IsPlain (name : String) : Prop where
  nonempty : name ≠ ""
  chars : ∀ c ∈ name.toList, isPlainChar c = true
  start : ∀ c, name.toList.head? = some c → c.isDigit = false
  free : name ∉ ["string", "number", "boolean", "null", "any", "unknown", "true", "false"]

/-- A plain name is no number. -/
theorem IsPlain.isNumeral_eq_false {name : String} (plain : IsPlain name) :
    Number.isNumeral name.toList = false := by
  have start : name.toList.head?.any Char.isDigit = false := by
    cases head : name.toList.head? with
    | none => rfl
    | some c => exact plain.start c head
  have signs : name.toList.any Number.isSign = false := by
    rw [List.any_eq_false]
    intro c mem sign
    have apart : isPlainChar '.' = false ∧ isPlainChar '+' = false ∧ isPlainChar '-' = false := by
      decide
    have char := plain.chars c mem
    simp only [Number.isSign, Bool.or_eq_true, beq_iff_eq] at sign
    rcases sign with (rfl | rfl) | rfl
    · simp [apart] at char
    · simp [apart] at char
    · simp [apart] at char
  rw [Number.isNumeral, start, signs, Bool.or_false]

theorem isOperand_ref {name : String} (plain : IsPlain name) : IsOperand name (.ref name) := by
  have unlisted : keywords.lookup name = none := by
    rw [List.lookup_eq_none_iff]
    intro entry mem
    have listed : entry.1 ∈ keywords.map Prod.fst := List.mem_map_of_mem mem
    have other : name ≠ entry.1 := fun same => plain.free (same ▸ listed)
    simpa using other
  have word : ofWord name = .ref name := by
    simp [ofWord, plain.isNumeral_eq_false, unlisted]
  rw [← word]
  refine isOperand_word plain.nonempty fun c mem => ?_
  exact inWord_of_apart (by decide) (plain.chars c mem)

end Emission

-- =========================================================== types

namespace TypeExpr

open Emission

/-- A type whose text tells everything: no union and no intersection in it
is empty, and all names are plain. -/
structure Legible (type : TypeExpr) : Prop where
  alternatives : ¬ Within (.union []) type
  factors : ¬ Within (.intersection []) type
  names : ∀ name, Within (.ref name) type → IsPlain name

/-- What stands in a legible type is legible. -/
theorem Legible.of_within {inner outer : TypeExpr} (legible : Legible outer)
    (lift : ∀ part, Within part inner → Within part outer) : Legible inner where
  alternatives within := legible.alternatives (lift _ within)
  factors within := legible.factors (lift _ within)
  names name within := legible.names name (lift _ within)

/-- The places in which the text of a type is read as its normal form. -/
structure Placed (type : TypeExpr) : Prop where
  operand : type.isCompound = false → IsOperand type.text type.normalForm
  factor : type.isUnion = false → IsPart .amp type.text type.normalForm
  alternative : IsPart .bar type.text type.normalForm

namespace Placed

variable {type : TypeExpr}

theorem of_factor (compound : type.isCompound = true)
    (factor : IsPart .amp type.text type.normalForm) : Placed type where
  operand not := absurd (not.symm.trans compound) (by decide)
  factor _ := factor
  alternative := factor.isAlternative type.flat_normalForm

theorem of_operand (operand : IsOperand type.text type.normalForm) : Placed type where
  operand _ := operand
  factor _ := operand.isFactor
  alternative := operand.isFactor.isAlternative type.flat_normalForm

/-- With the brackets that an array puts around it, a type is an operand. -/
theorem bracket_isCompound (placed : Placed type) :
    IsOperand (bracket type.isCompound type.text) type.normalForm := by
  cases compound : type.isCompound with
  | false => exact placed.operand compound
  | true => exact placed.alternative.bracketed type.flat_normalForm

/-- With the brackets that an intersection puts around it, a type is a
factor. -/
theorem bracket_isUnion (placed : Placed type) :
    IsPart .amp (bracket type.isUnion type.text) type.normalForm := by
  cases union : type.isUnion with
  | false => exact placed.factor union
  | true => exact (placed.alternative.bracketed type.flat_normalForm).isFactor

end Placed

theorem Legible.placed {type : TypeExpr} (legible : Legible type) : Placed type := by
  induction type using TypeExpr.induction with
  | primitive type => exact .of_operand (isOperand_primitive type)
  | literal value => exact .of_operand (isOperand_literal value)
  | ref name => exact .of_operand (isOperand_ref (legible.names name .self))
  | array item ih =>
      have inner := ih (legible.of_within fun _ => .item)
      exact .of_operand inner.bracket_isCompound.array
  | union members ih =>
      have nonempty : members ≠ [] := by
        intro same
        subst same
        exact legible.alternatives .self
      have each (member : TypeExpr) (mem : member ∈ members) : Placed member :=
        ih member mem (legible.of_within fun _ => .alternative mem)
      have whole := isPart_join .bar nonempty (fun member _ => member.flat_normalForm)
        fun member mem => (each member mem).alternative
      rw [← texts_eq_map, ← normalForms_eq_map] at whole
      exact {
        operand not := by simp [isCompound] at not
        factor not := by simp [isUnion] at not
        alternative := whole }
  | intersection members ih =>
      have nonempty : members ≠ [] := by
        intro same
        subst same
        exact legible.factors .self
      have each (member : TypeExpr) (mem : member ∈ members) : Placed member :=
        ih member mem (legible.of_within fun _ => .factor mem)
      have whole := isPart_join .amp nonempty (fun member _ => member.flat_normalForm)
        fun member mem => (each member mem).bracket_isUnion
      rw [← factorTexts_eq_map, ← normalForms_eq_map] at whole
      exact .of_factor rfl whole
  | object shape ihProperties ihIndex =>
      refine .of_operand (isOperand_object fun entry mem => ?_)
      rcases List.mem_append.1 mem with mem | mem
      · obtain ⟨property, inner, rfl⟩ := List.mem_map.1 mem
        exact (ihProperties property inner (legible.of_within fun _ => .property inner)).alternative
      · obtain ⟨type, inner, rfl⟩ := List.mem_map.1 mem
        have given : shape.index = some type := by simpa using inner
        exact (ihIndex type given (legible.of_within fun _ => .index given)).alternative

/-- The text of a legible type is read as its normal form. -/
theorem Legible.reads_text {type : TypeExpr} (legible : Legible type) :
    ∃ frame : Frame, frame.close = type.normalForm ∧ Reads {} type.text.toList ⟨frame, []⟩ := by
  obtain ⟨frame, after, leads⟩ := legible.placed.alternative [] [] []
  refine ⟨frame, close_eq type.flat_normalForm after, ?_⟩
  have reads := leads [] ⟨frame, []⟩ follows_nil .done
  rw [List.append_nil] at reads
  exact reads

/-- Emission is unambiguous: legible types with one text have one normal
form. -/
theorem normalForm_eq_of_text_eq {first second : TypeExpr} (legible : Legible first)
    (legible' : Legible second) (same : first.text = second.text) :
    first.normalForm = second.normalForm := by
  obtain ⟨one, close, reads⟩ := legible.reads_text
  obtain ⟨other, close', reads'⟩ := legible'.reads_text
  rw [same] at reads
  obtain rfl : one = other := congrArg Stack.frame (reads.unique reads')
  exact close.symm.trans close'

-- ---- one text, written for a union and for a union in a union

/-- A list of cats, any of which may be missing. -/
def cats : TypeExpr := .array (.union [.ref "Cat", .literal .null])

/-- The same list, with a union of one cat inside the union. -/
def nestedCats : TypeExpr := .array (.union [.union [.ref "Cat"], .primitive .null])

theorem isPlain_cat : IsPlain "Cat" where
  nonempty := by decide
  chars := by
    have chars : "Cat".toList.all isPlainChar = true := by decide
    exact List.all_eq_true.1 chars
  start c first := by
    cases first
    decide
  free := by decide

theorem legible_cats : Legible cats where
  alternatives := by simp [cats, within_array, within_union, within_ref, within_literal]
  factors := by simp [cats, within_array, within_union, within_ref, within_literal]
  names name within := by
    obtain rfl : name = "Cat" := by
      simpa [cats, within_array, within_union, within_ref, within_literal] using within
    exact isPlain_cat

theorem legible_nestedCats : Legible nestedCats where
  alternatives := by simp [nestedCats, within_array, within_union, within_ref, within_primitive]
  factors := by simp [nestedCats, within_array, within_union, within_ref, within_primitive]
  names name within := by
    obtain rfl : name = "Cat" := by
      simpa [nestedCats, within_array, within_union, within_ref, within_primitive] using within
    exact isPlain_cat

theorem text_cats : cats.text = "(Cat | null)[]" := by decide

theorem text_nestedCats : nestedCats.text = "(Cat | null)[]" := by decide

theorem normalForm_cats :
    cats.Legible ∧ nestedCats.Legible ∧ cats.text = nestedCats.text
      ∧ cats.normalForm = nestedCats.normalForm :=
  ⟨legible_cats, legible_nestedCats, text_cats.trans text_nestedCats.symm,
    normalForm_eq_of_text_eq legible_cats legible_nestedCats
      (text_cats.trans text_nestedCats.symm)⟩

end TypeExpr

end OpenApiTypes
