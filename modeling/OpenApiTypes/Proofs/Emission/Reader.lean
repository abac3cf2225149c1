/-
A reader of emitted types. It takes the text apart from the left, one token
at a time, and keeps what it has read as a stack: the innermost frame holds
the members read so far, and around it stand the brackets and objects that
are still open. The next token and what it does to the stack are functions
of the text and the stack, so a text has at most one reading.

Blanks belong to the tokens they are written with, and a token is told from
its first characters alone, except that a word or a quoted text is a key if
a colon follows it.
-/
import OpenApiTypes.Proofs.Emission.NormalForm
import OpenApiTypes.Proofs.Emission.Characters

namespace OpenApiTypes.Emission

-- ========================================================== tokens

/-- The tokens of the text of a type. -/
inductive Token where
  | word (text : String)
  | quoted (value : String)
  | key (name : String) (optional : Bool)
  | otherKeys
  | sign (sign : Sign)
  | opening
  | closing
  | brackets
  | emptyObject
  | objectStart
  | objectEnd
  | semicolon

/-- The characters that no word holds. -/
def delimiters : List Char :=
  [' ', '"', '(', ')', ':', ';', '?', '[', ']', '\x7b', '\x7d', '|', '&']

/-- Whether a character may stand in a word. -/
def inWord (c : Char) : Bool := ! delimiters.contains c

/-- A class of characters without delimiters stands in words. -/
theorem inWord_of_apart {p : Char → Bool} (apart : delimiters.any p = false) {c : Char}
    (holds : p c = true) : inWord c = true := by
  cases outside : inWord c with
  | true => rfl
  | false =>
      have mem : c ∈ delimiters := by simpa [inWord] using outside
      exact absurd holds (List.any_eq_false.1 apart c mem)

/-- The text that the body of a literal denotes, up to its closing quote,
and what follows it. -/
def unquote : List Char → List Char × List Char
  | [] => ([], [])
  | '"' :: rest => ([], rest)
  | '\\' :: 'n' :: rest => ('\n' :: (unquote rest).1, (unquote rest).2)
  | '\\' :: 'r' :: rest => ('\r' :: (unquote rest).1, (unquote rest).2)
  | '\\' :: c :: rest => (c :: (unquote rest).1, (unquote rest).2)
  | c :: rest => (c :: (unquote rest).1, (unquote rest).2)

/-- The token that a name is in front of a text: a key if a colon follows,
after a question mark or not. -/
def named (plain : Token) (name : String) : List Char → Token × List Char
  | ':' :: ' ' :: rest => (.key name false, rest)
  | '?' :: ':' :: ' ' :: rest => (.key name true, rest)
  | rest => (plain, rest)

/-- The first token of a text that starts with a delimiter. -/
def delimited : List Char → Option (Token × List Char)
  | ' ' :: '|' :: ' ' :: rest => some (.sign .bar, rest)
  | ' ' :: '&' :: ' ' :: rest => some (.sign .amp, rest)
  | ' ' :: '\x7d' :: rest => some (.objectEnd, rest)
  | ';' :: ' ' :: rest => some (.semicolon, rest)
  | '(' :: rest => some (.opening, rest)
  | ')' :: rest => some (.closing, rest)
  | '\x7b' :: '\x7d' :: rest => some (.emptyObject, rest)
  | '\x7b' :: ' ' :: rest => some (.objectStart, rest)
  | '[' :: ']' :: rest => some (.brackets, rest)
  | '[' :: rest => some (.otherKeys, rest.drop "key: string]: ".length)
  | '"' :: rest =>
      let value := String.ofList (unquote rest).1
      some (named (.quoted value) value (unquote rest).2)
  | _ => none

/-- The first token of a text, and what follows it. -/
def next : List Char → Option (Token × List Char)
  | [] => none
  | c :: rest =>
      if inWord c then
        let word := String.ofList ((c :: rest).takeWhile inWord)
        some (named (.word word) word ((c :: rest).dropWhile inWord))
      else delimited (c :: rest)

-- =========================================================== stack

/-- The words that are no names of declared types. -/
def keywords : List (String × NormalForm) :=
  [("string", .primitive .string), ("number", .primitive .number),
    ("boolean", .primitive .boolean), ("null", .primitive .null), ("any", .primitive .any),
    ("unknown", .primitive .unknown), ("true", .bool true), ("false", .bool false)]

/-- What a word stands for. -/
def ofWord (word : String) : NormalForm :=
  if Number.isNumeral word.toList then .number word
  else (keywords.lookup word).getD (.ref word)

/-- The members read so far: those before the last bar, and in the member
after it those before the last ampersand, and the one after that. -/
structure Frame where
  alternatives : List NormalForm := []
  factors : List NormalForm := []
  operand : Option NormalForm := none

namespace Frame

/-- The factors of the last alternative. -/
def current (frame : Frame) : List NormalForm :=
  frame.factors ++ frame.operand.toList.flatMap (NormalForm.parts .amp)

/-- All alternatives. -/
def members (frame : Frame) : List NormalForm :=
  frame.alternatives ++ (NormalForm.collapse .amp frame.current).parts .bar

/-- What the frame stands for when nothing more is read into it. -/
def close (frame : Frame) : NormalForm := NormalForm.collapse .bar frame.members

/-- The frame after a sign, which ends a member of the join by it. -/
def after (frame : Frame) : Sign → Frame
  | .bar => { alternatives := frame.members }
  | .amp => { alternatives := frame.alternatives, factors := frame.current }

/-- The frame with an operand. -/
def put (frame : Frame) (form : NormalForm) : Frame := { frame with operand := some form }

end Frame

/-- What an entry of an object is for. -/
inductive Entry where
  | property (name : String) (optional : Bool)
  | otherKeys

/-- An object type with one more entry. -/
def addEntry (shape : ObjectShape NormalForm) (entry : Option Entry) (type : NormalForm) :
    ObjectShape NormalForm :=
  match entry with
  | some (.property name optional) =>
      { shape with properties := shape.properties ++ [{ name, type, optional }] }
  | some .otherKeys => { shape with index := some type }
  | none => shape

/-- What is open around a frame, with the frame around that: a bracket, or
an object with the entries already read and the one that the frame is for. -/
inductive Around where
  | bracket (outer : Frame)
  | object (outer : Frame) (shape : ObjectShape NormalForm) (entry : Option Entry)

/-- What has been read: the innermost frame, and what is open around it,
from the inside. -/
structure Stack where
  frame : Frame := {}
  outer : List Around := []

namespace Stack

/-- The stack with an operand in its innermost frame. -/
def put (stack : Stack) (form : NormalForm) : Stack :=
  { stack with frame := stack.frame.put form }

/-- What a token does to the stack. A token that nothing is open for does
nothing. -/
def step (stack : Stack) : Token → Stack
  | .word text => stack.put (ofWord text)
  | .quoted value => stack.put (.string value)
  | .emptyObject => stack.put (.object {})
  | .sign sign => { stack with frame := stack.frame.after sign }
  | .brackets =>
      { stack with frame := { stack.frame with operand := stack.frame.operand.map .array } }
  | .opening => ⟨{}, .bracket stack.frame :: stack.outer⟩
  | .objectStart => ⟨{}, .object stack.frame {} none :: stack.outer⟩
  | .closing =>
      match stack.outer with
      | .bracket frame :: outer => ⟨frame.put stack.frame.close, outer⟩
      | _ => stack
  | .key name optional =>
      match stack.outer with
      | .object frame shape _ :: outer =>
          ⟨{}, .object frame shape (some (.property name optional)) :: outer⟩
      | _ => stack
  | .otherKeys =>
      match stack.outer with
      | .object frame shape _ :: outer => ⟨{}, .object frame shape (some .otherKeys) :: outer⟩
      | _ => stack
  | .semicolon =>
      match stack.outer with
      | .object frame shape entry :: outer =>
          ⟨{}, .object frame (addEntry shape entry stack.frame.close) none :: outer⟩
      | _ => stack
  | .objectEnd =>
      match stack.outer with
      | .object frame shape entry :: outer =>
          ⟨frame.put (.object (addEntry shape entry stack.frame.close)), outer⟩
      | _ => stack

end Stack

/-- Reading a text to its end leads from one stack to another. -/
inductive Reads : Stack → List Char → Stack → Prop where
  | done {stack : Stack} : Reads stack [] stack
  | token {stack final : Stack} {cs rest : List Char} {token : Token}
      (first : next cs = some (token, rest)) (reads : Reads (stack.step token) rest final) :
      Reads stack cs final

/-- A text has one reading. -/
theorem Reads.unique {stack first second : Stack} {cs : List Char}
    (one : Reads stack cs first) (other : Reads stack cs second) : first = second := by
  induction one with
  | done =>
      cases other with
      | done => rfl
      | token empty => simp [next] at empty
  | token first reads ih =>
      cases other with
      | done => simp [next] at first
      | token again others =>
          obtain ⟨rfl, rfl⟩ := Prod.mk.inj (Option.some.inj (first.symm.trans again))
          exact ih others

-- ================================================= tokens are found

/-- What may follow a type: nothing, or a delimiter that does not make a key
of it. -/
def Follows (rest : List Char) : Prop := ∀ c, rest.head? = some c → c ∈ [' ', ')', ';', '[']

theorem follows_nil : Follows [] := by simp [Follows]

theorem follows_cons {c : Char} {rest : List Char} (mem : c ∈ [' ', ')', ';', '[']) :
    Follows (c :: rest) := by
  intro first head
  cases head
  exact mem

/-- A name that nothing makes a key of is not one. -/
theorem named_of_follows {plain : Token} {name : String} {rest : List Char}
    (follows : Follows rest) : named plain name rest = (plain, rest) := by
  unfold named
  split
  · exact absurd (follows _ rfl) (by decide)
  · exact absurd (follows _ rfl) (by decide)
  · rfl

theorem named_key {plain : Token} {name : String} {optional : Bool} {rest : List Char} :
    named plain name ((if optional then "?" else "").toList ++ ": ".toList ++ rest)
      = (.key name optional, rest) := by
  cases optional <;> rfl

theorem unquote_escapeChar (c : Char) (rest : List Char) :
    unquote (Text.escapeChar c ++ rest) = (c :: (unquote rest).1, (unquote rest).2) := by
  unfold Text.escapeChar
  split
  · next same => simp [same, unquote]
  · split
    · next same => simp [same, unquote]
    · split
      · next same => simp [same, unquote]
      · split
        · next same => simp [same, unquote]
        · next backslash _ _ _ => simp [unquote, backslash]

/-- A literal is read back, up to its closing quote. -/
theorem unquote_escape (value rest : List Char) :
    unquote (value.flatMap Text.escapeChar ++ '"' :: rest) = (value, rest) := by
  induction value with
  | nil => simp [unquote]
  | cons c value ih => rw [List.flatMap_cons, List.append_assoc, unquote_escapeChar, ih]

theorem next_quote (value : String) (rest : List Char) :
    next ((Text.quote value).toList ++ rest) = some (named (.quoted value) value rest) := by
  have chars : (Text.quote value).toList ++ rest
      = '"' :: (value.toList.flatMap Text.escapeChar ++ '"' :: rest) := by
    simp [Text.quote, Text.escape]
  have quote : inWord '"' = false := by decide
  rw [chars, next, quote]
  simp [delimited, unquote_escape]

/-- A word is read up to the first delimiter. -/
theorem next_word {word : String} {rest : List Char} (nonempty : word ≠ "")
    (chars : ∀ c ∈ word.toList, inWord c = true)
    (ends : ∀ c, rest.head? = some c → inWord c = false) :
    next (word.toList ++ rest) = some (named (.word word) word rest) := by
  have taken : (word.toList ++ rest).takeWhile inWord = word.toList := by
    rw [List.takeWhile_append_of_pos chars]
    cases rest with
    | nil => simp
    | cons c rest => simp [ends c rfl]
  have dropped : (word.toList ++ rest).dropWhile inWord = rest := by
    rw [List.dropWhile_append_of_pos chars]
    cases rest with
    | nil => rfl
    | cons c rest => simp [ends c rfl]
  obtain ⟨c, cs, split⟩ := List.exists_cons_of_ne_nil (mt String.toList_eq_nil_iff.1 nonempty)
  have first : inWord c = true := chars c (by simp [split])
  have word' : (c :: (cs ++ rest)) = word.toList ++ rest := by simp [split]
  rw [split, List.cons_append, next, if_pos first, word', taken, dropped, String.ofList_toList]

end OpenApiTypes.Emission
