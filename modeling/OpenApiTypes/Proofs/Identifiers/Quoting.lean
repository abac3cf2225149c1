/-
Texts in quotes, and names that stand without them. Four characters are
written between quotes as a backslash and a mark (`marks`). Replacing them
one after the other, the backslash first, comes to the same as replacing
them all at once (`escape_eq_replaced`), since no mark that is brought in is
replaced later. What is written so denotes the text, and nothing else does
(`unescape_eq_some_iff`); a quote of the text never stands without its
backslash, nor the closing one with one, so that a literal ends where it was
closed (`scanBody_escape`).

A key in quotes starts with a quote and one without them does not, since it
is an identifier. So a key tells which of the two it is, and gives its name
back (`nameOfKey_quoteIfNeeded`).
-/
import Mathlib.Data.List.Basic
import OpenApiTypes.TypeExpr.Text

namespace OpenApiTypes

namespace Text

-- ==================================================== characters

/-- The characters that cannot stand between quotes, each with what is
written for it after a backslash. -/
def marks : List (Char × Char) := [('\\', '\\'), ('"', '"'), ('\n', 'n'), ('\r', 'r')]

/-- Whether a character stands for itself between quotes. -/
def Plain (c : Char) : Prop := c ∉ marks.map Prod.fst

theorem marked_or_plain (c : Char) : (∃ mark, (c, mark) ∈ marks) ∨ Plain c := by
  by_cases listed : c ∈ marks.map Prod.fst
  · obtain ⟨⟨_, mark⟩, mem, rfl⟩ := List.mem_map.1 listed
    exact .inl ⟨mark, mem⟩
  · exact .inr listed

theorem plain_iff {c : Char} : Plain c ↔ c ≠ '\\' ∧ c ≠ '"' ∧ c ≠ '\n' ∧ c ≠ '\r' := by
  simp [Plain, marks]

theorem escapeChar_marked {c mark : Char} (listed : (c, mark) ∈ marks) :
    escapeChar c = ['\\', mark] := by
  have table : ∀ entry ∈ marks, escapeChar entry.1 = ['\\', entry.2] := by decide
  exact table (c, mark) listed

theorem escapeChar_plain {c : Char} (plain : Plain c) : escapeChar c = [c] := by
  obtain ⟨backslash, quote, newline, return'⟩ := plain_iff.1 plain
  rw [escapeChar, if_neg backslash, if_neg quote, if_neg newline, if_neg return']

theorem toList_escape (text : String) : (escape text).toList = text.toList.flatMap escapeChar := by
  rw [escape, String.toList_ofList]

-- ===================================================== replacing

/-- A text with each occurrence of a character replaced by a backslash and a
mark. -/
def replaceChar (text : List Char) (entry : Char × Char) : List Char :=
  text.flatMap fun c => if c = entry.1 then ['\\', entry.2] else [c]

/-- Replacing works character by character, also several times. -/
theorem foldl_replaceChar (table : List (Char × Char)) (text : List Char) :
    table.foldl replaceChar text = text.flatMap fun c => table.foldl replaceChar [c] := by
  induction table generalizing text with
  | nil => simp
  | cons entry table ih =>
      rw [List.foldl_cons, ih, replaceChar, List.flatMap_assoc]
      refine List.flatMap_congr fun c _ => ?_
      rw [List.foldl_cons, ih (replaceChar [c] entry), replaceChar, List.flatMap_singleton]

/-- Escaping replaces the four characters one after the other, backslashes
before those that the other marks bring. -/
theorem escape_eq_replaced (text : String) :
    (escape text).toList = marks.foldl replaceChar text.toList := by
  rw [toList_escape, foldl_replaceChar]
  refine List.flatMap_congr fun c _ => ?_
  rcases marked_or_plain c with ⟨mark, listed⟩ | plain
  · have table : ∀ entry ∈ marks, ['\\', entry.2] = marks.foldl replaceChar [entry.1] := by
      decide
    rw [escapeChar_marked listed]
    exact table (c, mark) listed
  · obtain ⟨backslash, quote, newline, return'⟩ := plain_iff.1 plain
    simp [escapeChar_plain plain, marks, replaceChar, backslash, quote, newline, return']

/-- The other way round, the backslash of a mark would be replaced as well. -/
example : marks.reverse.foldl replaceChar ['\n'] = ['\\', '\\', 'n'] := by decide

-- ======================================================= reading

theorem unescape_marked {c mark : Char} (listed : (c, mark) ∈ marks) (rest : List Char) :
    unescape ('\\' :: mark :: rest) = (unescape rest).map (c :: ·) := by
  simp only [marks, List.mem_cons, Prod.mk.injEq, List.not_mem_nil, or_false] at listed
  obtain ⟨rfl, rfl⟩ | ⟨rfl, rfl⟩ | ⟨rfl, rfl⟩ | ⟨rfl, rfl⟩ := listed
  · rfl
  · rfl
  · rfl
  · rfl

theorem unescape_plain {c : Char} (plain : Plain c) (rest : List Char) :
    unescape (c :: rest) = (unescape rest).map (c :: ·) := by
  obtain ⟨backslash, quote, newline, return'⟩ := plain_iff.1 plain
  have free : ¬(c = '\\' ∨ c = '"' ∨ c = '\n' ∨ c = '\r') := by
    simp [backslash, quote, newline, return']
  rw [unescape, if_neg free]
  all_goals simp [backslash]

/-- The body that is written for a text denotes it. -/
theorem unescape_escape (text : List Char) : unescape (text.flatMap escapeChar) = some text := by
  induction text with
  | nil => rfl
  | cons c text ih =>
      rw [List.flatMap_cons]
      rcases marked_or_plain c with ⟨mark, listed⟩ | plain
      · rw [escapeChar_marked listed, List.cons_append, List.singleton_append,
          unescape_marked listed, ih, Option.map_some]
      · rw [escapeChar_plain plain, List.singleton_append, unescape_plain plain, ih,
          Option.map_some]

/-- A body that denotes a text is the one written for it. -/
theorem eq_of_unescape {body text : List Char} (read : unescape body = some text) :
    body = text.flatMap escapeChar := by
  -- The four cases of a backslash differ in the mark after it only.
  have marked {c mark : Char} {rest text : List Char} (listed : (c, mark) ∈ marks)
      (ih : ∀ {text}, unescape rest = some text → rest = text.flatMap escapeChar)
      (read : (unescape rest).map (c :: ·) = some text) :
      '\\' :: mark :: rest = text.flatMap escapeChar := by
    obtain ⟨more, found, rfl⟩ := Option.map_eq_some_iff.1 read
    rw [List.flatMap_cons, escapeChar_marked listed, ← ih found]
    rfl
  fun_induction unescape body generalizing text with
  | case1 =>
      cases read
      rfl
  | case2 rest ih => exact marked (by decide) ih read
  | case3 rest ih => exact marked (by decide) ih read
  | case4 rest ih => exact marked (by decide) ih read
  | case5 rest ih => exact marked (by decide) ih read
  | case6 => cases read
  | case7 c rest _ _ _ _ free ih =>
      have plain : Plain c := plain_iff.2 (by simpa using free)
      obtain ⟨more, found, rfl⟩ := Option.map_eq_some_iff.1 read
      rw [List.flatMap_cons, escapeChar_plain plain, ← ih found]
      rfl

/-- A body denotes a text exactly if it is the one written for it. -/
theorem unescape_eq_some_iff {body : List Char} {text : String} :
    unescape body = some text.toList ↔ body = (escape text).toList := by
  rw [toList_escape]
  constructor
  · exact eq_of_unescape
  · intro same
    rw [same, unescape_escape]

/-- No line ends within a body. -/
theorem lineEnd_notMem_escape {text : String} {c : Char} (lineEnd : c = '\n' ∨ c = '\r') :
    c ∉ (escape text).toList := by
  rw [toList_escape, List.mem_flatMap]
  intro h
  obtain ⟨d, -, mem⟩ := h
  rcases marked_or_plain d with ⟨mark, listed⟩ | plain
  · have table : ∀ entry ∈ marks, '\n' ∉ ['\\', entry.2] ∧ '\r' ∉ ['\\', entry.2] := by decide
    rw [escapeChar_marked listed] at mem
    rcases lineEnd with rfl | rfl
    · exact (table _ listed).1 mem
    · exact (table _ listed).2 mem
  · rw [escapeChar_plain plain, List.mem_singleton] at mem
    obtain ⟨-, -, newline, return'⟩ := plain_iff.1 plain
    rcases lineEnd with rfl | rfl
    · exact newline mem.symm
    · exact return' mem.symm

-- ====================================================== literals

/-- The body of a literal whose opening quote has been read, and what follows
the quote that ends it: the first one that does not come after a backslash,
where a backslash takes the next character to itself. A line end breaks the
literal off. -/
def scanBody : List Char → Option (List Char × List Char)
  | [] => none
  | '"' :: rest => some ([], rest)
  | '\n' :: _ => none
  | '\r' :: _ => none
  | '\\' :: c :: rest => (scanBody rest).map fun found => ('\\' :: c :: found.1, found.2)
  | c :: rest => (scanBody rest).map fun found => (c :: found.1, found.2)

theorem scanBody_plain {c : Char} (plain : Plain c) (rest : List Char) :
    scanBody (c :: rest) = (scanBody rest).map fun found => (c :: found.1, found.2) := by
  obtain ⟨backslash, quote, newline, return'⟩ := plain_iff.1 plain
  rw [scanBody]
  · exact quote
  · exact newline
  · exact return'
  · simp [backslash]

/-- The quote after an escaped body is the one that ends the literal. -/
theorem scanBody_escape (text rest : List Char) :
    scanBody (text.flatMap escapeChar ++ '"' :: rest)
      = some (text.flatMap escapeChar, rest) := by
  induction text with
  | nil => rfl
  | cons c text ih =>
      rw [List.flatMap_cons, List.append_assoc]
      rcases marked_or_plain c with ⟨mark, listed⟩ | plain
      · rw [escapeChar_marked listed, List.cons_append, List.singleton_append, scanBody, ih]
        rfl
      · rw [escapeChar_plain plain, List.singleton_append, scanBody_plain plain, ih]
        rfl

/-- The text that the literal in front denotes, and what follows it. -/
def readLiteral : List Char → Option (List Char × List Char)
  | '"' :: rest => do
      let (body, after) ← scanBody rest
      let text ← unescape body
      return (text, after)
  | _ => none

theorem readLiteral_quote (text : String) (rest : List Char) :
    readLiteral ((quote text).toList ++ rest) = some (text.toList, rest) := by
  have chars : (quote text).toList ++ rest
      = '"' :: (text.toList.flatMap escapeChar ++ '"' :: rest) := by
    simp [quote, escape]
  rw [chars, readLiteral, scanBody_escape]
  simp [unescape_escape]

end Text

namespace Identifier

-- =========================================================== keys

/-- The name that a key stands for: the text that it denotes as a literal, or
the key itself if that is an identifier. -/
def nameOfKey (key : List Char) : Option (List Char) :=
  match Text.readLiteral key with
  | some (name, []) => some name
  | _ => if isIdentifier key then some key else none

theorem readLiteral_of_isIdentifier {key : List Char} (bare : isIdentifier key = true) :
    Text.readLiteral key = none := by
  cases key with
  | nil => rfl
  | cons c rest =>
      have start : isStart c = true := (Bool.and_eq_true_iff.1 bare).1
      unfold Text.readLiteral
      split
      · next same =>
        obtain ⟨rfl, -⟩ := List.cons.inj same
        exact absurd start (by decide)
      · rfl

/-- A key gives its name back, in quotes or not. -/
theorem nameOfKey_quoteIfNeeded (name : String) :
    nameOfKey (quoteIfNeeded name).toList = some name.toList := by
  unfold quoteIfNeeded
  split
  · next bare => rw [nameOfKey, readLiteral_of_isIdentifier bare, if_pos bare]
  · have read := Text.readLiteral_quote name []
    rw [List.append_nil] at read
    rw [nameOfKey, read]

/-- Names stay different when those that need it are put in quotes. -/
theorem quoteIfNeeded_injective {first second : String}
    (same : quoteIfNeeded first = quoteIfNeeded second) : first = second := by
  have read := nameOfKey_quoteIfNeeded first
  rw [same, nameOfKey_quoteIfNeeded, Option.some.injEq] at read
  exact String.toList_injective read.symm

/-- Escaping and quoting can be undone. The body of a literal, which is made
by four replacements in turn, denotes its text and no other body does; it has
no line end in it, and the literal ends at the quote after it, whatever
follows. Two names are written as one key only if they are one name. -/
theorem quoting_undone (text : String) :
    (Text.escape text).toList = Text.marks.foldl Text.replaceChar text.toList
      ∧ (∀ body, Text.unescape body = some text.toList ↔ body = (Text.escape text).toList)
      ∧ ('\n' ∉ (Text.escape text).toList ∧ '\r' ∉ (Text.escape text).toList)
      ∧ (∀ rest, Text.scanBody ((Text.escape text).toList ++ '"' :: rest)
          = some ((Text.escape text).toList, rest))
      ∧ (∀ rest, Text.readLiteral ((Literal.string text).text.toList ++ rest)
          = some (text.toList, rest))
      ∧ ∀ other, quoteIfNeeded text = quoteIfNeeded other ↔ text = other := by
  refine ⟨Text.escape_eq_replaced text, fun body => Text.unescape_eq_some_iff,
    ⟨Text.lineEnd_notMem_escape (.inl rfl), Text.lineEnd_notMem_escape (.inr rfl)⟩, ?_,
    Text.readLiteral_quote text, fun other => ⟨quoteIfNeeded_injective, ?_⟩⟩
  · intro rest
    rw [Text.toList_escape, Text.scanBody_escape]
  · intro same
    rw [same]

end Identifier

end OpenApiTypes
