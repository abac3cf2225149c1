/-
Cutting a YAML text into tokens. What makes this more than a walk over the
text is that a key shows only at its colon: up to there it is a possible
key, one for each flow collection around it, and at the colon the tokens for
the key, and for the mapping that it may start, are put in before it. A
possible key ends with its line and after 1024 characters.

Outside of flow collections the indents open and close block collections. A
stack holds the columns of the open ones.
-/
import OpenApiTypes.Yaml.Token.Property

namespace OpenApiTypes.Yaml

/-- Where a key may have started: the number of tokens before it, and its
place. It is required where nothing but a key can stand. -/
structure PossibleKey where
  required : Bool
  token : Nat
  start : Cursor

/-- A scan under way. -/
structure Scan where
  cursor : Cursor
  tokens : Array Token := #[]
  /-- The column of the innermost block collection, or -1. -/
  indent : Int := -1
  /-- The columns of the block collections around it. -/
  outer : List Int := []
  /-- The number of open flow collections. -/
  flow : Nat := 0
  /-- Whether a key may start at the next token. -/
  keyAllowed : Bool := true
  /-- The possible key of each level, the innermost first. -/
  keys : List (Option PossibleKey) := [none]

namespace Scan

/-- Whether the scan is inside a flow collection. -/
def inFlow (scan : Scan) : Bool := 0 < scan.flow

/-- Adds a token. -/
def push (scan : Scan) (token : Token) : Scan :=
  { scan with tokens := scan.tokens.push token }

/-- Adds a token that some characters of one line are. -/
def indicator (scan : Scan) (token : Token) (count : Nat) : Scan :=
  { scan.push token with cursor := scan.cursor.skip count }

-- ================================================== possible keys

/-- Gives up the possible key of the innermost level. A required one cannot
be given up. -/
def dropKey (scan : Scan) : Option Scan :=
  match scan.keys with
  | some key :: rest =>
      if key.required then none else some { scan with keys := none :: rest }
  | _ => some scan

/-- Notes that a key may start here, if one is allowed. -/
def noteKey (scan : Scan) : Option Scan :=
  if scan.keyAllowed then do
    let required := ! scan.inFlow && scan.indent == scan.cursor.column
    let scan ← scan.dropKey
    let key : PossibleKey := ⟨required, scan.tokens.size, scan.cursor⟩
    some { scan with keys := some key :: scan.keys.drop 1 }
  else some scan

/-- Whether a possible key is too far away from the cursor. -/
def isStale (scan : Scan) (key : PossibleKey) : Bool :=
  key.start.line < scan.cursor.line || key.start.index + 1024 < scan.cursor.index

/-- Gives up the possible keys that are too far away. -/
def dropStaleKeys (scan : Scan) : Option Scan := do
  let keys ← scan.keys.mapM fun
    | some key =>
        if ! scan.isStale key then some (some key)
        else if key.required then none
        else some none
    | none => some none
  some { scan with keys }

-- ========================================================== indents

/-- Opens a block collection at a column if it is further in than the
innermost one. Its token stands before the token with the given number. -/
def openBlock (scan : Scan) (column : Nat) (token : Token) (number : Nat) : Scan :=
  if scan.inFlow || column ≤ scan.indent then scan
  else
    { scan with
      outer := scan.indent :: scan.outer
      indent := column
      tokens := scan.tokens.insertIdxIfInBounds number token }

/-- Closes the block collections that are further in than a column. -/
def closeBlocks (column : Int) (scan : Scan) : Scan :=
  if scan.inFlow then scan
  else
    let columns := scan.indent :: scan.outer
    let closed := columns.takeWhile (column < ·)
    let left := columns.dropWhile (column < ·)
    { scan with
      tokens := scan.tokens ++ (closed.map fun _ => Token.blockEnd).toArray
      indent := left.headD (-1)
      outer := left.drop 1 }

-- =========================================================== tokens

/-- Moves over blanks, comments and line ends to the next token. Outside of
flow collections a line end allows a key, and where a key is allowed a tab
is not blank. -/
def toToken (scan : Scan) : Nat → Scan
  | 0 => scan
  | bound + 1 =>
      let tabs := scan.inFlow || ! scan.keyAllowed
      let cursor := if scan.cursor.index = 0 && scan.cursor.looksAt '\ufeff' then scan.cursor.skip 1
        else scan.cursor
      let cursor := (cursor.skipWhile fun c => c == ' ' || (tabs && c == '\t')).skipComment
      if cursor.rest.head?.any isBreak then
        toToken { scan with
          cursor := cursor.skipBreak
          keyAllowed := scan.keyAllowed || ! scan.inFlow } bound
      else { scan with cursor }

/-- Leaves all blocks, before something that concerns the whole document. -/
def leaveAll (scan : Scan) : Option Scan := do
  let scan ← (scan.closeBlocks (-1)).dropKey
  some { scan with keyAllowed := false }

/-- The mark at the start or the end of a document. -/
def documentMark (scan : Scan) (token : Token) : Option Scan := do
  some ((← scan.leaveAll).indicator token 3)

/-- A directive. -/
def directive (scan : Scan) : Option Scan := do
  let scan ← scan.leaveAll
  let (token, cursor) ← directiveToken scan.cursor
  some { scan.push token with cursor }

/-- The start of a flow collection, which may itself be a key. -/
def flowStart (scan : Scan) (token : Token) : Option Scan := do
  let scan ← scan.noteKey
  some ({ scan with keys := none :: scan.keys, flow := scan.flow + 1, keyAllowed := true }.indicator
    token 1)

/-- The end of a flow collection. -/
def flowEnd (scan : Scan) (token : Token) : Option Scan := do
  let scan ← scan.dropKey
  let scan :=
    if scan.inFlow then { scan with keys := scan.keys.drop 1, flow := scan.flow - 1 } else scan
  some ({ scan with keyAllowed := false }.indicator token 1)

/-- A comma of a flow collection. -/
def flowEntry (scan : Scan) : Option Scan := do
  let scan ← scan.dropKey
  some ({ scan with keyAllowed := true }.indicator .flowEntry 1)

/-- Opens a block collection at the cursor, where that is allowed. -/
def openHere (scan : Scan) (token : Token) : Option Scan :=
  if scan.inFlow then some scan
  else if scan.keyAllowed then
    some (scan.openBlock scan.cursor.column token scan.tokens.size)
  else none

/-- The dash of a block sequence. -/
def blockEntry (scan : Scan) : Option Scan := do
  let scan ← (← scan.openHere .blockSequenceStart).dropKey
  some ({ scan with keyAllowed := true }.indicator .blockEntry 1)

/-- The question mark before a key. -/
def explicitKey (scan : Scan) : Option Scan := do
  let scan ← (← scan.openHere .blockMappingStart).dropKey
  some ({ scan with keyAllowed := ! scan.inFlow }.indicator .key 1)

/-- The colon before a value. -/
def value (scan : Scan) : Option Scan := do
  match scan.keys with
  | some key :: rest =>
      let tokens := scan.tokens.insertIdxIfInBounds key.token .key
      let scan := { scan with tokens, keys := none :: rest, keyAllowed := false }
      some ((scan.openBlock key.start.column .blockMappingStart key.token).indicator .value 1)
  | _ =>
      let scan ← scan.openHere .blockMappingStart
      some ({ scan with keyAllowed := ! scan.inFlow }.indicator .value 1)

/-- A token that may be a key. -/
def keyLike (scan : Scan) (read : Cursor → Option (Token × Cursor)) : Option Scan := do
  let scan ← scan.noteKey
  let (token, cursor) ← read scan.cursor
  some { scan.push token with cursor, keyAllowed := false }

/-- A scalar in quotes. -/
def quoted (scan : Scan) (single : Bool) : Option Scan :=
  scan.keyLike fun cursor => do
    let (text, cursor) ← quotedScalar single cursor
    let style := if single then Style.singleQuoted else .doubleQuoted
    some (.scalar style (String.ofList text), cursor)

/-- A block scalar. -/
def block (scan : Scan) (folded : Bool) : Option Scan := do
  let scan ← scan.dropKey
  let (text, cursor) ← blockScalar folded scan.indent scan.cursor
  let style := if folded then Style.folded else .literal
  some { scan.push (.scalar style (String.ofList text)) with cursor, keyAllowed := true }

/-- A plain scalar. A line end after it allows a key again. -/
def plain (scan : Scan) : Option Scan := do
  let scan ← scan.noteKey
  let ⟨text, broken, cursor⟩ ← plainScalar scan.inFlow scan.indent scan.cursor
  some { scan.push (.scalar .plain (String.ofList text)) with cursor, keyAllowed := broken }

/-- Whether a plain scalar may start here. A few indicators start one if
what follows keeps them from being an indicator. -/
def startsPlain (flow : Bool) (cs : List Char) : Bool :=
  match cs with
  | [] => false
  | c :: rest =>
      if c == '-' then ! rest.head?.any isBlank
      else if c == '?' || c == ':' then ! flow && ! atGap rest
      else
        ! (isBlank c || isBreak c || isFlowIndicator c || c == '#' || c == '&' || c == '*'
          || c == '!' || c == '|' || c == '>' || c == '\'' || c == '"' || c == '%' || c == '@'
          || c == '\x60')

/-- The token at the cursor. -/
def next (scan : Scan) : Option Scan :=
  let cursor := scan.cursor
  let flow := scan.inFlow
  if cursor.column == 0 && cursor.looksAt '%' then scan.directive
  else if cursor.looksAtMark '-' then scan.documentMark .documentStart
  else if cursor.looksAtMark '.' then scan.documentMark .documentEnd
  else
    match cursor.rest with
    | [] => none
    | c :: rest =>
        if c == '[' then scan.flowStart .flowSequenceStart
        else if c == '\x7b' then scan.flowStart .flowMappingStart
        else if c == ']' then scan.flowEnd .flowSequenceEnd
        else if c == '\x7d' then scan.flowEnd .flowMappingEnd
        else if c == ',' then scan.flowEntry
        else if c == '-' && atGap rest then scan.blockEntry
        else if c == '?' && (flow || atGap rest) then scan.explicitKey
        else if c == ':' && (flow || atGap rest) then scan.value
        else if c == '*' then
          scan.keyLike fun cursor => (anchorName cursor).map fun (name, c) => (.aliasOf name, c)
        else if c == '&' then
          scan.keyLike fun cursor => (anchorName cursor).map fun (name, c) => (.anchor name, c)
        else if c == '!' then scan.keyLike (tagToken flow)
        else if c == '|' && ! flow then scan.block false
        else if c == '>' && ! flow then scan.block true
        else if c == '\'' then scan.quoted true
        else if c == '"' then scan.quoted false
        else if startsPlain flow (c :: rest) then scan.plain
        else none

/-- Scans on to the end of the text. Each token takes at least one
character, so the bound is never met before the end. -/
def run (scan : Scan) : Nat → Option (List Token)
  | 0 => none
  | bound + 1 => do
      let scan ← (scan.toToken (scan.cursor.left + 1)).dropStaleKeys
      let scan := scan.closeBlocks scan.cursor.column
      if scan.cursor.rest.isEmpty then
        let scan ← (scan.closeBlocks (-1)).dropKey
        some scan.tokens.toList
      else run (← scan.next) bound

end Scan

/-- Whether a character may stand in a YAML text at all. -/
def isAllowed (c : Char) : Bool :=
  c == '\t' || c == '\n' || c == '\r' || c == '\x85' || (0x20 ≤ c.toNat && c.toNat ≤ 0x7E)
    || (0xA0 ≤ c.toNat && c.toNat ≤ 0xFFFD) || 0x10000 ≤ c.toNat

/-- The tokens of a text. A byte-order mark before it does not count. -/
def Token.ofText? (text : String) : Option (List Token) :=
  let cs :=
    match text.toList with
    | '\ufeff' :: rest => rest
    | cs => cs
  if cs.all isAllowed then
    let scan : Scan := { cursor := .start cs }
    scan.run (scan.cursor.left + 1)
  else none

end OpenApiTypes.Yaml
