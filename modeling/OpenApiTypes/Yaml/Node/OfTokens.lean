/-
From tokens to nodes. A node is an alias, a scalar, or a collection in block
or flow form, with an anchor and a tag before it. Where a node may stand and
none does, it is an empty plain scalar.

An anchor gets a number when its node starts: the number of different names
that anchors had before. Of the nodes that get the same number, the one that
starts last is what aliases with that number stand for.
-/
import OpenApiTypes.Yaml.Node

namespace OpenApiTypes.Yaml

/-- What is known about the anchors met so far. -/
structure Anchors where
  /-- The number of each name, the latest first. -/
  numbers : List (String × Nat) := []
  /-- The number that each anchor got, in order. -/
  given : List Nat := []
  /-- The finished nodes, each by the place of its anchor in that order. -/
  nodes : List (Nat × Node) := []

namespace Anchors

/-- How many different names there are. -/
def nameCount (anchors : Anchors) : Nat := (anchors.numbers.map Prod.fst).eraseDups.length

/-- Notes that the node of an anchor starts, and gives the place of the
anchor. -/
def start (anchors : Anchors) (name : String) : Nat × Anchors :=
  let number := anchors.nameCount
  (anchors.given.length,
    { anchors with
      numbers := (name, number) :: anchors.numbers
      given := anchors.given ++ [number] })

/-- Notes the finished node of an anchor. -/
def finish (anchors : Anchors) (place : Option Nat) (node : Node) : Anchors :=
  match place with
  | some place => { anchors with nodes := (place, node) :: anchors.nodes }
  | none => anchors

/-- The node that aliases with a number stand for. -/
def node? (anchors : Anchors) (number : Nat) : Option Node := do
  let places := (List.range anchors.given.length).filter (anchors.given[·]? == some number)
  anchors.nodes.lookup (← places.getLast?)

end Anchors

-- ============================================================= tags

/-- The meaning that tag handles have in every document. -/
def standardHandles : List (String × String) := [("!", "!"), ("!!", "tag:yaml.org,2002:")]

/-- The full tag of a handle and a suffix. -/
def fullTag? (handles : List (String × String)) (handle suffix : String) : Option String :=
  if handle = "" then some suffix
  else (handles.lookup handle).map (· ++ suffix)

-- ============================================================= nodes

/-- What stands before a node. -/
structure Properties where
  anchor : Option String := none
  tag : Option String := none

/-- The anchor and the tag before a node, in either order. -/
def properties (handles : List (String × String)) :
    List Token → Option (Properties × List Token)
  | .anchor name :: .tag handle suffix :: rest => do
      some (⟨some name, some (← fullTag? handles handle suffix)⟩, rest)
  | .tag handle suffix :: .anchor name :: rest => do
      some (⟨some name, some (← fullTag? handles handle suffix)⟩, rest)
  | .anchor name :: rest => some (⟨some name, none⟩, rest)
  | .tag handle suffix :: rest => do
      some (⟨none, some (← fullTag? handles handle suffix)⟩, rest)
  | rest => some ({}, rest)

/-- The node where none stands. -/
def emptyNode : Node := .scalar ⟨none, .plain, ""⟩

/-- What is left after a part has been read: the tokens, and the anchors. -/
structure Left where
  tokens : List Token
  anchors : Anchors

/-- Where a node stands, which tells the tokens that mean that there is
none, and the forms that it may have. -/
inductive Place where
  | root
  | blockItem
  | looseItem
  | blockEntry
  | flowItem
  | flowPairKey
  | flowEntry
  deriving DecidableEq

/-- Whether a node that stands there may be a block collection. -/
def Place.inBlock : Place → Bool
  | root | blockItem | looseItem | blockEntry => true
  | _ => false

/-- Whether a token means that there is no node. -/
def Place.isEmptyBefore (place : Place) (token : Token) : Bool :=
  match place with
  | root => false
  | blockItem => token == .blockEntry || token == .blockEnd
  | looseItem =>
      token == .blockEntry || token == .key || token == .value || token == .blockEnd
  | blockEntry => token == .key || token == .value || token == .blockEnd
  | flowItem => token == .flowEntry || token == .flowSequenceEnd
  | flowPairKey => token == .value || token == .flowEntry || token == .flowSequenceEnd
  | flowEntry => token == .value || token == .flowEntry || token == .flowMappingEnd

mutual

/-- A node that has to stand there. -/
def readNode (handles : List (String × String)) (place : Place) (left : Left) :
    Nat → Option (Node × Left)
  | 0 => none
  | bound + 1 =>
      match left.tokens with
      | .aliasOf name :: rest => do
          some (.aliasOf (← left.anchors.numbers.lookup name), { left with tokens := rest })
      | tokens => do
          let (given, tokens) ← properties handles tokens
          let (anchor, anchors) :=
            match given.anchor with
            | some name =>
                let (anchor, anchors) := left.anchors.start name
                (some anchor, anchors)
            | none => (none, left.anchors)
          let (node, left) ←
            match tokens with
            | .blockEntry :: rest =>
                if place = .blockEntry then do
                  let (items, left) ←
                    readLooseItems handles ⟨.blockEntry :: rest, anchors⟩ bound
                  some (.sequence given.tag items, left)
                else readAbsent given ⟨tokens, anchors⟩
            | .scalar style text :: rest =>
                some (.scalar ⟨given.tag, style, text⟩, ⟨rest, anchors⟩)
            | .flowSequenceStart :: rest => do
                let (items, left) ← readFlowItems handles true ⟨rest, anchors⟩ bound
                some (.sequence given.tag items, left)
            | .flowMappingStart :: rest => do
                let (entries, left) ← readFlowEntries handles true ⟨rest, anchors⟩ bound
                some (.mapping given.tag entries, left)
            | .blockSequenceStart :: rest =>
                if place.inBlock then do
                  let (items, left) ← readBlockItems handles ⟨rest, anchors⟩ bound
                  some (.sequence given.tag items, left)
                else readAbsent given ⟨tokens, anchors⟩
            | .blockMappingStart :: rest =>
                if place.inBlock then do
                  let (entries, left) ← readBlockEntries handles ⟨rest, anchors⟩ bound
                  some (.mapping given.tag entries, left)
                else readAbsent given ⟨tokens, anchors⟩
            | tokens => readAbsent given ⟨tokens, anchors⟩
          some (node, { left with anchors := left.anchors.finish anchor node })

/-- The empty node that an anchor or a tag alone makes. -/
def readAbsent (given : Properties) (left : Left) : Option (Node × Left) :=
  if given.anchor.isSome || given.tag.isSome then
    some (.scalar ⟨given.tag, .plain, ""⟩, left)
  else none

/-- A node that may be left out. -/
def readOptional (handles : List (String × String)) (place : Place) (left : Left) :
    Nat → Option (Node × Left)
  | 0 => none
  | bound + 1 =>
      match left.tokens with
      | [] => none
      | token :: _ =>
          if place.isEmptyBefore token then some (emptyNode, left)
          else readNode handles place left bound

/-- The value of an entry, after its colon, if it has one. -/
def readValue (handles : List (String × String)) (place : Place) (left : Left) :
    Nat → Option (Node × Left)
  | 0 => none
  | bound + 1 =>
      match left.tokens with
      | .value :: rest =>
          readOptional handles (if place = .flowPairKey then .flowItem else place)
            { left with tokens := rest } bound
      | _ => some (emptyNode, left)

/-- The items of a block sequence, up to its end. -/
def readBlockItems (handles : List (String × String)) (left : Left) :
    Nat → Option (List Node × Left)
  | 0 => none
  | bound + 1 =>
      match left.tokens with
      | .blockEntry :: rest => do
          let (item, left) ← readOptional handles .blockItem { left with tokens := rest } bound
          let (items, left) ← readBlockItems handles left bound
          some (item :: items, left)
      | .blockEnd :: rest => some ([], { left with tokens := rest })
      | _ => none

/-- The items of a block sequence that is not further in than the key whose
value it is. Nothing marks its end. -/
def readLooseItems (handles : List (String × String)) (left : Left) :
    Nat → Option (List Node × Left)
  | 0 => none
  | bound + 1 =>
      match left.tokens with
      | .blockEntry :: rest => do
          let (item, left) ← readOptional handles .looseItem { left with tokens := rest } bound
          let (items, left) ← readLooseItems handles left bound
          some (item :: items, left)
      | _ => some ([], left)

/-- The entries of a block mapping, up to its end. -/
def readBlockEntries (handles : List (String × String)) (left : Left) :
    Nat → Option (List (Node × Node) × Left)
  | 0 => none
  | bound + 1 =>
      match left.tokens with
      | .key :: rest => do
          let (key, left) ← readOptional handles .blockEntry { left with tokens := rest } bound
          let (value, left) ← readValue handles .blockEntry left bound
          let (entries, left) ← readBlockEntries handles left bound
          some ((key, value) :: entries, left)
      | .blockEnd :: rest => some ([], { left with tokens := rest })
      | _ => none

/-- The items of a flow sequence, up to its end. All but the first follow a
comma. An item with a key is a mapping of one entry. -/
def readFlowItems (handles : List (String × String)) (first : Bool) (left : Left) :
    Nat → Option (List Node × Left)
  | 0 => none
  | bound + 1 => do
      if let .flowSequenceEnd :: rest := left.tokens then
        return ([], { left with tokens := rest })
      let tokens ←
        match first, left.tokens with
        | true, tokens => some tokens
        | false, .flowEntry :: rest => some rest
        | false, _ => none
      match tokens with
      | .flowSequenceEnd :: rest => some ([], { left with tokens := rest })
      | .key :: rest => do
          let (entry, left) ← readPair handles { left with tokens := rest } bound
          let (items, left) ← readFlowItems handles false left bound
          some (.mapping none [entry] :: items, left)
      | tokens => do
          let (item, left) ← readNode handles .flowItem { left with tokens } bound
          let (items, left) ← readFlowItems handles false left bound
          some (item :: items, left)

/-- The entry of a mapping in a flow sequence. Where its key is left out, the
token that shows it is lost. -/
def readPair (handles : List (String × String)) (left : Left) :
    Nat → Option ((Node × Node) × Left)
  | 0 => none
  | bound + 1 => do
      let (key, left) ←
        match left.tokens with
        | [] => none
        | token :: rest =>
            if Place.flowPairKey.isEmptyBefore token then
              some (emptyNode, { left with tokens := rest })
            else readNode handles .flowPairKey left bound
      let (value, left) ← readValue handles .flowPairKey left bound
      some ((key, value), left)

/-- The entries of a flow mapping, up to its end. All but the first follow a
comma. An entry without a key mark is a key without a value. -/
def readFlowEntries (handles : List (String × String)) (first : Bool) (left : Left) :
    Nat → Option (List (Node × Node) × Left)
  | 0 => none
  | bound + 1 => do
      if let .flowMappingEnd :: rest := left.tokens then
        return ([], { left with tokens := rest })
      let tokens ←
        match first, left.tokens with
        | true, tokens => some tokens
        | false, .flowEntry :: rest => some rest
        | false, _ => none
      match tokens with
      | .flowMappingEnd :: rest => some ([], { left with tokens := rest })
      | .key :: rest => do
          let (key, left) ← readOptional handles .flowEntry { left with tokens := rest } bound
          let (value, left) ← readValue handles .flowEntry left bound
          let (entries, left) ← readFlowEntries handles false left bound
          some ((key, value) :: entries, left)
      | tokens => do
          let (key, left) ← readNode handles .flowEntry { left with tokens } bound
          let (entries, left) ← readFlowEntries handles false left bound
          some ((key, emptyNode) :: entries, left)

end

-- ========================================================= documents

/-- The directives before a document: the handles they give a meaning, and
the tokens after them. There may be one version, which has to be 1.1 or 1.2,
and a handle may be given once. -/
def readDirectives (version : Bool) (handles : List (String × String)) :
    List Token → Option (List (String × String) × List Token)
  | .versionDirective major minor :: rest =>
      if version || major ≠ 1 || ! (minor = 1 || minor = 2) then none
      else readDirectives true handles rest
  | .tagDirective handle stem :: rest =>
      if handles.any (·.1 == handle) then none
      else readDirectives version (handles ++ [(handle, stem)]) rest
  | rest => some (handles, rest)

/-- Whether a token starts or ends a document or stands before one. -/
def Token.isDocumentMark : Token → Bool
  | .documentStart | .documentEnd | .versionDirective .. | .tagDirective .. => true
  | _ => false

/-- The document of a text that has one at most. -/
def Doc.ofTokens? (tokens : List Token) : Option Doc := do
  let (root, left) ←
    match tokens with
    | [] => some (none, ⟨[], {}⟩)
    | .documentStart :: _ | .versionDirective .. :: _ | .tagDirective .. :: _ => do
        let (handles, tokens) ← readDirectives false [] tokens
        match tokens with
        | .documentStart :: rest =>
            if rest.head?.all Token.isDocumentMark then some (some emptyNode, ⟨rest, {}⟩)
            else do
              let (root, left) ←
                readNode (handles ++ standardHandles) .root ⟨rest, {}⟩ (3 * rest.length + 3)
              some (some root, left)
        | _ => none
    | tokens => do
        let (root, left) ← readNode standardHandles .root ⟨tokens, {}⟩ (3 * tokens.length + 3)
        some (some root, left)
  if left.tokens.all (· == .documentEnd) then some ⟨root, left.anchors.node?⟩ else none

end OpenApiTypes.Yaml
