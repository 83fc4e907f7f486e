import SchemaPress.Yaml.Token

/-!
# YAML documents

Tokens form a tree of nodes. A text that goes on as no document does gives the tree that it forms
up to there; each list and record that is not complete ends with the fault, and so does the record
whose last key has no value. A part of the tree can have an anchor, and an alias stands for the
last part with its anchor. An anchor counts the different names before it; when a name is given
once more, it shares its number with the next new name.
-/

set_option autoImplicit false

namespace SchemaPress.Yaml

/-- Where a node begins, and what is written in front of it. -/
structure Properties where
  mark : Mark
  anchor : Option Nat := none
  tag : Option Tag := none
  deriving DecidableEq, Repr, Inhabited

/-- A part of a document. -/
inductive Node where
  | scalar (properties : Properties) (style : Style) (text : String)
  | aliasOf (anchor : Nat)
  | list (properties : Properties) (items : List Node) (ending : Option Fault)
  | record (properties : Properties) (members : List (Node × Node)) (ending : Option Fault)
  /-- Nothing at all, in a text without a document. -/
  | nothing (mark : Mark)
  /-- A fault where a node is due. -/
  | broken (fault : Fault)
  deriving Inhabited

namespace Node

def unwritten (mark : Mark) : Node :=
  .scalar { mark } .plain ""

mutual

/-- The size of a node: every part counts once, and a list or a record that has an end twice. -/
def size : Node → Nat
  | scalar .. | aliasOf _ | nothing _ => 1
  | list _ items ending => (if ending.isNone then 2 else 1) + sizeOfItems items
  | record _ members ending => (if ending.isNone then 2 else 1) + sizeOfMembers members
  | broken _ => 0

def sizeOfItems : List Node → Nat
  | [] => 0
  | item :: items => size item + sizeOfItems items

def sizeOfMembers : List (Node × Node) → Nat
  | [] => 0
  | (key, value) :: members => size key + size value + sizeOfMembers members

end

mutual

/-- The parts of a node that have anchors, in the order in which they begin. -/
def anchored : Node → List (Nat × Node)
  | scalar properties style text =>
    properties.anchor.toList.map fun anchor => (anchor, scalar properties style text)
  | list properties items ending =>
    (properties.anchor.toList.map fun anchor => (anchor, list properties items ending))
      ++ anchoredItems items
  | record properties members ending =>
    (properties.anchor.toList.map fun anchor => (anchor, record properties members ending))
      ++ anchoredMembers members
  | _ => []

def anchoredItems : List Node → List (Nat × Node)
  | [] => []
  | item :: items => anchored item ++ anchoredItems items

def anchoredMembers : List (Node × Node) → List (Nat × Node)
  | [] => []
  | (key, value) :: members => anchored key ++ anchored value ++ anchoredMembers members

end

end Node

/-- The tokens that are left, and the names of anchors with their numbers. -/
structure Reader where
  tokens : List Token
  names : List (List Char × Nat) := []
  deriving Repr, Inhabited

/-- What is known about a document as a whole. -/
structure Frame where
  /-- What the handles of tags stand for. -/
  handles : List (List Char × Tag)
  /-- The fault behind the last token. -/
  cut : Fault

/-- What can be read of a node. -/
inductive Growth where
  | missing (fault : Fault)
  | partly (node : Node) (fault : Fault)
  | whole (node : Node) (reader : Reader)

/-- What is left behind the parts of a list or a record. -/
abbrev Remainder := Except Fault Reader

namespace Reader

def peek (frame : Frame) (reader : Reader) : Except Fault Token :=
  match reader.tokens with
  | [] => .error frame.cut
  | token :: _ => .ok token

def skip (reader : Reader) : Reader :=
  { reader with tokens := reader.tokens.tail }

/-- Gives a name the number of different names so far. -/
def giveName (reader : Reader) (name : List Char) : Nat × Reader :=
  let number := reader.names.length
  let others := reader.names.filter (·.1 ≠ name)
  (number, { reader with names := (name, number) :: others })

end Reader

/-- The parts of a list that begins with a node. -/
def Growth.thenItems (growth : Growth) (more : Reader → List Node × Remainder) :
    List Node × Remainder :=
  match growth with
  | .missing fault => ([], .error fault)
  | .partly node fault => ([node], .error fault)
  | .whole node reader =>
    let (items, remainder) := more reader
    (node :: items, remainder)

/-- The parts of a record that begins with a key. -/
def Growth.thenMembers (key : Growth) (value : Reader → Growth)
    (more : Reader → List (Node × Node) × Remainder) : List (Node × Node) × Remainder :=
  match key with
  | .missing fault => ([], .error fault)
  | .partly key fault => ([(key, .broken fault)], .error fault)
  | .whole key reader =>
    match value reader with
    | .missing fault => ([(key, .broken fault)], .error fault)
    | .partly value fault => ([(key, value)], .error fault)
    | .whole value reader =>
      let (members, remainder) := more reader
      ((key, value) :: members, remainder)

/-- A list or a record of some parts. -/
def Growth.ofParts {α : Type} (make : List α → Option Fault → Node) (parts : List α × Remainder) :
    Growth :=
  match parts with
  | (parts, .error fault) => .partly (make parts (some fault)) fault
  | (parts, .ok reader) => .whole (make parts none) reader

/-- Where a node stands. -/
inductive Surrounding where
  /-- In a document or behind a dash. -/
  | block
  /-- In a block of members, where the dashes of a list need not be set in. -/
  | member
  /-- Between brackets. -/
  | flow
  deriving DecidableEq, Repr, Inhabited

/-- What is written in front of a node. -/
structure Prefixed where
  start : Mark
  anchor : Option (List Char) := none
  tag : Option (Tag.Written × Mark) := none

namespace Reader

/-- Reads an anchor, if it comes next. -/
def takeAnchor (frame : Frame) (before : Prefixed) (reader : Reader) :
    Except Fault (Prefixed × Reader) := do
  let token ← reader.peek frame
  match token.sign with
  | .anchorName name => return ({ before with anchor := some name }, reader.skip)
  | _ => return (before, reader)

/-- Reads a tag, if it comes next. -/
def takeTag (frame : Frame) (before : Prefixed) (reader : Reader) :
    Except Fault (Prefixed × Reader) := do
  let token ← reader.peek frame
  match token.sign with
  | .tag tag => return ({ before with tag := some (tag, token.start) }, reader.skip)
  | _ => return (before, reader)

/-- Reads an anchor and a tag, in any order and as far as they are there. -/
def takePrefix (frame : Frame) (reader : Reader) : Except Fault (Prefixed × Reader) := do
  let token ← reader.peek frame
  let (before, reader) ← takeAnchor frame { start := token.start } reader
  let (before, reader) ← takeTag frame before reader
  if before.anchor.isSome then return (before, reader) else takeAnchor frame before reader

/-- What a tag stands for. -/
def resolveTag (frame : Frame) (before : Prefixed) : Except Fault (Option Tag) :=
  match before.tag with
  | none => .ok none
  | some (tag, mark) =>
    if tag.handle.isEmpty then .ok (some tag.suffix)
    else
      match frame.handles.lookup tag.handle with
      | some meaning => .ok (some (meaning.append tag.suffix))
      | none => .error (.notYaml (.during .node before.start .unknownHandle mark))

/-- The properties of a node that begins here, and the reader that knows its anchor. -/
def properties (before : Prefixed) (tag : Option Tag) (reader : Reader) : Properties × Reader :=
  match before.anchor with
  | none => ({ mark := before.start, tag }, reader)
  | some name =>
    let (number, reader) := reader.giveName name
    ({ mark := before.start, anchor := some number, tag }, reader)

/-- An empty node, unless a token of another kind comes next; then the node that is read from
there. -/
def emptyBefore (frame : Frame) (reader : Reader) (endings : List Sign) (mark : Token → Mark)
    (read : Reader → Growth) : Growth :=
  match reader.peek frame with
  | .error fault => .missing fault
  | .ok token =>
    if endings.contains token.sign then .whole (.unwritten (mark token)) reader else read reader

/-- An empty node in front of the next token. -/
def emptyHere (frame : Frame) (reader : Reader) : Growth :=
  match reader.peek frame with
  | .error fault => .missing fault
  | .ok token => .whole (.unwritten token.start) reader

mutual

/-- Reads a node in at most `fuel` steps. -/
def node (frame : Frame) : (fuel : Nat) → Surrounding → Reader → Growth
  | 0, _, _ => .missing frame.cut
  | fuel + 1, surrounding, reader =>
    match reader.peek frame with
    | .error fault => .missing fault
    | .ok token =>
      match token.sign with
      | .aliasName name =>
        match reader.names.lookup name with
        | some anchor => .whole (.aliasOf anchor) reader.skip
        | none => .missing (.unknownAnchor token.start)
      | _ =>
        match takePrefix frame reader with
        | .error fault => .missing fault
        | .ok (before, reader) => content frame fuel surrounding before reader

/-- Reads a node behind its anchor and tag. -/
def content (frame : Frame) : (fuel : Nat) → Surrounding → Prefixed → Reader → Growth
  | 0, _, _, _ => .missing frame.cut
  | fuel + 1, surrounding, before, reader =>
    match reader.peek frame with
    | .error fault => .missing fault
    | .ok token =>
      match resolveTag frame before with
      | .error fault => .missing fault
      | .ok tag =>
        let (properties, named) := reader.properties before tag
        match token.sign, surrounding with
        | .blockEntry, .member =>
          .ofParts (.list properties) (indentlessItems frame fuel named)
        | .scalar style text, _ =>
          .whole (.scalar properties style (String.ofList text)) named.skip
        | .flowSequenceStart, _ =>
          .ofParts (.list properties) (flowItems frame fuel token.start true named.skip)
        | .flowMappingStart, _ =>
          .ofParts (.record properties) (flowMembers frame fuel token.start true named.skip)
        | .blockSequenceStart, .block | .blockSequenceStart, .member =>
          .ofParts (.list properties) (blockItems frame fuel token.start named.skip)
        | .blockMappingStart, .block | .blockMappingStart, .member =>
          .ofParts (.record properties) (blockMembers frame fuel token.start named.skip)
        | _, _ =>
          if before.anchor.isSome || tag.isSome then .whole (.scalar properties .plain "") named
          else
            let activity := if surrounding = .flow then .flowNode else .blockNode
            .missing (.notYaml (.during activity before.start .contentExpected token.start))

/-- Reads the items of a block. -/
def blockItems (frame : Frame) : (fuel : Nat) → Mark → Reader → List Node × Remainder
  | 0, _, _ => ([], .error frame.cut)
  | fuel + 1, since, reader =>
    match reader.peek frame with
    | .error fault => ([], .error fault)
    | .ok token =>
      match token.sign with
      | .blockEntry =>
        (emptyBefore frame reader.skip [.blockEntry, .blockEnd] (fun _ => token.past)
          (node frame fuel .block)).thenItems (blockItems frame fuel since)
      | .blockEnd => ([], .ok reader.skip)
      | _ =>
        ([], .error (.notYaml (.during .blockCollection since .dashExpected token.start)))

/-- Reads items whose dashes are not set in. -/
def indentlessItems (frame : Frame) : (fuel : Nat) → Reader → List Node × Remainder
  | 0, _ => ([], .error frame.cut)
  | fuel + 1, reader =>
    match reader.peek frame with
    | .error fault => ([], .error fault)
    | .ok token =>
      match token.sign with
      | .blockEntry =>
        (emptyBefore frame reader.skip [.blockEntry, .key, .value, .blockEnd]
          (fun _ => token.past) (node frame fuel .block)).thenItems (indentlessItems frame fuel)
      | _ => ([], .ok reader)

/-- Reads the members of a block. -/
def blockMembers (frame : Frame) :
    (fuel : Nat) → Mark → Reader → List (Node × Node) × Remainder
  | 0, _, _ => ([], .error frame.cut)
  | fuel + 1, since, reader =>
    match reader.peek frame with
    | .error fault => ([], .error fault)
    | .ok token =>
      match token.sign with
      | .key =>
        (emptyBefore frame reader.skip [.key, .value, .blockEnd] (fun _ => token.past)
          (node frame fuel .member)).thenMembers (blockValue frame fuel)
            (blockMembers frame fuel since)
      | .blockEnd => ([], .ok reader.skip)
      | _ => ([], .error (.notYaml (.during .blockMapping since .keyExpected token.start)))

/-- Reads the value of a member of a block. -/
def blockValue (frame : Frame) : (fuel : Nat) → Reader → Growth
  | 0, _ => .missing frame.cut
  | fuel + 1, reader =>
    match reader.peek frame with
    | .error fault => .missing fault
    | .ok token =>
      match token.sign with
      | .value =>
        emptyBefore frame reader.skip [.key, .value, .blockEnd] (fun _ => token.past)
          (node frame fuel .member)
      | _ => .whole (.unwritten token.start) reader

/-- Reads the items between brackets. -/
def flowItems (frame : Frame) : (fuel : Nat) → Mark → (first : Bool) → Reader →
    List Node × Remainder
  | 0, _, _, _ => ([], .error frame.cut)
  | fuel + 1, since, first, reader =>
    match reader.peek frame with
    | .error fault => ([], .error fault)
    | .ok token =>
      match token.sign, first with
      | .flowSequenceEnd, _ => ([], .ok reader.skip)
      | .flowEntry, false => flowItem frame fuel since reader.skip
      | _, false =>
        ([], .error (.notYaml (.during .flowSequence since .commaOrBracketExpected token.start)))
      | _, true => flowItem frame fuel since reader

/-- Reads an item between brackets, which may be a single member, and the items behind it. -/
def flowItem (frame : Frame) : (fuel : Nat) → Mark → Reader → List Node × Remainder
  | 0, _, _ => ([], .error frame.cut)
  | fuel + 1, since, reader =>
    match reader.peek frame with
    | .error fault => ([], .error fault)
    | .ok token =>
      match token.sign with
      | .flowSequenceEnd => ([], .ok reader.skip)
      | .key =>
        let member := singleMember frame fuel reader.skip
        (Growth.ofParts (.record { mark := token.start }) member).thenItems
          (flowItems frame fuel since false)
      | _ => (node frame fuel .flow reader).thenItems (flowItems frame fuel since false)

/-- Reads a member that stands between brackets as an item. A colon without a key in front of it is
taken for the key. -/
def singleMember (frame : Frame) : (fuel : Nat) → Reader → List (Node × Node) × Remainder
  | 0, _ => ([], .error frame.cut)
  | fuel + 1, reader =>
    match reader.peek frame with
    | .error fault => ([], .error fault)
    | .ok token =>
      let key := if [Sign.value, .flowEntry, .flowSequenceEnd].contains token.sign then
          .whole (.unwritten token.past) reader.skip
        else node frame fuel .flow reader
      key.thenMembers (flowValue frame fuel .flowSequenceEnd) fun reader =>
        ([], (reader.peek frame).map fun _ => reader)

/-- Reads the value of a member between brackets. -/
def flowValue (frame : Frame) : (fuel : Nat) → (closing : Sign) → Reader → Growth
  | 0, _, _ => .missing frame.cut
  | fuel + 1, closing, reader =>
    match reader.peek frame with
    | .error fault => .missing fault
    | .ok token =>
      match token.sign with
      | .value =>
        emptyBefore frame reader.skip [.flowEntry, closing] Token.start (node frame fuel .flow)
      | _ => .whole (.unwritten token.start) reader

/-- Reads the members between brackets. -/
def flowMembers (frame : Frame) : (fuel : Nat) → Mark → (first : Bool) → Reader →
    List (Node × Node) × Remainder
  | 0, _, _, _ => ([], .error frame.cut)
  | fuel + 1, since, first, reader =>
    match reader.peek frame with
    | .error fault => ([], .error fault)
    | .ok token =>
      match token.sign, first with
      | .flowMappingEnd, _ => ([], .ok reader.skip)
      | .flowEntry, false => flowMember frame fuel since reader.skip
      | _, false =>
        ([], .error (.notYaml (.during .flowMapping since .commaOrBraceExpected token.start)))
      | _, true => flowMember frame fuel since reader

/-- Reads a member between brackets, whose value may be missing, and the members behind it. -/
def flowMember (frame : Frame) : (fuel : Nat) → Mark → Reader → List (Node × Node) × Remainder
  | 0, _, _ => ([], .error frame.cut)
  | fuel + 1, since, reader =>
    match reader.peek frame with
    | .error fault => ([], .error fault)
    | .ok token =>
      match token.sign with
      | .flowMappingEnd => ([], .ok reader.skip)
      | .key =>
        (emptyBefore frame reader.skip [.value, .flowEntry, .flowMappingEnd] Token.start
          (node frame fuel .flow)).thenMembers (flowValue frame fuel .flowMappingEnd)
            (flowMembers frame fuel since false)
      | _ =>
        (node frame fuel .flow reader).thenMembers (emptyHere frame)
          (flowMembers frame fuel since false)

end

end Reader

/-- A document, and the fault behind it. -/
structure Document where
  root : Node
  ending : Option Fault

namespace Document

/-- What handles stand for in every document. -/
def standardHandles : List (List Char × Tag) :=
  [("!".toList, .ofString "!"), ("!!".toList, .standard "")]

/-- Reads the directives in front of a document: what its handles stand for. -/
def readDirectives (frame : Frame) (version : Bool) (handles : List (List Char × Tag)) :
    List Token → Except Fault (List (List Char × Tag) × List Token)
  | [] => .error frame.cut
  | token :: tokens =>
    match token.sign with
    | .directive (.version major minor) =>
      if version then .error (.notYaml { problem := .repeatedVersion, mark := token.start })
      else if major ≠ 1 ∨ (minor ≠ 1 ∧ minor ≠ 2) then
        .error (.notYaml { problem := .unsupportedVersion, mark := token.start })
      else readDirectives frame true handles tokens
    | .directive (.handle name meaning) =>
      if (handles.lookup name).isSome then
        .error (.notYaml { problem := .repeatedHandle, mark := token.start })
      else readDirectives frame version (handles ++ [(name, meaning)]) tokens
    | _ => .ok (handles, token :: tokens)

/-- The fault behind the root of a document: the text has to be at its end there. -/
def faultBehind (frame : Frame) (reader : Reader) : Option Fault :=
  match reader.tokens with
  | [] => some frame.cut
  | tokens =>
    match tokens.dropWhile (·.sign = .documentEnd) with
    | token :: _ => if token.sign = .streamEnd then none else some .severalDocuments
    | [] => some .severalDocuments

def ofGrowth (frame : Frame) : Growth → Document
  | .missing fault => ⟨.broken fault, some fault⟩
  | .partly node fault => ⟨node, some fault⟩
  | .whole node reader => ⟨node, faultBehind frame reader⟩

/-- The steps in which the nodes of some tokens can be read. -/
def fuel (tokens : List Token) : Nat :=
  4 * tokens.length + 8

/-- Reads a document behind the mark at its start. -/
def readContent (frame : Frame) (tokens : List Token) : Document :=
  let reader : Reader := { tokens }
  ofGrowth frame <|
    match reader.peek frame with
    | .error fault => .missing fault
    | .ok token =>
      match token.sign with
      | .directive _ | .documentStart | .documentEnd | .streamEnd =>
        .whole (.unwritten token.start) reader
      | _ => reader.node frame (fuel tokens) .block

/-- Reads a document with directives or with a mark at its start. -/
def readMarked (frame : Frame) (tokens : List Token) : Document :=
  match readDirectives frame false [] tokens with
  | .error fault => ⟨.broken fault, some fault⟩
  | .ok (handles, rest) =>
    let frame := { frame with handles := handles ++ standardHandles }
    match ({ tokens := rest } : Reader).peek frame with
    | .error fault => ⟨.broken fault, some fault⟩
    | .ok token =>
      if token.sign = .documentStart then readContent frame rest.tail
      else
        let fault := .notYaml { problem := .documentStartExpected, mark := token.start }
        ⟨.broken fault, some fault⟩

/-- The document that some tokens form. -/
def ofTokens (tokens : Tokens) : Document :=
  let frame : Frame := {
    handles := standardHandles, cut := (tokens.fault.map Fault.notYaml).getD .nothingThere }
  match tokens.tokens with
  | [] => ⟨.broken frame.cut, some frame.cut⟩
  | token :: _ =>
    match token.sign with
    | .streamEnd => ⟨.nothing token.start, none⟩
    | .directive _ | .documentStart => readMarked frame tokens.tokens
    | _ =>
      ofGrowth frame
        (({ tokens := tokens.tokens } : Reader).node frame (fuel tokens.tokens) .block)

def ofText (text : String) : Document :=
  ofTokens (Tokens.ofText text)

end Document

end SchemaPress.Yaml
