import SchemaPress.Document.Source
import SchemaPress.Yaml.Resolution

/-!
# Reading from YAML

What can be read from the nodes of a YAML document, and with which complaint it is refused. A text
is read from any scalar, truth values only from plain ones. Nothing is read as an empty list and
as a record without fields. One of some words is a text or a tag. A complaint gives the path and
the mark of the part it is about; one that has neither gets those of the record around it.
-/

set_option autoImplicit false

namespace SchemaPress.Yaml

open SchemaPress.Document (Found Complaint Items Fields Member)

/-- A reading on the way through a document, which may still follow a number of aliases. -/
abbrev Walk := StateT Nat (Except Fault)

/-- A node on the way through a document. -/
structure Cursor where
  node : Node
  path : Path
  /-- The nodes that have anchors, the last one first. -/
  anchored : List (Nat × Node)
  /-- The path and the mark of the record around the node. -/
  owner : Path × Mark

namespace Cursor

/-- The node itself, or the node that it is an alias for. -/
def target (cursor : Cursor) : Node :=
  match cursor.node with
  | .aliasOf anchor => (cursor.anchored.lookup anchor).getD cursor.node
  | node => node

def markOf : Node → Mark
  | .scalar properties _ _ | .list properties _ _ | .record properties _ _ => properties.mark
  | .nothing mark => mark
  | .aliasOf _ | .broken _ => Mark.start

def refuse (cursor : Cursor) (complaint : Complaint) : Fault :=
  .refused complaint cursor.path (markOf cursor.target)

/-- The fault for a complaint that gets the place of the record around the node. -/
def refuseOwner (cursor : Cursor) (complaint : Complaint) : Fault :=
  .refused complaint cursor.owner.1 cursor.owner.2

/-- The fault of a node where something else is expected. -/
def mismatch (cursor : Cursor) (expected : String) : Fault :=
  match cursor.target with
  | .scalar properties style text =>
    cursor.refuse (Resolution.mismatch properties.tag style text expected)
  | .list .. => cursor.refuse (.wrongType .list expected)
  | .record .. => cursor.refuse (.wrongType .record expected)
  | .broken fault => fault
  | .nothing _ | .aliasOf _ => .nothingThere

/-- The cursor at the node itself, or at the node that it is an alias for. -/
def follow (cursor : Cursor) : Walk Cursor := do
  match cursor.node with
  | .aliasOf _ =>
    match ← get with
    | 0 => throw .tooManyAliases
    | left + 1 =>
      set left
      return { cursor with node := cursor.target }
  | _ => return cursor

/-- Reads a text. -/
def text (cursor : Cursor) : Walk String := do
  let cursor ← cursor.follow
  match cursor.node with
  | .scalar _ _ text => return text
  | _ => throw (cursor.mismatch "a string")

/-- Says whether a scalar is read by its words: it is plain, or it has a tag that says so. -/
def isWord (kind : String) (tag : Option Tag) (style : Style) : Bool :=
  style = .plain || (style = .literal && tag == some (Tag.standard kind))

/-- Reads a truth value. -/
def flag (cursor : Cursor) : Walk Bool := do
  let cursor ← cursor.follow
  let refused := throw (cursor.mismatch "a boolean")
  match cursor.node with
  | .scalar properties style text =>
    if isWord "bool" properties.tag style then
      match Resolution.flag? text with
      | some value => return value
      | none => refused
    else refused
  | _ => refused

/-- Reads a natural number of 64 bits. -/
def count (cursor : Cursor) : Walk Nat := do
  let cursor ← cursor.follow
  let refused := throw (cursor.mismatch "usize")
  match cursor.node with
  | .scalar properties style text =>
    if isWord "int" properties.tag style then
      match Resolution.integer? text with
      | some (.whole value) =>
        if 0 ≤ value then return value.toNat
        else throw (cursor.refuse (.wrongValue (.whole value) "usize"))
      | _ => refused
    else refused
  | _ => refused

/-- Says whether a plain text without a tag stands for no value. -/
def isNothing (text : String) : Bool :=
  text.isEmpty || Resolution.isNull text

/-- The cursor at the node to read a value from, if there is a value. -/
def present? (cursor : Cursor) : Walk (Option Cursor) := do
  let cursor ← cursor.follow
  match cursor.node with
  | .scalar properties .plain text =>
    match properties.tag with
    | none => return if isNothing text then none else some cursor
    | some tag =>
      if tag ≠ Tag.standard "null" then return some cursor
      else if Resolution.isNull text then return none
      else throw (cursor.refuseOwner (.wrongValue (.text text) "null"))
  | .nothing _ => return none
  | .broken fault => throw fault
  | _ => return some cursor

def part (cursor : Cursor) (node : Node) (step : Step) (owner : Path × Mark) : Cursor :=
  { cursor with node, path := step :: cursor.path, owner }

/-- The end of a list or a record. -/
def endOf {α : Type} (value : α) : Option Fault → Walk α
  | none => return value
  | some fault => throw fault

/-- Says whether a scalar is nothing that is read as an empty list or record. -/
def isEmpty (style : Style) (text : String) : Bool :=
  style = .plain && text.isEmpty

/-- Reads a list. -/
def items (cursor : Cursor) : Walk (Items Cursor Walk) := do
  let cursor ← cursor.follow
  let refused := throw (cursor.mismatch "a sequence")
  match cursor.node with
  | .list _ items ending =>
    return {
      items := items.mapIdx fun index item => cursor.part item (.item index) cursor.owner
      ending := endOf () ending }
  | .scalar _ style text =>
    if isEmpty style text then return { items := [], ending := return () } else refused
  | .nothing _ => return { items := [], ending := return () }
  | _ => refused

def stepOf : Node → Step
  | .scalar _ _ text => .member text
  | _ => .nameless

/-- Reads a key. -/
def key (cursor : Cursor) : Walk String := do
  let cursor ← cursor.follow
  match cursor.node with
  | .scalar _ _ text => return text
  | _ => throw (cursor.mismatch "field identifier")

/-- The members of a record under their names. -/
def named (cursor : Cursor) (members : List (Node × Node)) : List (Member Cursor Walk) :=
  let owner := (cursor.path, markOf cursor.node)
  members.map fun (name, value) => {
    key := key { cursor with node := name }
    place := Text.Place.start
    value := cursor.part value (stepOf name) owner }

/-- Reads the fields of a record with a title. -/
def fields (title : String) (cursor : Cursor) : Walk (Fields Cursor Walk) := do
  let cursor ← cursor.follow
  let refused := throw (cursor.mismatch title)
  match cursor.node with
  | .record _ members ending =>
    return .named (cursor.named members) (endOf Text.Place.start ending)
  | .scalar _ style text =>
    if isEmpty style text then return .named [] (return Text.Place.start) else refused
  | .nothing _ => return .named [] (return Text.Place.start)
  | _ => refused

/-- The value that a word stands for. -/
def lookUp {α : Type} (choices : List (String × α)) (refuse : Complaint → Fault) (word : String) :
    Walk α :=
  match choices.lookup word with
  | some value => return value
  | none => throw (refuse (.unknownWord word (choices.map (·.1))))

/-- Reads the part behind a tag that is a word, where nothing may stand. -/
def unit (cursor : Cursor) : Walk Unit :=
  match cursor.node with
  | .scalar _ style text =>
    if style = .plain && isNothing text then return ()
    else throw (cursor.refuse (.wrongValue (.text text) "null"))
  | _ => throw (cursor.mismatch "unit")

def tagOf : Node → Option Tag
  | .scalar properties _ _ | .list properties _ _ | .record properties _ _ => properties.tag
  | _ => none

/-- Reads the value that one of some words stands for. -/
def oneOf {α : Type} (choices : List (String × α)) (cursor : Cursor) : Walk α := do
  let cursor ← cursor.follow
  match (tagOf cursor.node).bind Tag.word? with
  | some word =>
    let value ← lookUp choices cursor.refuseOwner word
    cursor.unit
    return value
  | none =>
    match cursor.node with
    | .scalar _ _ text => lookUp choices cursor.refuse text
    | _ => throw (cursor.mismatch "a YAML tag starting with '!'")

mutual

/-- Passes over a node. -/
def skipNode : Node → Walk Unit
  | .list _ items ending => do
    skipItems items
    endOf () ending
  | .record _ members ending => do
    skipMembers members
    endOf () ending
  | .broken fault => throw fault
  | _ => return ()

/-- Passes over the items of a list. -/
def skipItems : List Node → Walk Unit
  | [] => return ()
  | item :: items => do
    skipNode item
    skipItems items

/-- Passes over the members of a record. -/
def skipMembers : List (Node × Node) → Walk Unit
  | [] => return ()
  | (key, value) :: members => do
    skipNode key
    skipNode value
    skipMembers members

end

instance : SchemaPress.Document.Source Cursor Walk where
  text := text
  flag := flag
  count := count
  oneOf := oneOf
  present? := present?
  list := items
  record title _ := fields title
  skip cursor := skipNode cursor.node
  complain cursor _ complaint := throw (cursor.refuse complaint)

end Cursor

/-- The number of aliases that may be followed in a document: a hundred for every part. -/
def Document.aliasLimit (document : Document) : Nat :=
  100 * document.root.size

/-- The cursor at the root of a document. -/
def Document.cursor (document : Document) : Cursor where
  node := document.root
  path := []
  anchored := document.root.anchored.reverse
  owner := ([], Mark.start)

/-- Reads a text as a document and the document as a value; nothing may follow the document. -/
def read {α : Type} (ofCursor : Cursor → Walk α) (text : String) : Except Fault α := do
  let document := Document.ofText text
  let (value, _) ← (ofCursor document.cursor).run document.aliasLimit
  match document.ending with
  | none => return value
  | some fault => throw fault

end SchemaPress.Yaml
