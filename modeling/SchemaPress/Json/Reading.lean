import SchemaPress.Decimal.FloatText
import SchemaPress.Document.Source
import SchemaPress.Json.Node

/-!
# Reading JSON

The readings that the nodes of a JSON document offer. A record may be written with names or,
without names, as a list of its fields in order. One of some words may be written as a text, or as
the key of a record whose value is `null`. A list or a record that stops is reported in the words
of its reader: one who wants its items, one who wants a known number of fields, or one who passes
over it.
-/

set_option autoImplicit false

namespace SchemaPress.Json

namespace Token

/-- The fault of a token that begins no value, where one is due. -/
def noValue (token : Token) : Fault :=
  match token.sign with
  | .ending => ⟨.endInValue, token.before⟩
  | _ => ⟨.valueExpected, token.firstByte⟩

/-- The fault of a token that is no colon, where one is due. -/
def noColon (token : Token) : Fault :=
  match token.sign with
  | .ending => ⟨.endInRecord, token.before⟩
  | _ => ⟨.colonExpected, token.firstByte⟩

end Token

namespace Leaf

/-- What a leaf is in a complaint, or the fault of reading it. -/
def found : Leaf → Except Fault Document.Found
  | null => .ok (.nothing "null")
  | flag value => .ok (.flag value)
  | number value _ => value.map fun
    | .whole value => .whole value
    | .fraction value => .fraction (Decimal.floatText .compact value)
  | text value _ => value.map .text
  | misspelt _ fault => .error fault

end Leaf

namespace Ending

/-- The end of a list whose items are read. -/
def ofList : Ending → Except Fault Text.Place
  | closed after => .ok after
  | stopped stage token =>
    match token.sign, stage with
    | .ending, .afterComma _ => .error ⟨.endInValue, token.before⟩
    | .ending, _ => .error ⟨.endInList, token.before⟩
    | _, .afterComma _ => .error ⟨.trailingComma, token.firstByte⟩
    | _, _ => .error ⟨.listCommaExpected, token.firstByte⟩

/-- The end of a list that has held all fields of a record. -/
def ofFullList : Ending → Except Fault Text.Place
  | closed after => .ok after
  | stopped stage token =>
    match token.sign, stage with
    | .ending, _ => .error ⟨.endInList, token.before⟩
    | _, .afterComma _ => .error ⟨.trailingComma, token.firstByte⟩
    | _, _ => .error ⟨.trailingCharacters, token.firstByte⟩

/-- The end of a record whose members are read. -/
def ofRecord : Ending → Except Fault Text.Place
  | closed after => .ok after
  | stopped stage token =>
    match token.sign, stage with
    | .ending, .afterComma _ => .error ⟨.endInValue, token.before⟩
    | .ending, _ => .error ⟨.endInRecord, token.before⟩
    | _, .afterItem => .error ⟨.recordCommaExpected, token.firstByte⟩
    | .recordClose, .afterComma _ => .error ⟨.trailingComma, token.firstByte⟩
    | _, _ => .error ⟨.keyExpected, token.firstByte⟩

/-- The end of a list that is passed over. -/
def ofSkippedList : Ending → Except Fault Unit
  | closed _ => .ok ()
  | stopped stage token =>
    match token.sign, stage with
    | .ending, .afterComma _ => .error ⟨.endInValue, token.before⟩
    | .ending, _ => .error ⟨.endInList, token.before⟩
    | _, .afterComma _ => .error ⟨.valueExpected, token.firstByte⟩
    | _, _ => .error ⟨.listCommaExpected, token.firstByte⟩

/-- The end of a record that is passed over. -/
def ofSkippedRecord : Ending → Except Fault Unit
  | closed _ => .ok ()
  | stopped stage token =>
    match token.sign, stage with
    | .ending, _ => .error ⟨.endInRecord, token.before⟩
    | _, .afterItem => .error ⟨.recordCommaExpected, token.firstByte⟩
    | _, _ => .error ⟨.keyExpected, token.firstByte⟩

/-- The end of a record behind the one member that names a word. -/
def ofWord : Ending → Except Fault Unit
  | closed _ => .ok ()
  | stopped stage token =>
    match token.sign, stage with
    | _, .afterComma comma => .error ⟨.valueExpected, comma⟩
    | .ending, _ => .error ⟨.endInRecord, token.before⟩
    | _, _ => .error ⟨.valueExpected, token.before⟩

end Ending

/-- The form of a leaf or a key that is passed over. -/
def checkForm (form : Option Fault) : Except Fault Unit :=
  match form with
  | none => .ok ()
  | some fault => .error fault

namespace Node

/-- The place of the first byte of a node, as seen from behind that byte. -/
def firstByte : Node → Text.Place
  | leaf _ before _ => ⟨before.line, before.column + 1⟩
  | list start _ _ => ⟨start.line, start.column + 1⟩
  | record start _ _ => ⟨start.line, start.column + 1⟩
  | noValue token => token.firstByte
  | noColon token => token.firstByte

/-- The fault of a node where something else is expected. -/
def mismatch (expected : String) : Node → Fault
  | leaf value _ after =>
    match value.found with
    | .ok found => ⟨.refused (.wrongType found expected), after⟩
    | .error fault => fault
  | list start _ _ => ⟨.refused (.wrongType .list expected), start⟩
  | record start _ _ => ⟨.refused (.wrongType .record expected), start⟩
  | noValue token => token.noValue
  | noColon token => token.noColon

/-- Reads a text. -/
def text : Node → Except Fault String
  | leaf (.text value _) _ _ => value
  | node => .error (node.mismatch "a string")

def flag : Node → Except Fault Bool
  | leaf (.flag value) _ _ => .ok value
  | node => .error (node.mismatch "a boolean")

/-- Reads a natural number of 64 bits. -/
def count : Node → Except Fault Nat
  | leaf (.number (.ok (.whole value)) _) _ after =>
    if 0 ≤ value then .ok value.toNat
    else .error ⟨.refused (.wrongValue (.whole value) "usize"), after⟩
  | node => .error (node.mismatch "usize")

/-- The node itself, if there is a value. A word that begins like `null` is expected to be it. -/
def present? : Node → Except Fault (Option Node)
  | leaf .null _ _ => .ok none
  | leaf (.misspelt "null" fault) _ _ => .error fault
  | node => .ok (some node)

def items : Node → Except Fault (Document.Items Node (Except Fault))
  | list _ items ending => .ok { items, ending := ending.ofList.map fun _ => () }
  | node => .error (node.mismatch "a sequence")

def named (members : List (Key × Node)) : List (Document.Member Node (Except Fault)) :=
  members.map fun (key, value) => { key := key.text, place := key.standing, value }

/-- The items of a list as the fields of a record with a number of fields. -/
def fieldsOfList (width : Nat) (items : List Node) (ending : Ending) :
    Document.Fields Node (Except Fault) :=
  match items.drop width with
  | surplus :: _ =>
    .positional (items.take width) (.error ⟨.trailingCharacters, surplus.firstByte⟩)
  | [] =>
    .positional items (if items.length = width then ending.ofFullList else ending.ofList)

/-- Reads the fields of a record with a title and a number of fields. -/
def fields (title : String) (width : Nat) :
    Node → Except Fault (Document.Fields Node (Except Fault))
  | record _ members ending => .ok (.named (named members) ending.ofRecord)
  | list _ items ending => .ok (fieldsOfList width items ending)
  | node => .error (node.mismatch title)

/-- The value that a word stands for. -/
def lookUp {α : Type} (choices : List (String × α)) (word : String) (after : Text.Place) :
    Except Fault α :=
  match choices.lookup word with
  | some value => .ok value
  | none => .error ⟨.refused (.unknownWord word (choices.map (·.1))), after⟩

/-- Reads the value of the member that names a word, which has to be absent. -/
def unit : Node → Except Fault Unit
  | leaf .null _ _ => .ok ()
  | node => .error (node.mismatch "unit")

/-- The fault of a token where the key that names a word is due. -/
def noWord (token : Token) : Fault :=
  match token.sign with
  | .ending => ⟨.endInRecord, token.before⟩
  | _ => ⟨.keyExpected, token.firstByte⟩

/-- The end of a record behind the member that names a word, or the member that follows it. -/
def endOfWord (ending : Ending) : List (Key × Node) → Except Fault Unit
  | [] => ending.ofWord
  | (key, _) :: _ => .error ⟨.valueExpected, key.lead⟩

/-- Reads the value that one of some words stands for. -/
def oneOf {α : Type} (choices : List (String × α)) : Node → Except Fault α
  | leaf (.text value _) _ after => do lookUp choices (← value) after
  | record _ [] (.closed after) => .error ⟨.valueExpected, after⟩
  | record _ [] (.stopped _ token) => .error (noWord token)
  | record _ ((key, value) :: members) ending => do
    let choice ← lookUp choices (← key.text) key.after
    value.unit
    endOfWord ending members
    return choice
  | noValue token => .error token.noValue
  | noColon token => .error token.noColon
  | node => .error ⟨.valueExpected, node.firstByte⟩

mutual

/-- Passes over a node. -/
def skip : Node → Except Fault Unit
  | leaf value _ _ => checkForm value.form?
  | list _ items ending => do
    skipItems items
    ending.ofSkippedList
  | record _ members ending => do
    skipMembers members
    ending.ofSkippedRecord
  | noValue token => .error token.noValue
  | noColon token => .error token.noColon

/-- Passes over the items of a list. -/
def skipItems : List Node → Except Fault Unit
  | [] => .ok ()
  | item :: items => do
    skip item
    skipItems items

/-- Passes over the members of a record. -/
def skipMembers : List (Key × Node) → Except Fault Unit
  | [] => .ok ()
  | (key, value) :: members => do
    checkForm key.form
    skip value
    skipMembers members

end

instance : Document.Source Node (Except Fault) where
  text := text
  flag := flag
  count := count
  oneOf := oneOf
  present? := present?
  list := items
  record := fields
  skip := skip
  complain _ place complaint := .error ⟨.refused complaint, place⟩

end Node

/-- Reads a text as a document and the document as a value; nothing may follow the document. -/
def read {α : Type} (ofNode : Node → Except Fault α) (text : String) : Except Fault α := do
  let document := Document.ofText text
  let value ← ofNode document.root
  match document.surplus with
  | none => return value
  | some token => throw ⟨.trailingCharacters, token.firstByte⟩

end SchemaPress.Json
