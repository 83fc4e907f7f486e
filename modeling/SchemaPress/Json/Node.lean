import SchemaPress.Json.Token

/-!
# JSON documents

Tokens form a tree of nodes. The tree of a text that breaks off, or that goes on as no JSON does,
has a list or a record that stops at the token in question; nothing follows behind it. What the
fault is called then depends on how the list or the record is read, so the tree keeps the token
itself.
-/

set_option autoImplicit false

namespace SchemaPress.Json

/-- How far a list or a record has got. -/
inductive Stage where
  | fresh
  /-- Behind a comma, with the place before that comma. -/
  | afterComma (comma : Text.Place)
  | afterItem
  deriving Inhabited

/-- How a list or a record ends. -/
inductive Ending where
  /-- With its closing bracket, and the place behind that. -/
  | closed (after : Text.Place)
  /-- At a token that does not go on with it. -/
  | stopped (stage : Stage) (token : Token)
  deriving Inhabited

/-- The key of a member. -/
structure Key where
  text : Except Fault String
  form : Option Fault
  /-- The place before the comma in front of the key, or before the key if it is the first one. -/
  lead : Text.Place
  /-- The place behind the key. -/
  after : Text.Place
  /-- The place where reading stands if the record is given up at the key: before the next token, or
  behind it if it closes the record. -/
  standing : Text.Place
  deriving Inhabited

/-- A part of a document. -/
inductive Node where
  | leaf (leaf : Leaf) (before after : Text.Place)
  | list (start : Text.Place) (items : List Node) (ending : Ending)
  | record (start : Text.Place) (members : List (Key × Node)) (ending : Ending)
  /-- A token that begins no value, where a value is due. -/
  | noValue (token : Token)
  /-- A token that is no colon, where a colon is due. -/
  | noColon (token : Token)
  deriving Inhabited

/-- A document, and the token behind it unless that is the end of the text. -/
structure Document where
  root : Node
  surplus : Option Token

namespace Node

/-- A list or a record that is not complete; what came last stands first. -/
inductive Frame where
  | list (start : Text.Place) (items : List Node)
  | record (start : Text.Place) (members : List (Key × Node))
  /-- A record whose last key waits for its value. -/
  | member (start : Text.Place) (members : List (Key × Node)) (key : Key)

/-- What is due next. -/
inductive Due where
  | value
  /-- The colon behind the key of the innermost member. -/
  | colon
  /-- The rest of the innermost list or record. -/
  | rest (stage : Stage)

/-- The frames around a node, closed where the node breaks off. Each of them ends as the innermost
one would; nobody gets that far. -/
def abandon (node : Node) (token : Token) : List Frame → Node
  | [] => node
  | .list start items :: frames =>
    abandon (.list start (node :: items).reverse (.stopped .afterItem token)) token frames
  | .record start members :: frames =>
    abandon (.record start members.reverse (.stopped .afterItem token)) token frames
  | .member start members key :: frames =>
    let members := ((key, node) :: members).reverse
    abandon (.record start members (.stopped .afterItem token)) token frames

/-- The building of a document: under way, complete, or broken off. -/
inductive Progress where
  | under (frames : List Frame) (due : Due)
  | complete (root : Node)
  | broken (root : Node)

/-- Puts a node where it belongs: it completes the document, or an item or member of the innermost
frame. -/
def put (node : Node) : List Frame → Progress
  | [] => .complete node
  | .list start items :: frames => .under (.list start (node :: items) :: frames) (.rest .afterItem)
  | .record start members :: frames =>
    .under (.record start members :: frames) (.rest .afterItem)
  | .member start members key :: frames =>
    .under (.record start ((key, node) :: members) :: frames) (.rest .afterItem)

/-- Breaks off at a token with a node that goes no further. -/
def breakOff (node : Node) (token : Token) (frames : List Frame) : Progress :=
  .broken (abandon node token frames)

/-- Takes a token where a value is due. -/
def takeValue (frames : List Frame) (token : Token) : Progress :=
  match token.sign with
  | .leaf value => put (.leaf value token.before token.after) frames
  | .listOpen => .under (.list token.before [] :: frames) (.rest .fresh)
  | .recordOpen => .under (.record token.before [] :: frames) (.rest .fresh)
  | _ => breakOff (.noValue token) token frames

def closeList (start : Text.Place) (items : List Node) (frames : List Frame) (token : Token) :
    Progress :=
  put (.list start items.reverse (.closed token.after)) frames

def stopList (start : Text.Place) (items : List Node) (frames : List Frame) (stage : Stage)
    (token : Token) : Progress :=
  breakOff (.list start items.reverse (.stopped stage token)) token frames

/-- Takes a token inside a list. -/
def takeInList (start : Text.Place) (items : List Node) (frames : List Frame) (stage : Stage)
    (token : Token) : Progress :=
  match stage, token.sign with
  | .fresh, .listClose => closeList start items frames token
  | .fresh, .ending => stopList start items frames stage token
  | .afterItem, .listClose => closeList start items frames token
  | .afterItem, .comma =>
    .under (.list start items :: frames) (.rest (.afterComma token.before))
  | .afterItem, _ => stopList start items frames stage token
  | .afterComma _, .listClose => stopList start items frames stage token
  | _, _ => takeValue (.list start items :: frames) token

/-- The key that a token is, with the place before what led to it. -/
def key? (stage : Stage) (token : Token) : Option Key :=
  match token.sign with
  | .leaf (.text text form) =>
    let lead := match stage with
      | .afterComma comma => comma
      | _ => token.before
    some { text, form, lead, after := token.after, standing := token.after }
  | _ => none

def closeRecord (start : Text.Place) (members : List (Key × Node)) (frames : List Frame)
    (token : Token) : Progress :=
  put (.record start members.reverse (.closed token.after)) frames

def stopRecord (start : Text.Place) (members : List (Key × Node)) (frames : List Frame)
    (stage : Stage) (token : Token) : Progress :=
  breakOff (.record start members.reverse (.stopped stage token)) token frames

/-- Takes a token inside a record where no member is under way. -/
def takeInRecord (start : Text.Place) (members : List (Key × Node)) (frames : List Frame)
    (stage : Stage) (token : Token) : Progress :=
  match stage, token.sign with
  | .fresh, .recordClose => closeRecord start members frames token
  | .afterItem, .recordClose => closeRecord start members frames token
  | .afterItem, .comma =>
    .under (.record start members :: frames) (.rest (.afterComma token.before))
  | .afterItem, _ => stopRecord start members frames stage token
  | _, _ =>
    match key? stage token with
    | some key => .under (.member start members key :: frames) .colon
    | none => stopRecord start members frames stage token

/-- A key once the token behind it is known. -/
def follow (key : Key) (token : Token) : Key :=
  match token.sign with
  | .recordClose => { key with standing := token.after }
  | _ => { key with standing := token.before }

/-- Takes a token where the colon behind the innermost key is due. -/
def takeColon (frames : List Frame) (token : Token) : Progress :=
  match frames with
  | .member start members key :: frames =>
    let frames := .member start members (follow key token) :: frames
    match token.sign with
    | .colon => .under frames .value
    | _ => breakOff (.noColon token) token frames
  | frames => breakOff (.noColon token) token frames

/-- Takes a token where the innermost frame goes on. -/
def takeRest (frames : List Frame) (stage : Stage) (token : Token) : Progress :=
  match frames with
  | .list start items :: frames => takeInList start items frames stage token
  | .record start members :: frames => takeInRecord start members frames stage token
  | frames => takeValue frames token

/-- Takes a token. -/
def take (frames : List Frame) (due : Due) (token : Token) : Progress :=
  match due with
  | .value => takeValue frames token
  | .colon => takeColon frames token
  | .rest stage => takeRest frames stage token

/-- The first of some tokens, unless it is the end of the text. -/
def surplus? : List Token → Option Token
  | [] => none
  | token :: _ =>
    match token.sign with
    | .ending => none
    | _ => some token

/-- Builds a document from the tokens that are left. Tokens run out only behind one behind which
nothing can be read. -/
def build : Progress → List Token → Document
  | .complete root, tokens => ⟨root, surplus? tokens⟩
  | .broken root, _ => ⟨root, none⟩
  | .under frames _, [] => ⟨abandon (.noValue default) default frames, none⟩
  | .under frames due, token :: tokens => build (take frames due token) tokens

end Node

def Document.ofTokens (tokens : List Token) : Document :=
  Node.build (.under [] .value) tokens

def Document.ofText (text : String) : Document :=
  .ofTokens (Token.scan text.toList)

end SchemaPress.Json
