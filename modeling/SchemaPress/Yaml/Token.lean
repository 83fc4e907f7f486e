import SchemaPress.Yaml.BlockScalar
import SchemaPress.Yaml.Directive
import SchemaPress.Yaml.PlainScalar
import SchemaPress.Yaml.QuotedScalar

/-!
# Tokens of YAML

A text is cut into tokens. Besides what is written there are tokens for what the indentation says:
the start of a block of items or members, and its end. Whether something is a key shows only at
the colon behind it; so what may be a key is remembered, and at the colon a token is put in front
of it. As long as that can happen, the tokens from there on are held back.
-/

set_option autoImplicit false

namespace SchemaPress.Yaml

/-- How a scalar is written. -/
inductive Style where
  | plain
  | quoted
  | literal
  | folded
  deriving DecidableEq, Repr, Inhabited

/-- What a token is. -/
inductive Sign where
  | streamEnd
  | directive (directive : Directive)
  | documentStart
  | documentEnd
  | blockSequenceStart
  | blockMappingStart
  | blockEnd
  | flowSequenceStart
  | flowSequenceEnd
  | flowMappingStart
  | flowMappingEnd
  | blockEntry
  | flowEntry
  | key
  | value
  | aliasName (name : List Char)
  | anchorName (name : List Char)
  | tag (tag : Tag.Written)
  | scalar (style : Style) (text : List Char)
  deriving DecidableEq, Repr, Inhabited

/-- A token with the marks of its start and its end. -/
structure Token where
  sign : Sign
  start : Mark
  past : Mark
  deriving DecidableEq, Repr, Inhabited

/-- A token that may turn out to be a key. -/
structure PossibleKey where
  /-- Whether nothing but a key may stand in its place. -/
  required : Bool
  /-- The number of tokens in front of it. -/
  number : Nat
  mark : Mark
  deriving DecidableEq, Repr, Inhabited

/-- How far a text has been cut into tokens. -/
structure Scanner where
  point : Point
  /-- The tokens; the last one stands first. -/
  tokens : List Token := []
  /-- The column at which the innermost block begins, or one less than the first column. -/
  indent : Int := -1
  /-- The columns at which the blocks around it begin. -/
  outerIndents : List Int := []
  /-- What may turn out to be a key inside the innermost brackets. -/
  key : Option PossibleKey := none
  /-- What may turn out to be a key inside the brackets around them. -/
  outerKeys : List (Option PossibleKey) := []
  /-- Whether what comes next may be a key. -/
  keyAllowed : Bool := true
  deriving Repr, Inhabited

namespace Scanner

/-- The number of bytes that a key may have at most. -/
def maxKey : Nat := 1024

def inFlow (scanner : Scanner) : Bool :=
  !scanner.outerKeys.isEmpty

def mark (scanner : Scanner) : Mark :=
  scanner.point.mark

def column (scanner : Scanner) : Int :=
  scanner.point.mark.column

/-- The least column of a line that goes on with a scalar. -/
def leastColumn (scanner : Scanner) : Nat :=
  (scanner.indent + 1).toNat

def emit (scanner : Scanner) (sign : Sign) (start past : Mark) : Scanner :=
  { scanner with tokens := ⟨sign, start, past⟩ :: scanner.tokens }

/-- Puts a token between two marks behind all others, and goes on behind it. -/
def emitTo (scanner : Scanner) (sign : Sign) (past : Point) : Scanner :=
  { scanner.emit sign scanner.mark past.mark with point := past }

/-- Puts a token without an extent behind a number of others. -/
def insert (scanner : Scanner) (number : Nat) (sign : Sign) (mark : Mark) : Scanner :=
  let later := scanner.tokens.length - number
  { scanner with
    tokens := scanner.tokens.take later ++ ⟨sign, mark, mark⟩ :: scanner.tokens.drop later }

/-- Begins a block with a token behind a number of others, if the column lies further in. -/
def indentTo (scanner : Scanner) (number column : Nat) (sign : Sign) (mark : Mark) : Scanner :=
  if !scanner.inFlow && scanner.indent < column then
    { scanner.insert number sign mark with
      indent := column, outerIndents := scanner.indent :: scanner.outerIndents }
  else scanner

/-- Begins a block where the scanner stands, if that lies further in. -/
def indentHere (scanner : Scanner) (sign : Sign) : Scanner :=
  scanner.indentTo scanner.tokens.length scanner.mark.column sign scanner.mark

/-- Ends the blocks that begin behind a column, of which there are these around the innermost. -/
def unindentTo (column : Int) (scanner : Scanner) : List Int → Scanner
  | [] => scanner
  | outer :: outerIndents =>
    if column < scanner.indent then
      unindentTo column
        { scanner.emit .blockEnd scanner.mark scanner.mark with indent := outer, outerIndents }
        outerIndents
    else scanner

def unindent (scanner : Scanner) (column : Int) : Scanner :=
  if scanner.inFlow then scanner else unindentTo column scanner scanner.outerIndents

def colonMissing (scanner : Scanner) (key : PossibleKey) : SyntaxFault :=
  .during .simpleKey key.mark .colonMissing scanner.mark

/-- Gives up that something may be a key. -/
def forgetKey (scanner : Scanner) : Except SyntaxFault Scanner :=
  match scanner.key with
  | some key =>
    if key.required then .error (scanner.colonMissing key) else .ok { scanner with key := none }
  | none => .ok scanner

/-- Remembers that what comes next may be a key, if it may be one. -/
def rememberKey (scanner : Scanner) : Except SyntaxFault Scanner := do
  if scanner.keyAllowed then
    let key : PossibleKey := {
      required := !scanner.inFlow && scanner.indent == scanner.column
      number := scanner.tokens.length
      mark := scanner.mark }
    return { ← scanner.forgetKey with key := some key }
  else return scanner

/-- Says whether a key has to have had its colon before a mark: it is on one line and not too
long. -/
def isStale (mark : Mark) (key : PossibleKey) : Bool :=
  key.mark.line < mark.line || key.mark.index + maxKey < mark.index

/-- What may still turn out to be a key where the scanner stands. -/
def keyLeft (scanner : Scanner) : Option PossibleKey → Except SyntaxFault (Option PossibleKey)
  | none => .ok none
  | some key =>
    if !isStale scanner.mark key then .ok (some key)
    else if key.required then .error (scanner.colonMissing key)
    else .ok none

/-- Gives up all that cannot turn out to be a key any more, from the outside in. -/
def forgetStale (scanner : Scanner) : Except SyntaxFault Scanner := do
  let outerKeys ← scanner.outerKeys.reverse.mapM scanner.keyLeft
  let key ← scanner.keyLeft scanner.key
  return { scanner with key, outerKeys := outerKeys.reverse }

/-- The number of tokens in front of which no token can be put any more. -/
def settled (scanner : Scanner) : Nat :=
  ((scanner.key :: scanner.outerKeys).filterMap id).foldl (fun least key => min least key.number)
    scanner.tokens.length

/-- Goes over blanks, comments and ends of lines: whether what comes next may be a key, and the
point in front of it. Where a key may stand outside of brackets a tabulator is no blank. -/
def gapFrom (inFlow : Bool) : (keyAllowed inComment : Bool) → Mark → List Char → Bool × Point
  | keyAllowed, _, mark, [] => (keyAllowed, ⟨mark, []⟩)
  | keyAllowed, _, mark, '\r' :: '\n' :: cs =>
    gapFrom inFlow (keyAllowed || !inFlow) false (mark.nextLine 2) cs
  | keyAllowed, inComment, mark, c :: cs =>
    let isSkipped := c == ' ' || (c == '\t' && (inFlow || !keyAllowed)) ||
      (c == '\ufeff' && mark.column == 0)
    if isBreak c then
      gapFrom inFlow (keyAllowed || !inFlow) false (mark.nextLine c.utf8Size) cs
    else if inComment || c == '#' then gapFrom inFlow keyAllowed true (mark.next c) cs
    else if isSkipped then gapFrom inFlow keyAllowed false (mark.next c) cs
    else (keyAllowed, ⟨mark, c :: cs⟩)

/-- Goes over the gap in front of the next token. -/
def skipGap (scanner : Scanner) : Scanner :=
  let (keyAllowed, point) :=
    gapFrom scanner.inFlow scanner.keyAllowed false scanner.mark scanner.point.rest
  { scanner with point, keyAllowed }

/-- Cuts off the end of the text, which stands on a line of its own. -/
def takeEnd (scanner : Scanner) : Except SyntaxFault Scanner := do
  let mark := scanner.mark
  let mark := if mark.column = 0 then mark else ⟨mark.index, mark.line + 1, 0⟩
  let scanner := { scanner with point := ⟨mark, scanner.point.rest⟩ }
  let scanner ← (scanner.unindent (-1)).forgetKey
  return { scanner with keyAllowed := false }.emit .streamEnd mark mark

def takeDirective (scanner : Scanner) : Except SyntaxFault Scanner := do
  let scanner ← (scanner.unindent (-1)).forgetKey
  let (directive, past) ← Directive.scan scanner.point
  return { scanner with keyAllowed := false }.emitTo (.directive directive) past

/-- Cuts off a mark at the start or the end of a document. -/
def takeDocumentMark (scanner : Scanner) (sign : Sign) : Except SyntaxFault Scanner := do
  let scanner ← (scanner.unindent (-1)).forgetKey
  return { scanner with keyAllowed := false }.emitTo sign (scanner.point.skipMany 3)

/-- Cuts off an opening bracket. -/
def takeOpening (scanner : Scanner) (sign : Sign) : Except SyntaxFault Scanner := do
  let scanner ← scanner.rememberKey
  return { scanner with
    key := none, outerKeys := scanner.key :: scanner.outerKeys, keyAllowed := true
  }.emitTo sign scanner.point.skip

/-- Cuts off a closing bracket, which need not close anything. -/
def takeClosing (scanner : Scanner) (sign : Sign) : Except SyntaxFault Scanner := do
  let scanner ← scanner.forgetKey
  let scanner := match scanner.outerKeys with
    | [] => scanner
    | key :: outerKeys => { scanner with key, outerKeys }
  return { scanner with keyAllowed := false }.emitTo sign scanner.point.skip

def takeFlowEntry (scanner : Scanner) : Except SyntaxFault Scanner := do
  let scanner ← scanner.forgetKey
  return { scanner with keyAllowed := true }.emitTo .flowEntry scanner.point.skip

/-- Begins a block where the scanner stands, or complains if no block may begin there. -/
def openBlock (scanner : Scanner) (sign : Sign) (problem : Problem) :
    Except SyntaxFault Scanner :=
  if scanner.inFlow then .ok scanner
  else if scanner.keyAllowed then .ok (scanner.indentHere sign)
  else .error { problem, mark := scanner.mark }

/-- Cuts off a dash in front of an item. -/
def takeBlockEntry (scanner : Scanner) : Except SyntaxFault Scanner := do
  let scanner ← scanner.openBlock .blockSequenceStart .sequenceNotAllowed
  let scanner ← scanner.forgetKey
  return { scanner with keyAllowed := true }.emitTo .blockEntry scanner.point.skip

/-- Cuts off a question mark in front of a key. -/
def takeKey (scanner : Scanner) : Except SyntaxFault Scanner := do
  let scanner ← scanner.openBlock .blockMappingStart .keyNotAllowed
  let scanner ← scanner.forgetKey
  return { scanner with keyAllowed := !scanner.inFlow }.emitTo .key scanner.point.skip

/-- Cuts off a colon in front of a value. What was remembered turns out to be a key. -/
def takeValue (scanner : Scanner) : Except SyntaxFault Scanner := do
  let scanner ← match scanner.key with
    | some key =>
      let scanner := scanner.insert key.number .key key.mark
      let scanner := scanner.indentTo key.number key.mark.column .blockMappingStart key.mark
      pure { scanner with key := none, keyAllowed := false }
    | none => do
      let scanner ← scanner.openBlock .blockMappingStart .valueNotAllowed
      pure { scanner with keyAllowed := !scanner.inFlow }
  return scanner.emitTo .value scanner.point.skip

/-- Says whether a character may stand behind the name of an anchor. -/
def endsName (c : Char) : Bool :=
  isSpacing c || "?:,]\x7d%@\x60".toList.contains c

/-- Cuts off an anchor or an alias. -/
def takeName (scanner : Scanner) (sign : List Char → Sign) (activity : Activity) :
    Except SyntaxFault Scanner := do
  let scanner ← scanner.rememberKey
  let (name, past) := scanner.point.skip.span isNameChar
  if name.isEmpty || !past.nextIsOrEnds endsName then
    throw (.during activity scanner.mark .nameExpected past.mark)
  return { scanner with keyAllowed := false }.emitTo (sign name) past

def takeTag (scanner : Scanner) : Except SyntaxFault Scanner := do
  let scanner ← scanner.rememberKey
  let (tag, past) ← Tag.scan scanner.inFlow scanner.point
  return { scanner with keyAllowed := false }.emitTo (.tag tag) past

/-- Cuts off a block scalar. -/
def takeBlockScalar (scanner : Scanner) (style : Style) : Except SyntaxFault Scanner := do
  let scanner ← scanner.forgetKey
  let (text, past, next) ←
    BlockScalar.scan (style == .folded) scanner.indent scanner.point
  return { scanner.emit (.scalar style text) scanner.mark past with
    point := next, keyAllowed := true }

def takeQuotedScalar (scanner : Scanner) (quote : Char) : Except SyntaxFault Scanner := do
  let scanner ← scanner.rememberKey
  let (text, past) ← QuotedScalar.scan quote scanner.point
  return { scanner with keyAllowed := false }.emitTo (.scalar .quoted text) past

/-- Cuts off a plain scalar. Behind an end of a line there may be a key. -/
def takePlainScalar (scanner : Scanner) : Except SyntaxFault Scanner := do
  let scanner ← scanner.rememberKey
  let (draft, next) ← PlainScalar.scan scanner.inFlow scanner.leastColumn scanner.point
  return { scanner.emit (.scalar .plain draft.text) scanner.mark draft.past with
    point := next, keyAllowed := draft.gap.crossesLine }

/-- Says whether a plain scalar may begin with a character, whatever stands behind it. -/
def beginsPlain (c : Char) : Bool :=
  !isSpacing c && !"-?:,[]\x7b\x7d#&*!|>'\"%@\x60".toList.contains c

/-- Cuts off the token that begins with a character. -/
def takeFrom (scanner : Scanner) (c : Char) : Except SyntaxFault Scanner :=
  let point := scanner.point
  let alone := point.secondIsOrEnds isSpacing
  if point.mark.column == 0 && c == '%' then scanner.takeDirective
  else if point.mark.column == 0 && point.startsWithThree '-' then
    scanner.takeDocumentMark .documentStart
  else if point.mark.column == 0 && point.startsWithThree '.' then
    scanner.takeDocumentMark .documentEnd
  else if c == '[' then scanner.takeOpening .flowSequenceStart
  else if c == '\x7b' then scanner.takeOpening .flowMappingStart
  else if c == ']' then scanner.takeClosing .flowSequenceEnd
  else if c == '\x7d' then scanner.takeClosing .flowMappingEnd
  else if c == ',' then scanner.takeFlowEntry
  else if c == '-' && alone then scanner.takeBlockEntry
  else if c == '?' && (scanner.inFlow || alone) then scanner.takeKey
  else if c == ':' && (scanner.inFlow || alone) then scanner.takeValue
  else if c == '*' then scanner.takeName .aliasName .aliasName
  else if c == '&' then scanner.takeName .anchorName .anchorName
  else if c == '!' then scanner.takeTag
  else if c == '|' && !scanner.inFlow then scanner.takeBlockScalar .literal
  else if c == '>' && !scanner.inFlow then scanner.takeBlockScalar .folded
  else if c == '\'' || c == '"' then scanner.takeQuotedScalar c
  else if beginsPlain c || c == '-' || ((c == '?' || c == ':') && !scanner.inFlow) then
    scanner.takePlainScalar
  else .error (.during .nextToken point.mark .startlessToken point.mark)

/-- Cuts off the next token. -/
def take (scanner : Scanner) : Except SyntaxFault Scanner := do
  let scanner ← scanner.skipGap.forgetStale
  let scanner := scanner.unindent scanner.column
  let scanner ← match scanner.point.first? with
    | none => scanner.takeEnd
    | some c => scanner.takeFrom c
  scanner.forgetStale

/-- Says whether the end of the text has been cut off. -/
def isDone (scanner : Scanner) : Bool :=
  match scanner.tokens with
  | [] => false
  | token :: _ => token.sign = .streamEnd

end Scanner

/-- The tokens of a text up to its end, or up to a fault. -/
structure Tokens where
  tokens : List Token
  fault : Option SyntaxFault
  deriving Repr, Inhabited

namespace Tokens

/-- Cuts off at most `fuel` more tokens. At a fault only settled tokens count. -/
def scanUpTo : (fuel : Nat) → Scanner → Tokens
  | 0, scanner => ⟨scanner.tokens.reverse, none⟩
  | fuel + 1, scanner =>
    match scanner.take with
    | .error fault => ⟨scanner.tokens.reverse.take scanner.settled, some fault⟩
    | .ok next => if next.isDone then ⟨next.tokens.reverse, none⟩ else scanUpTo fuel next

/-- Says whether a character may stand in a text. -/
def isAllowed (c : Char) : Bool :=
  c == '\t' || c == '\n' || c == '\r' || (' ' ≤ c && c ≤ '~') || c == '\u0085' ||
    ('\u00a0' ≤ c && c ≤ '\ufffd') || 0x10000 ≤ c.toNat

/-- The number of bytes in front of the first character that may not stand in a text. -/
def refusedAt? : Nat → List Char → Option Nat
  | _, [] => none
  | offset, c :: cs => if isAllowed c then refusedAt? (offset + c.utf8Size) cs else some offset

/-- The tokens of a text. Every token takes a character, and the end of the text one step more. -/
def ofText (text : String) : Tokens :=
  let cs := text.toList
  match refusedAt? 0 cs with
  | some offset =>
    ⟨[], some { problem := .controlCharacter, mark := Mark.start, offset }⟩
  | none => scanUpTo (cs.length + 1) { point := ⟨Mark.start, cs⟩ }

end Tokens

end SchemaPress.Yaml
