import SchemaPress.Yaml.Tag

/-!
# Directives

In front of a document there may be lines that begin with a percent sign: the version of YAML it is
written in, and what the handles of its tags stand for.
-/

set_option autoImplicit false

namespace SchemaPress.Yaml

/-- A line in front of a document. -/
inductive Directive where
  | version (major minor : Nat)
  /-- What a handle stands for. -/
  | handle (name : List Char) (meaning : Tag)
  deriving DecidableEq, Repr, Inhabited

namespace Directive

/-- The most digits that a number of a version may have. -/
def maxDigits : Nat := 9

/-- Reads a number of a version: the number and the point behind it. -/
def scanNumber (since : Mark) (point : Point) : Except SyntaxFault (Nat × Point) :=
  let (digits, past) := point.span Char.isDigit
  if digits.isEmpty then .error (.during .versionDirective since .versionMissing point.mark)
  else if maxDigits < digits.length then
    .error (.during .versionDirective since .versionTooLong (point.skipMany maxDigits).mark)
  else .ok (digits.foldl (fun value c => 10 * value + (c.toNat - '0'.toNat)) 0, past)

/-- Reads the two numbers of a version. -/
def scanVersion (since : Mark) (point : Point) : Except SyntaxFault (Directive × Point) := do
  let (major, point) ← scanNumber since point.skipBlanks
  if !point.startsWith '.' then
    throw (.during .versionDirective since .versionDotMissing point.mark)
  let (minor, point) ← scanNumber since point.skip
  return (version major minor, point)

/-- Reads a handle and what it stands for. -/
def scanMeaning (since : Mark) (point : Point) : Except SyntaxFault (Directive × Point) := do
  let point := point.skipBlanks
  if !point.startsWith '!' then
    throw (.during .handleOfDirective since .exclamationExpected point.mark)
  let (name, point) := Tag.scanHandle point
  if name ≠ ['!'] ∧ !Tag.isHandle name then
    throw (.during .handleOfDirectiveEnd since .exclamationExpected point.mark)
  if !point.nextIs isBlank then
    throw (.during .handleDirective since .whitespaceExpected point.mark)
  let (units, point) ← Tag.scanUri .uriOfDirective true since point.skipBlanks
  if units.isEmpty then throw (Tag.uriMissing .uriOfDirective since point)
  if !point.nextIsOrEnds isSpacing then
    throw (.during .handleDirective since .whitespaceOrBreakExpected point.mark)
  return (handle name (Tag.ofUnits units), point)

/-- Reads a directive from its percent sign on, and goes on behind its line. -/
def scan (point : Point) : Except SyntaxFault (Directive × Point) := do
  let since := point.mark
  let (name, point) := point.skip.span isNameChar
  if name.isEmpty then throw (.during .directive since .directiveNameMissing point.mark)
  if !point.nextIsOrEnds isSpacing then
    throw (.during .directive since .strangeDirectiveName point.mark)
  let (directive, point) ←
    if name = "YAML".toList then scanVersion since point
    else if name = "TAG".toList then scanMeaning since point
    else throw (.during .directive since .unknownDirective point.mark)
  let point := point.skipBlanks.skipComment
  if !point.nextIsOrEnds isBreak then
    throw (.during .directive since .commentOrBreakExpected point.mark)
  return (directive, point.skipBreak)

end Directive

end SchemaPress.Yaml
