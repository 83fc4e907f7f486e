import SchemaPress.Yaml.Fault
import SchemaPress.Yaml.Gap

/-!
# Plain scalars

A plain scalar is words without quotes, with gaps between them. It ends in front of a colon with a
gap behind it, in front of a comment, in front of a line that is not set in far enough, and
between brackets also in front of a comma or a bracket.
-/

set_option autoImplicit false

namespace SchemaPress.Yaml.PlainScalar

/-- Says whether a character separates or closes what stands between brackets. -/
def isFlowIndicator (c : Char) : Bool :=
  c == ',' || c == '[' || c == ']' || c == '\x7b' || c == '\x7d'

/-- Says whether a colon between brackets is misplaced in front of a character. -/
def refusesColon (c : Char) : Bool :=
  isFlowIndicator c || c == '?'

/-- Says whether a word ends in front of some text. -/
def endsWord (inFlow : Bool) : List Char → Bool
  | [] => true
  | c :: cs =>
    isSpacing c || (c == ':' && cs.head?.all isSpacing) || (inFlow && isFlowIndicator c)

/-- A word and the point behind it, or the mark of a misplaced colon. -/
def scanWord (inFlow : Bool) : Mark → List Char → Except Mark (List Char × Point)
  | mark, [] => .ok ([], ⟨mark, []⟩)
  | mark, c :: cs =>
    if inFlow && c == ':' && cs.head?.any refusesColon then .error mark
    else if endsWord inFlow (c :: cs) then .ok ([], ⟨mark, c :: cs⟩)
    else do
      let (word, point) ← scanWord inFlow (mark.next c) cs
      return (c :: word, point)

/-- What has been read of a plain scalar. -/
structure Draft where
  text : List Char := []
  /-- The mark behind the last word. -/
  past : Mark
  /-- The gap behind the last word. -/
  gap : Gap := {}
  deriving DecidableEq, Repr, Inhabited

def Draft.add (draft : Draft) (word : List Char) (past : Mark) : Draft :=
  if word.isEmpty then draft
  else { text := draft.text ++ draft.gap.text ++ word, past }

/-- Goes on with a plain scalar of at most `fuel` words. -/
def scanUpTo (inFlow : Bool) (least : Nat) (since : Mark) :
    (fuel : Nat) → Draft → Point → Except SyntaxFault (Draft × Point)
  | 0, draft, point => .ok (draft, point)
  | fuel + 1, draft, point =>
    if point.atDocumentMark || point.startsWith '#' then .ok (draft, point)
    else
      match scanWord inFlow point.mark point.rest with
      | .error mark => .error (.during .plainScalar since .colonInFlow mark)
      | .ok (word, behind) =>
        let draft := draft.add word behind.mark
        if !behind.nextIs isSpacing then .ok (draft, behind)
        else
          match Gap.scan least behind with
          | .error mark => .error (.during .plainScalar since .tabInPlain mark)
          | .ok (gap, next) =>
            let draft := { draft with gap }
            if !inFlow && next.mark.column < least then .ok (draft, next)
            else scanUpTo inFlow least since fuel draft next

/-- Reads a plain scalar whose lines start at the least column or behind it: the scalar, and the
point behind the gap that follows it. -/
def scan (inFlow : Bool) (least : Nat) (point : Point) : Except SyntaxFault (Draft × Point) :=
  scanUpTo inFlow least point.mark (point.rest.length + 1) { past := point.mark } point

end SchemaPress.Yaml.PlainScalar
