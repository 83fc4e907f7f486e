import Mathlib.Data.List.Forall2
import Mathlib.Tactic.SplitIfs
import SchemaPress.Json.Printer
import SchemaPress.Proofs.Json.Written

/-!
# The layout of a printed value

The pretty text of a value is a layout of the value. `Value.written` is the syntax tree that the
printer writes: each character of a text is one glyph, which stands for that character alone, and
the members of a record are those of the value in their order. `laid_pretty` says that the pretty
text holds the tokens of this tree with blanks between them and nothing else; `laid_compact` says
that of the compact text.
-/

set_option autoImplicit false

namespace SchemaPress.Json

/-! ## Texts -/

namespace Glyph

/-- A number below sixteen is written as a hexadecimal digit. -/
theorem isHexDigit_digitChar {n : Nat} (small : n < 16) : isHexDigit n.digitChar := by
  have all : ∀ n < 16, isHexDigit n.digitChar := by decide
  exact all n small

/-- The four hexadecimal digits of a control character are such digits. -/
theorem controlDigits {code : Nat} (control : code < 32) :
    ∀ digit ∈ ['0', '0', Nat.digitChar (code / 16), Nat.digitChar (code % 16)],
      isHexDigit digit := by
  simp only [List.forall_mem_cons]
  exact ⟨rfl, rfl, isHexDigit_digitChar (by omega), isHexDigit_digitChar (by omega),
    fun _ mem => absurd mem List.not_mem_nil⟩

/-- The glyph as which a character is written. -/
def ofChar (c : Char) : Glyph :=
  if quote : c = '"' then .escape '"' (by decide)
  else if backslash : c = '\\' then .escape '\\' (by decide)
  else if c = '\x08' then .escape 'b' (by decide)
  else if c = '\x0c' then .escape 'f' (by decide)
  else if c = '\n' then .escape 'n' (by decide)
  else if c = '\r' then .escape 'r' (by decide)
  else if c = '\t' then .escape 't' (by decide)
  else if control : c.toNat < 32 then
    .unit '0' '0' (Nat.digitChar (c.toNat / 16)) (Nat.digitChar (c.toNat % 16))
      (controlDigits control)
  else .plain c ⟨by omega, quote, backslash⟩

/-- The hexadecimal digits of a control character, behind zeros up to four of them. -/
theorem hexadecimal_control {code : Nat} (control : code < 32) :
    (if code < 16 then "\\u000".toList ++ Text.hexadecimal code
      else "\\u00".toList ++ Text.hexadecimal code) =
      ['\\', 'u', '0', '0', Nat.digitChar (code / 16), Nat.digitChar (code % 16)] := by
  unfold Text.hexadecimal
  by_cases small : code < 16
  · rw [if_pos small, Nat.toDigits_of_lt_base small, Nat.div_eq_of_lt small,
      Nat.mod_eq_of_lt small]
    rfl
  · rw [if_neg small, Nat.toDigits_of_base_le (by decide) (by omega),
      Nat.toDigits_of_lt_base (by omega)]
    rfl

/-- The glyph of a character is what the printer writes for it. -/
theorem chars_ofChar (c : Char) : (ofChar c).chars = escapedChar c := by
  unfold ofChar escapedChar
  by_cases quote : c = '"'
  · simp [quote, chars]
  by_cases backslash : c = '\\'
  · simp [backslash, chars]
  simp only [quote, backslash, or_self, if_false, dif_neg, not_false_eq_true]
  split_ifs with _ _ _ _ _ control small small
  all_goals try rfl
  · have digits := hexadecimal_control control
    rw [if_pos small] at digits
    exact digits.symm
  · have digits := hexadecimal_control control
    rw [if_neg small] at digits
    exact digits.symm
  · omega

/-- The code unit of a control character is that character. -/
theorem codeUnit?_control {code : Nat} (control : code < 32) :
    Quotation.codeUnit? '0' '0' (Nat.digitChar (code / 16)) (Nat.digitChar (code % 16)) =
      some code := by
  have all : ∀ n < 32, Quotation.codeUnit? '0' '0' (Nat.digitChar (n / 16))
      (Nat.digitChar (n % 16)) = some n := by decide
  exact all code control

/-- The glyph of a character stands for that character, whatever follows. -/
theorem decoded?_ofChar (c : Char) (pieces : List Piece) :
    decoded? ((ofChar c).piece :: pieces) = (decoded? pieces).map (c :: ·) := by
  unfold ofChar
  split_ifs with _ _ _ _ _ _ _ control
  all_goals try (subst c; rfl)
  · -- No control character is a surrogate, so its code unit stands alone.
    have below : ¬ Quotation.isTrailing c.toNat ∧ ¬ Quotation.isLeading c.toNat := by
      unfold Quotation.isTrailing Quotation.isLeading
      constructor <;> simp <;> omega
    simp only [piece, codeUnit?_control control, Option.getD_some]
    conv_lhs => unfold decoded?
    rw [if_neg below.1, if_neg below.2, Char.ofNat_toNat]
  · rfl

/-- The glyphs of a text stand for that text. -/
theorem text?_ofChars (text : String) : text? (text.toList.map ofChar) = some text := by
  have decoded (cs : List Char) : decoded? ((cs.map ofChar).map piece) = some cs := by
    induction cs with
    | nil => rfl
    | cons c cs ih => simp only [List.map_cons, decoded?_ofChar, ih, Option.map_some]
  simp only [text?, decoded, Option.map_some, String.ofList_toList]

end Glyph

/-- A quoted text is the token of its glyphs. -/
theorem quoted_toList (text : String) :
    (quoted text).toList = (Lexeme.text (text.toList.map Glyph.ofChar)).chars := by
  have glyphs : (text.toList.map Glyph.ofChar).flatMap Glyph.chars =
      text.toList.flatMap escapedChar := by
    rw [List.flatMap_map]
    simp only [Glyph.chars_ofChar]
  simp only [quoted, Lexeme.chars, glyphs, String.toList_ofList, List.cons_append]

/-! ## Numbers -/

def Digits.ofNat (n : Nat) : Digits where
  chars := Nat.toDigits 10 n
  nonempty := Nat.toDigits_ne_nil
  digits _ hc := Nat.isDigit_of_mem_toDigits (by decide) (by decide) hc

/-- The decimal digits of a number begin with a zero only if it is zero. -/
theorem Digits.lead_ofNat (n : Nat) (zero : (Digits.ofNat n).chars.head? = some '0') :
    (Digits.ofNat n).chars = ['0'] := by
  show Nat.toDigits 10 n = ['0']
  change (Nat.toDigits 10 n).head? = some '0' at zero
  -- From ten on, the first digit of a number is that of a tenth of it, which is not zero.
  have head (m : Nat) : (Nat.toDigits 10 m).head? = some '0' → m = 0 := by
    induction m using Nat.strongRecOn with
    | ind m ih =>
      intro zero
      by_cases small : m < 10
      · have all : ∀ k < 10, Nat.digitChar k = '0' → k = 0 := by decide
        rw [Nat.toDigits_of_lt_base small] at zero
        exact all m small (by simpa using zero)
      · rw [Nat.toDigits_of_base_le (by decide) (by omega),
          List.head?_append_of_ne_nil _ Nat.toDigits_ne_nil] at zero
        have := ih (m / 10) (by omega) zero
        omega
  rw [head n zero, Nat.toDigits_zero]

/-- A natural number as it is written. -/
def WrittenNumber.ofNat (n : Nat) : WrittenNumber where
  negative := false
  whole := .ofNat n
  lead := Digits.lead_ofNat n
  fraction := none
  exponent := none

/-- A natural number is written by its digits. -/
theorem WrittenNumber.chars_ofNat (n : Nat) : (ofNat n).chars = (toString n).toList := by
  simp [ofNat, chars, signChars, fractionChars, exponentChars, Digits.ofNat]

/-! ## Values -/

namespace Value

mutual

/-- A value as it is written. -/
def written : Value → Written
  | null => .null
  | flag value => .flag value
  | number value => .number (.ofNat value)
  | text value => .text (value.toList.map Glyph.ofChar)
  | list items => .list (writtenItems items)
  | record members => .record (writtenMembers members)

/-- The items of a list as they are written. -/
def writtenItems : List Value → List Written
  | [] => []
  | item :: items => written item :: writtenItems items

/-- The members of a record as they are written. -/
def writtenMembers : List (String × Value) → List (List Glyph × Written)
  | [] => []
  | (key, value) :: members =>
    (key.toList.map Glyph.ofChar, written value) :: writtenMembers members

end

/-- Items are written one by one. -/
theorem writtenItems_eq (items : List Value) : writtenItems items = items.map written := by
  induction items with
  | nil => rfl
  | cons item items ih => rw [writtenItems, ih, List.map_cons]

/-- Members are written one by one, each with its key. -/
theorem writtenMembers_eq (members : List (String × Value)) : writtenMembers members =
    members.map fun member => (member.1.toList.map Glyph.ofChar, member.2.written) := by
  induction members with
  | nil => rfl
  | cons member members ih => rw [writtenMembers, ih, List.map_cons]

end Value

/-! ## Layout -/

/-- A new line is nothing but blanks. -/
theorem blanks_newLine (depth : Nat) : Laid [] (Value.newLine depth).toList := by
  refine .ending fun c hc => ?_
  simp only [Value.newLine, String.toList_append, String.toList_ofList] at hc
  rcases List.mem_append.mp hc with hc | hc
  · obtain rfl : c = '\n' := by simpa using hc
    rfl
  · obtain rfl := List.eq_of_mem_replicate hc
    rfl

/-- The first of some joined parts stands before the separator and the others. -/
theorem joined_cons_cons (separator first second : String) (rest : List String) :
    Text.joined separator (first :: second :: rest) =
      first ++ separator ++ Text.joined separator (second :: rest) :=
  rfl

/-- Parts joined by a comma, with some blanks behind it, are a layout of the separated parts. -/
theorem laid_joined {separator : String} (comma : Laid [.comma] separator.toList)
    {lexemes : List (List Lexeme)} {parts : List String}
    (laid : List.Forall₂ (fun lexemes part => Laid lexemes part.toList) lexemes parts) :
    Laid (Lexeme.separated lexemes) (Text.joined separator parts).toList := by
  induction laid with
  | nil => exact .ending fun c hc => absurd hc List.not_mem_nil
  | @cons first part lexemes parts head tail ih =>
    cases tail with
    | nil => simpa [Lexeme.separated, Text.joined] using head
    | @cons second _ others _ _ _ =>
      have split : Lexeme.separated (first :: second :: others) =
          first ++ [.comma] ++ Lexeme.separated (second :: others) := by
        simp [Lexeme.separated]
      rw [split, joined_cons_cons, String.toList_append, String.toList_append]
      exact (head.append comma).append ih

/-- Parts between brackets are a layout of the separated parts between these. -/
theorem laid_bracketed {opening closing : String} {first last : Lexeme}
    (opens : Laid [first] opening.toList) (closes : Laid [last] closing.toList) (depth : Nat)
    {lexemes : List (List Lexeme)} {parts : List String}
    (laid : List.Forall₂ (fun lexemes part => Laid lexemes part.toList) lexemes parts) :
    Laid (first :: (Lexeme.separated lexemes ++ [last]))
      (Value.bracketed opening closing depth parts).toList := by
  have comma : Laid [.comma] ("," ++ Value.newLine (depth + 1)).toList := by
    rw [String.toList_append]
    exact (Laid.single .comma).append (blanks_newLine (depth + 1))
  have inner := laid_joined comma laid
  unfold Value.bracketed
  cases laid with
  | nil =>
    rw [if_pos List.isEmpty_nil, String.toList_append]
    exact opens.append closes
  | cons =>
    rw [if_neg (by simp)]
    simp only [String.toList_append] at inner ⊢
    have line := (opens.append (blanks_newLine (depth + 1))).append inner
    simpa using (line.append (blanks_newLine depth)).append closes

/-- Parts between brackets without any blanks are a layout of the separated parts between these. -/
theorem laid_enclosed {opening closing : String} {first last : Lexeme}
    (opens : Laid [first] opening.toList) (closes : Laid [last] closing.toList)
    {lexemes : List (List Lexeme)} {parts : List String}
    (laid : List.Forall₂ (fun lexemes part => Laid lexemes part.toList) lexemes parts) :
    Laid (first :: (Lexeme.separated lexemes ++ [last]))
      (opening ++ Text.joined "," parts ++ closing).toList := by
  have comma : Laid [.comma] ",".toList := Laid.single .comma
  rw [String.toList_append, String.toList_append]
  exact (opens.append (laid_joined comma laid)).append closes

namespace Value

mutual

/-- A value printed inside a number of others is a layout of its tokens. -/
theorem laid_prettyAt (depth : Nat) : (value : Value) →
    Laid value.written.lexemes (value.prettyAt depth).toList
  | .null => Laid.single .null
  | .flag true => Laid.single (.flag true)
  | .flag false => Laid.single (.flag false)
  | .number n => by
    rw [prettyAt, ← WrittenNumber.chars_ofNat]
    exact Laid.single (.number (.ofNat n))
  | .text value => by
    rw [prettyAt, quoted_toList]
    exact Laid.single (.text (value.toList.map Glyph.ofChar))
  | .list items => by
    rw [prettyAt]
    exact laid_bracketed (Laid.single .listOpen) (Laid.single .listClose) depth
      (laid_prettyItems depth items)
  | .record members => by
    rw [prettyAt]
    exact laid_bracketed (Laid.single .recordOpen) (Laid.single .recordClose) depth
      (laid_prettyMembers depth members)

/-- The items of a list, printed inside a number of values, are layouts of their tokens. -/
theorem laid_prettyItems (depth : Nat) : (items : List Value) →
    List.Forall₂ (fun lexemes part => Laid lexemes part.toList)
      (Written.itemLexemes (writtenItems items)) (prettyItems depth items)
  | [] => .nil
  | item :: items => .cons (laid_prettyAt (depth + 1) item) (laid_prettyItems depth items)

/-- The members of a record, printed inside a number of values, are layouts of their tokens. -/
theorem laid_prettyMembers (depth : Nat) : (members : List (String × Value)) →
    List.Forall₂ (fun lexemes part => Laid lexemes part.toList)
      (Written.memberLexemes (writtenMembers members)) (prettyMembers depth members)
  | [] => .nil
  | (key, value) :: members => by
    refine .cons ?_ (laid_prettyMembers depth members)
    have name := Laid.single (.text (key.toList.map Glyph.ofChar))
    rw [← quoted_toList] at name
    have blank : Laid [] [' '] := .ending fun c hc => by
      obtain rfl := List.mem_singleton.mp hc
      rfl
    have colon : Laid [.colon] ": ".toList := (Laid.single .colon).append blank
    rw [String.toList_append, String.toList_append]
    exact (name.append colon).append (laid_prettyAt (depth + 1) value)

end

/-- The pretty text of a value is a layout of its tokens. -/
theorem laid_pretty (value : Value) : Laid value.written.lexemes value.pretty.toList :=
  laid_prettyAt 0 value

mutual

/-- A value printed without blanks is a layout of its tokens. -/
theorem laid_compact : (value : Value) → Laid value.written.lexemes value.compact.toList
  | .null => Laid.single .null
  | .flag true => Laid.single (.flag true)
  | .flag false => Laid.single (.flag false)
  | .number n => by
    rw [compact, ← WrittenNumber.chars_ofNat]
    exact Laid.single (.number (.ofNat n))
  | .text value => by
    rw [compact, quoted_toList]
    exact Laid.single (.text (value.toList.map Glyph.ofChar))
  | .list items => by
    rw [compact]
    exact laid_enclosed (Laid.single .listOpen) (Laid.single .listClose) (laid_compactItems items)
  | .record members => by
    rw [compact]
    exact laid_enclosed (Laid.single .recordOpen) (Laid.single .recordClose)
      (laid_compactMembers members)

/-- The items of a list, printed without blanks, are layouts of their tokens. -/
theorem laid_compactItems : (items : List Value) →
    List.Forall₂ (fun lexemes part => Laid lexemes part.toList)
      (Written.itemLexemes (writtenItems items)) (compactItems items)
  | [] => .nil
  | item :: items => .cons (laid_compact item) (laid_compactItems items)

/-- The members of a record, printed without blanks, are layouts of their tokens. -/
theorem laid_compactMembers : (members : List (String × Value)) →
    List.Forall₂ (fun lexemes part => Laid lexemes part.toList)
      (Written.memberLexemes (writtenMembers members)) (compactMembers members)
  | [] => .nil
  | (key, value) :: members => by
    refine .cons ?_ (laid_compactMembers members)
    have name := Laid.single (.text (key.toList.map Glyph.ofChar))
    rw [← quoted_toList] at name
    rw [String.toList_append, String.toList_append]
    exact (name.append (Laid.single .colon)).append (laid_compact value)

end

end Value

end SchemaPress.Json
