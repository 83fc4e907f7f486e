import SchemaPress.Proofs.Json.Written
import SchemaPress.Text.DecimalDigit

/-!
# Reading back a number, a text or a word

The scanners of the leaves of JSON, run on what `Written` writes and on anything that may follow it.
Each takes exactly the characters of its leaf. A number is taken apart into its parts, and its value
is a natural number where `WrittenNumber.count?` says so; a text stands for what `Glyph.text?` says.

A text ends at its closing quote, so anything may follow it. A number and a word have no closing
mark; behind a number no character may stand with which a number could go on.
-/

set_option autoImplicit false

namespace SchemaPress.Json

/-! ## Numbers -/

/-- Says that a row of digits cannot go on with some characters. -/
def DigitsStop (cs : List Char) : Prop :=
  ∀ c ∈ cs.head?, c.isDigit = false

/-- Says that a number cannot go on with some characters. -/
def NumberStops (cs : List Char) : Prop :=
  ∀ c ∈ cs.head?, c.isDigit = false ∧ c ≠ '.' ∧ c ≠ 'e' ∧ c ≠ 'E'

/-- What stops a number stops a row of digits. -/
theorem NumberStops.digitsStop {cs : List Char} (stop : NumberStops cs) : DigitsStop cs :=
  fun c hc => (stop c hc).1

namespace Numeral

/-- A row of digits is taken whole, up to the first character that is none. -/
theorem scanDigits_append (digits : Digits) {rest : List Char} (stop : DigitsStop rest)
    (place : Text.Place) :
    scanDigits place (digits.chars ++ rest) =
      .ok (digits.chars, pastDigits place digits.chars, rest) := by
  have none : rest.takeWhile Char.isDigit = [] ∧ rest.dropWhile Char.isDigit = rest := by
    cases rest with
    | nil => simp
    | cons c rest =>
      have hc : c.isDigit = false := stop c (by simp)
      simp [hc]
  simp only [scanDigits, List.takeWhile_append_of_pos digits.digits,
    List.dropWhile_append_of_pos digits.digits, none.1, none.2, List.append_nil]
  simp [digits.nonempty]

/-- The whole part of a number is taken, be it a lone zero or a row of digits. -/
theorem scanWhole_append (number : WrittenNumber) {rest : List Char} (stop : DigitsStop rest)
    (place : Text.Place) :
    scanWhole place (number.whole.chars ++ rest) =
      .ok (number.whole.chars, pastDigits place number.whole.chars, rest) := by
  by_cases zero : number.whole.chars.head? = some '0'
  · rw [number.lead zero]
    cases rest with
    | nil => rfl
    | cons c rest =>
      have hc : c.isDigit = false := stop c (by simp)
      simp [scanWhole, hc]
  · have digits := scanDigits_append number.whole stop place
    cases h : number.whole.chars with
    | nil => exact absurd h number.whole.nonempty
    | cons c cs =>
      rw [h] at zero digits
      have hc : c ≠ '0' := by simpa using zero
      simpa [scanWhole, hc] using digits

/-- The fraction of a number is taken, if it has one. -/
theorem scanFraction_append (number : WrittenNumber) {rest : List Char} (stop : DigitsStop rest)
    (point : rest.head? ≠ some '.') (place : Text.Place) :
    ∃ past, scanFraction place (number.fractionChars ++ rest) =
      .ok (number.fraction.map Digits.chars, past, rest) := by
  unfold WrittenNumber.fractionChars
  cases number.fraction with
  | none =>
    refine ⟨place, ?_⟩
    cases rest with
    | nil => rfl
    | cons c rest =>
      have hc : c ≠ '.' := by simpa using point
      simp [scanFraction, hc, pure, Except.pure]
  | some digits =>
    refine ⟨pastDigits (place.after '.') digits.chars, ?_⟩
    simp [scanFraction, scanDigits_append digits stop, bind, Except.bind, pure, Except.pure]

/-- The exponent of a number is taken, if it has one. -/
theorem scanExponent_append (number : WrittenNumber) {rest : List Char} (stop : NumberStops rest)
    (place : Text.Place) :
    ∃ past, scanExponent place (number.exponentChars ++ rest) =
      .ok (number.numeral.exponent, past, rest) := by
  unfold WrittenNumber.exponentChars WrittenNumber.numeral
  cases number.exponent with
  | none =>
    refine ⟨place, ?_⟩
    cases rest with
    | nil => rfl
    | cons c rest =>
      obtain ⟨-, -, small, capital⟩ := stop c (by simp)
      simp [scanExponent, small, capital, pure, Except.pure]
  | some exponent =>
    have letter := exponent.letter_eq
    have digits := scanDigits_append exponent.size stop.digitsStop
    simp only [Exponent.chars, Exponent.signChars, Option.map_some, List.cons_append]
    rcases exponent.sign with _ | _ | _
    · -- Where no sign is written, the first digit must not be taken for one.
      have first : ∀ c ∈ exponent.size.chars.head?, c ≠ '+' ∧ c ≠ '-' := by
        intro c hc
        have digit : c.isDigit := exponent.size.digits c (List.mem_of_mem_head? hc)
        constructor <;> rintro rfl <;> exact absurd digit (by decide)
      refine ⟨pastDigits (place.after exponent.letter) exponent.size.chars, ?_⟩
      cases h : exponent.size.chars with
      | nil => exact absurd h exponent.size.nonempty
      | cons c cs =>
        obtain ⟨plus, minus⟩ := first c (by simp [h])
        rw [h] at digits
        simp only [List.cons_append] at digits
        simp [scanExponent, letter, plus, minus, digits, bind, Except.bind, pure, Except.pure]
    · refine ⟨pastDigits ((place.after exponent.letter).after '+') exponent.size.chars, ?_⟩
      simp [scanExponent, letter, digits, bind, Except.bind, pure, Except.pure]
    · refine ⟨pastDigits ((place.after exponent.letter).after '-') exponent.size.chars, ?_⟩
      simp [scanExponent, letter, digits, bind, Except.bind, pure, Except.pure]

/-- What follows the whole part of a number stops its digits. -/
theorem digitsStop_fraction (number : WrittenNumber) {rest : List Char}
    (stop : NumberStops rest) :
    DigitsStop (number.exponentChars ++ rest) ∧
      (number.exponentChars ++ rest).head? ≠ some '.' ∧
      DigitsStop (number.fractionChars ++ (number.exponentChars ++ rest)) := by
  have exponent : DigitsStop (number.exponentChars ++ rest) ∧
      (number.exponentChars ++ rest).head? ≠ some '.' := by
    unfold WrittenNumber.exponentChars
    cases number.exponent with
    | none =>
      refine ⟨stop.digitsStop, fun h => ?_⟩
      exact (stop '.' (by simpa using h)).2.1 rfl
    | some exponent =>
      rcases exponent.letter_eq with letter | letter <;> simp [DigitsStop, Exponent.chars, letter]
  refine ⟨exponent.1, exponent.2, ?_⟩
  unfold WrittenNumber.fractionChars
  cases number.fraction with
  | none => exact exponent.1
  | some digits => simp [DigitsStop]

/-- A number is taken apart into its parts, and nothing behind it is taken. -/
theorem scan_append (number : WrittenNumber) {rest : List Char} (stop : NumberStops rest)
    (place : Text.Place) :
    ∃ past, scan place (number.chars ++ rest) = .ok (number.numeral, past, rest) := by
  obtain ⟨afterFraction, point, afterWhole⟩ := digitsStop_fraction number stop
  have parts (place : Text.Place) : ∃ second third,
      scanFraction (pastDigits place number.whole.chars)
        (number.fractionChars ++ (number.exponentChars ++ rest)) =
          .ok (number.fraction.map Digits.chars, second, number.exponentChars ++ rest) ∧
      scanExponent second (number.exponentChars ++ rest) =
        .ok (number.numeral.exponent, third, rest) := by
    obtain ⟨second, hsecond⟩ := scanFraction_append number afterFraction point
      (pastDigits place number.whole.chars)
    obtain ⟨third, hthird⟩ := scanExponent_append number stop second
    exact ⟨second, third, hsecond, hthird⟩
  unfold scan WrittenNumber.chars WrittenNumber.signChars
  cases sign : number.negative with
  | true =>
    obtain ⟨second, third, hsecond, hthird⟩ := parts (place.after '-')
    have whole := scanWhole_append number afterWhole (place.after '-')
    refine ⟨third, ?_⟩
    simp [List.append_assoc, whole, hsecond, hthird, WrittenNumber.numeral, sign, bind,
      Except.bind, pure, Except.pure]
  | false =>
    obtain ⟨second, third, hsecond, hthird⟩ := parts place
    have whole := scanWhole_append number afterWhole place
    have first : ∃ c cs, number.whole.chars = c :: cs ∧ c ≠ '-' := by
      cases h : number.whole.chars with
      | nil => exact absurd h number.whole.nonempty
      | cons c cs =>
        refine ⟨c, cs, rfl, ?_⟩
        rintro rfl
        exact absurd (number.whole.digits '-' (by simp [h])) (by decide)
    obtain ⟨c, cs, h, minus⟩ := first
    rw [h, List.cons_append] at whole
    rw [h] at hsecond
    refine ⟨third, ?_⟩
    simp [List.append_assoc, h, minus, whole, hsecond, hthird, WrittenNumber.numeral, sign, bind,
      Except.bind, pure, Except.pure]

/-- More digits never make a number smaller. -/
theorem le_foldl_digits (digits : List Char) (value : Nat) :
    value ≤ digits.foldl (fun value c => 10 * value + (c.toNat - '0'.toNat)) value := by
  induction digits generalizing value with
  | nil => simp
  | cons c digits ih =>
    have h := ih (10 * value + (c.toNat - '0'.toNat))
    simp only [List.foldl_cons]
    omega

/-- Digits are taken into a number as long as it stays below the bound, and some are left over where
it does not. -/
theorem absorb_digits (bound : Nat) (digits : List Char) (value : Nat) :
    let total := digits.foldl (fun value c => 10 * value + (c.toNat - '0'.toNat)) value
    (total < bound → absorb bound value digits = (total, [])) ∧
      (value < bound → bound ≤ total → (absorb bound value digits).2 ≠ []) := by
  induction digits generalizing value with
  | nil =>
    refine ⟨fun _ => rfl, fun low high => ?_⟩
    simp only [List.foldl_nil] at high
    omega
  | cons c digits ih =>
    obtain ⟨all, some⟩ := ih (10 * value + (c.toNat - '0'.toNat))
    have grows := le_foldl_digits digits (10 * value + (c.toNat - '0'.toNat))
    simp only [List.foldl_cons, absorb]
    constructor
    · intro low
      rw [if_pos (by omega)]
      exact all low
    · intro _ high
      split
      · next more => exact some more high
      · exact List.cons_ne_nil _ _

end Numeral

/-- The count that a number is, if it is a whole one and not negative. -/
def countOf (value : Except Fault Number) : Option Nat :=
  match value with
  | .ok (.whole value) => if 0 ≤ value then some value.toNat else none
  | _ => none

/-- The natural number of 64 bits that a written number is, if it is one. -/
def WrittenNumber.count? (number : WrittenNumber) : Option Nat :=
  if number.negative || number.fraction.isSome || number.exponent.isSome then none
  else Text.numeral? Numeral.wholeBound number.whole.chars

/-- A numeral with a fraction, an exponent or digits beyond 64 bits is no natural number. -/
theorem countOf_value_fraction (numeral : Numeral) (place : Text.Place)
    (broken : (numeral.fraction.isNone && numeral.exponent.isNone &&
      (Numeral.absorb Numeral.wholeBound 0 numeral.whole).2.isEmpty) = false) :
    countOf (numeral.value place) = none := by
  unfold Numeral.value
  simp only [broken]
  repeat' split
  all_goals first | rfl | contradiction

/-- A written number is read as the natural number that it is, and as no other. -/
theorem countOf_value (number : WrittenNumber) (place : Text.Place) :
    countOf (number.numeral.value place) = number.count? := by
  obtain ⟨fits, overflows⟩ := Numeral.absorb_digits Numeral.wholeBound number.whole.chars 0
  have digits : number.whole.chars.all Char.isDigit := by
    simpa [List.all_eq_true] using number.whole.digits
  have bound : 0 < Numeral.wholeBound := by decide
  by_cases plain : number.fraction.isNone && number.exponent.isNone
  · obtain ⟨fraction, exponent⟩ : number.fraction = none ∧ number.exponent = none := by
      simpa using plain
    by_cases low : Text.decimalValue number.whole.chars < Numeral.wholeBound
    · have absorbed := fits low
      cases sign : number.negative with
      | false =>
        simp [countOf, Numeral.value, WrittenNumber.numeral, WrittenNumber.count?, absorbed, sign,
          fraction, exponent, Text.numeral?, digits, low]
        rfl
      | true =>
        -- A minus sign makes a number below zero, or the fraction that is minus zero.
        simp only [Numeral.value, WrittenNumber.numeral, WrittenNumber.count?, absorbed, sign,
          fraction, exponent, Option.map_none, Option.isNone_none, List.isEmpty_nil,
          Bool.and_true, Bool.not_true, Bool.true_or, Bool.false_eq_true, if_true, if_false]
        split
        · next below =>
          simp only [countOf]
          rw [if_neg (by omega)]
        · rfl
    · have left := overflows bound (Nat.le_of_not_lt low)
      rw [countOf_value_fraction]
      · simp [WrittenNumber.count?, fraction, exponent, Text.numeral?, low]
      · simp [WrittenNumber.numeral, left]
  · rw [countOf_value_fraction]
    · have some : number.fraction.isSome || number.exponent.isSome := by
        revert plain
        cases number.fraction <;> cases number.exponent <;> simp
      simp [WrittenNumber.count?, Bool.or_assoc, some]
    · have none : (number.fraction.isNone && number.exponent.isNone) = false :=
        Bool.eq_false_iff.mpr plain
      simp [WrittenNumber.numeral, none]

/-! ## Texts -/

namespace Quotation

/-- Every letter that may stand behind a backslash stands for a character. -/
theorem escapee?_isSome {letter : Char} (allowed : letter ∈ escapeLetters) :
    ∃ c, escapee? letter = some c := by
  simp only [escapeLetters, List.mem_cons, List.not_mem_nil, or_false] at allowed
  rcases allowed with rfl | rfl | rfl | rfl | rfl | rfl | rfl | rfl <;> exact ⟨_, rfl⟩

/-- A hexadecimal digit has a value. -/
theorem hexDigit?_isSome {c : Char} (h : isHexDigit c) : ∃ n, hexDigit? c = some n := by
  simp only [isHexDigit, Bool.or_eq_true, Bool.and_eq_true, decide_eq_true_eq] at h
  unfold hexDigit?
  rcases h with (h | h) | h
  · exact ⟨_, if_pos h⟩
  · by_cases decimal : '0' ≤ c ∧ c ≤ '9'
    · exact ⟨_, if_pos decimal⟩
    · exact ⟨_, by rw [if_neg decimal, if_pos h]⟩
  · by_cases decimal : '0' ≤ c ∧ c ≤ '9'
    · exact ⟨_, if_pos decimal⟩
    · by_cases small : 'a' ≤ c ∧ c ≤ 'f'
      · exact ⟨_, by rw [if_neg decimal, if_pos small]⟩
      · exact ⟨_, by rw [if_neg decimal, if_neg small, if_pos h]⟩

/-- Four of them are a code unit. -/
theorem codeUnit?_isSome {a b c d : Char} (allowed : ∀ digit ∈ [a, b, c, d], isHexDigit digit) :
    ∃ code, codeUnit? a b c d = some code := by
  obtain ⟨i, hi⟩ := hexDigit?_isSome (allowed a (by simp))
  obtain ⟨j, hj⟩ := hexDigit?_isSome (allowed b (by simp))
  obtain ⟨k, hk⟩ := hexDigit?_isSome (allowed c (by simp))
  obtain ⟨l, hl⟩ := hexDigit?_isSome (allowed d (by simp))
  exact ⟨_, by simp only [codeUnit?, hi, hj, hk, hl]; rfl⟩

/-- A glyph is scanned as its piece, whatever follows it. -/
theorem scan_glyph (glyph : Glyph) (place : Text.Place) (rest : List Char) :
    ∃ past, scan place (glyph.chars ++ rest) =
      ((scan past rest).1.push ⟨place, glyph.piece, past⟩, (scan past rest).2) := by
  cases glyph with
  | plain c allowed =>
    obtain ⟨high, notQuote, notBackslash⟩ := allowed
    have low : ¬ c.toNat < 32 := by omega
    exact ⟨place.after c, by simp [Glyph.chars, Glyph.piece, scan, low, notBackslash]⟩
  | escape letter allowed =>
    obtain ⟨c, hc⟩ := escapee?_isSome allowed
    have notUnit : letter ≠ 'u' := by
      rintro rfl
      simp [escapeLetters] at allowed
    exact ⟨place.afterAll ['\\', letter], by simp [Glyph.chars, Glyph.piece, scan, hc, notUnit]⟩
  | unit a b c d allowed =>
    obtain ⟨code, hcode⟩ := codeUnit?_isSome allowed
    exact ⟨place.afterAll ['\\', 'u', a, b, c, d],
      by simp [Glyph.chars, Glyph.piece, scan, hcode]⟩

/-- A text is read up to its closing quote, as the pieces that its glyphs are. -/
theorem scan_append (glyphs : List Glyph) (place : Text.Place) (rest : List Char) :
    ∃ pieces past, scan place (glyphs.flatMap Glyph.chars ++ '"' :: rest) =
        (⟨pieces, .ok past⟩, rest) ∧
      pieces.map PlacedPiece.piece = glyphs.map Glyph.piece := by
  induction glyphs generalizing place with
  | nil => exact ⟨[], place.after '"', by simp [scan], rfl⟩
  | cons glyph glyphs ih =>
    obtain ⟨middle, hglyph⟩ :=
      scan_glyph glyph place (glyphs.flatMap Glyph.chars ++ '"' :: rest)
    obtain ⟨pieces, past, hrest, hpieces⟩ := ih middle
    refine ⟨⟨place, glyph.piece, middle⟩ :: pieces, past, ?_, by simp [hpieces]⟩
    rw [List.flatMap_cons, List.append_assoc, hglyph, hrest]
    rfl

/-- A character in front of the characters of a reading. -/
theorem toOption_cons (c : Char) (rest : Except Fault (List Char)) :
    (do return c :: (← rest) : Except Fault (List Char)).toOption =
      rest.toOption.map (c :: ·) := by
  cases rest <;> rfl

/-- Pieces stand for the same characters wherever they stand in the text. -/
theorem chars_toOption (past : Text.Place) (pieces : List PlacedPiece) :
    (chars (.ok past) pieces).toOption = Glyph.decoded? (pieces.map PlacedPiece.piece) := by
  generalize ended : (Except.ok past : Except Fault Text.Place) = ending
  fun_induction chars ending pieces with
  | case1 =>
    subst ended
    rfl
  | case2 _ c _ pieces ih =>
    rw [toOption_cons, ih]
    rfl
  | case3 _ c _ pieces ih =>
    rw [toOption_cons, ih]
    rfl
  | case4 _ code _ pieces trailing =>
    unfold Glyph.decoded?
    simp [Except.toOption, trailing]
  | case5 _ code _ notTrailing leading _ second _ pieces trailing ih =>
    rw [toOption_cons, ih]
    simp [Glyph.decoded?, notTrailing, leading, trailing]
  | case6 _ code _ notTrailing leading _ second _ pieces alone =>
    simp [Except.toOption, Glyph.decoded?, notTrailing, leading, alone]
  | case7 _ code _ notTrailing leading =>
    simp [Except.toOption, Glyph.decoded?, notTrailing, leading]
  | case8 _ code _ notTrailing leading =>
    simp [Except.toOption, Glyph.decoded?, notTrailing, leading]
  | case9 _ code _ notTrailing leading =>
    simp [Except.toOption, Glyph.decoded?, notTrailing, leading]
  | case10 _ code _ pieces notTrailing notLeading ih =>
    rw [toOption_cons, ih, List.map_cons]
    conv => rhs; unfold Glyph.decoded?
    simp [notTrailing, notLeading]

/-- A text stands for what its glyphs stand for. -/
theorem text_toOption {pieces : List PlacedPiece} {past : Text.Place} {glyphs : List Glyph}
    (same : pieces.map PlacedPiece.piece = glyphs.map Glyph.piece) :
    (text ⟨pieces, .ok past⟩).toOption = Glyph.text? glyphs := by
  have h := chars_toOption past pieces
  rw [same] at h
  unfold text Glyph.text?
  rw [← h]
  show (Except.map String.ofList (chars (.ok past) pieces)).toOption = _
  cases chars (.ok past) pieces <;> rfl

end Quotation

/-! ## Words -/

/-- The letters of a word are taken, and nothing behind them. -/
theorem Token.scanLetters_append (letters rest : List Char) (place : Text.Place) :
    ∃ past, scanLetters place letters (letters ++ rest) = .ok (past, rest) := by
  induction letters generalizing place with
  | nil => exact ⟨place, by simp [scanLetters]⟩
  | cons letter letters ih =>
    obtain ⟨past, hpast⟩ := ih (place.after letter)
    exact ⟨past, by simpa [scanLetters] using hpast⟩

end SchemaPress.Json
