import Mathlib.Data.List.TakeWhile
import Mathlib.Data.Nat.Digits.Defs
import SchemaPress.Proofs.Text.Joining
import SchemaPress.Schema.TypeTag

/-!
# The grammar of the parameters of a type tag

A tag has parameters from an opening parenthesis on if it goes on with one number and a closing
parenthesis (`OpensOne`), or with two numbers, a comma between them and a closing parenthesis
(`OpensTwo`), all with blanks around the numbers at will. If it does so from several parentheses,
the first of them counts (`IsFirst`).

The reader takes all blanks behind a parenthesis, then all digits, then all blanks. No digit is
blank, and the marks that may follow are neither, so there is no other way to read the front of a
text (`digitsBetweenBlanks?_eq_some_iff`). With the search from parenthesis to parenthesis
(`firstParenthesis?_eq_some_iff`) this gives the grammar of both kinds of parameters:
`length?_eq_some_iff` and `precisionScale?_eq_some_iff`. Nothing before the first parenthesis has
a part in it (`firstParenthesis?_dropWhile`).
-/

set_option autoImplicit false

namespace SchemaPress

/-! ## Blanks and digits -/

namespace Text

/-- No digit is a blank. -/
theorem isBlank_eq_false_of_isDecimalDigit {c : Char} (digit : isDecimalDigit c = true) :
    isBlank c = false := by
  have noRow : ∀ code ∈ [0x09, 0x0A, 0x0B, 0x0C, 0x0D, 0x20, 0x85, 0xA0, 0x1680, 0x2000, 0x2001,
      0x2002, 0x2003, 0x2004, 0x2005, 0x2006, 0x2007, 0x2008, 0x2009, 0x200A, 0x2028, 0x2029,
      0x202F, 0x205F, 0x3000],
      (decimalZeros.any fun first => first ≤ code && code < first + 10) = false := by
    decide
  by_contra notFalse
  have blank : isBlank c = true := by simpa using notFalse
  have free : (decimalZeros.any fun first =>
      first ≤ c.toNat && c.toNat < first + 10) = false := by
    apply noRow
    simp only [isBlank, Bool.or_eq_true, Bool.and_eq_true, decide_eq_true_eq, beq_iff_eq] at blank
    simp only [List.mem_cons, List.not_mem_nil, or_false]
    omega
  rw [isDecimalDigit, free] at digit
  cases digit

/-- Digits of ASCII are read in base ten, the last one first. -/
theorem decimalValue_eq_ofDigits (digits : List Char) :
    decimalValue digits =
      Nat.ofDigits 10 (digits.reverse.map fun c => c.toNat - '0'.toNat) := by
  rw [decimalValue, Nat.ofDigits_eq_foldr, List.foldr_map, List.foldr_reverse]
  simp only [Nat.cast_id, Nat.add_comm]

end Text

namespace TypeTag

/-! ## One number -/

/-- Says that a text begins with digits, with blanks around them at will, and that a mark and then
the rest follow. -/
def BeginsWithNumber (mark : Char) (cs digits rest : List Char) : Prop :=
  ∃ before after, cs = before ++ (digits ++ (after ++ mark :: rest)) ∧
    (∀ c ∈ before, Text.isBlank c = true) ∧ (∀ c ∈ after, Text.isBlank c = true) ∧
    digits ≠ [] ∧ ∀ c ∈ digits, Text.isDecimalDigit c = true

/-- Digits are read up to a mark if blanks at most stand around them. -/
theorem digitsBetweenBlanks?_eq_some_iff {mark : Char} (notBlank : Text.isBlank mark = false)
    (notDigit : Text.isDecimalDigit mark = false) {cs digits rest : List Char} :
    digitsBetweenBlanks? cs = some (digits, mark :: rest) ↔
      BeginsWithNumber mark cs digits rest := by
  constructor
  · intro read
    simp only [digitsBetweenBlanks?] at read
    split at read
    · cases read
    · rename_i taken
      obtain ⟨rfl, behind⟩ := Prod.mk.inj (Option.some.inj read)
      refine ⟨cs.takeWhile Text.isBlank,
        ((cs.dropWhile Text.isBlank).dropWhile Text.isDecimalDigit).takeWhile Text.isBlank,
        ?_, fun c => List.mem_takeWhile_imp, fun c => List.mem_takeWhile_imp,
        fun none => taken (by rw [none]; rfl), fun c => List.mem_takeWhile_imp⟩
      rw [← behind, List.takeWhile_append_dropWhile, List.takeWhile_append_dropWhile,
        List.takeWhile_append_dropWhile]
  · rintro ⟨before, after, rfl, blanks, blanks', some, allDigits⟩
    -- Each of the three runs ends where the next one begins.
    have beginning : ∀ c ∈ (digits ++ (after ++ mark :: rest)).head?, Text.isBlank c = false := by
      intro c head
      cases digits with
      | nil => exact absurd rfl some
      | cons digit digits =>
        obtain rfl : digit = c := by simpa using head
        exact Text.isBlank_eq_false_of_isDecimalDigit (allDigits digit List.mem_cons_self)
    have ending : ∀ c ∈ (after ++ mark :: rest).head?, Text.isDecimalDigit c = false := by
      intro c head
      cases after with
      | nil =>
        obtain rfl : mark = c := by simpa using head
        exact notDigit
      | cons blank after =>
        obtain rfl : blank = c := by simpa using head
        have isBlank := blanks' blank List.mem_cons_self
        by_contra digit
        rw [Text.isBlank_eq_false_of_isDecimalDigit (by simpa using digit)] at isBlank
        cases isBlank
    have closing : ∀ c ∈ (mark :: rest).head?, Text.isBlank c = false := by
      intro c head
      obtain rfl : mark = c := by simpa using head
      exact notBlank
    have inner := (Text.takeWhile_dropWhile_append blanks beginning).2
    have run := Text.takeWhile_dropWhile_append allDigits ending
    have behind := (Text.takeWhile_dropWhile_append blanks' closing).2
    unfold digitsBetweenBlanks?
    simp only [inner, run.1, run.2, behind, List.isEmpty_iff, some, if_false]

/-! ## Parameters behind a parenthesis -/

/-- Says that a text opens one number: a parenthesis, the number and the closing parenthesis. -/
def OpensOne (cs digits : List Char) : Prop :=
  ∃ inner rest, cs = '(' :: inner ∧ BeginsWithNumber ')' inner digits rest

/-- Says that a text opens two numbers with a comma between them. -/
def OpensTwo (cs : List Char) (numbers : List Char × List Char) : Prop :=
  ∃ inner middle rest, cs = '(' :: inner ∧ BeginsWithNumber ',' inner numbers.1 middle ∧
    BeginsWithNumber ')' middle numbers.2 rest

/-- One number is read up to a parenthesis. -/
theorem oneNumber?_eq_some_iff {cs digits : List Char} :
    oneNumber? cs = some digits ↔ ∃ rest, BeginsWithNumber ')' cs digits rest := by
  have closed (digits rest : List Char) :
      digitsBetweenBlanks? cs = some (digits, ')' :: rest) ↔ BeginsWithNumber ')' cs digits rest :=
    digitsBetweenBlanks?_eq_some_iff (by decide) (by decide)
  simp only [← closed]
  unfold oneNumber?
  split
  · rename_i found rest read
    simp [read]
  · rename_i other
    constructor
    · intro read
      cases read
    · rintro ⟨rest, read⟩
      exact absurd read (other digits rest)

/-- Two numbers are read with a comma between them, up to a parenthesis. -/
theorem twoNumbers?_eq_some_iff {cs : List Char} {numbers : List Char × List Char} :
    twoNumbers? cs = some numbers ↔ ∃ middle rest, BeginsWithNumber ',' cs numbers.1 middle ∧
      BeginsWithNumber ')' middle numbers.2 rest := by
  have first (digits middle : List Char) :
      digitsBetweenBlanks? cs = some (digits, ',' :: middle) ↔
        BeginsWithNumber ',' cs digits middle :=
    digitsBetweenBlanks?_eq_some_iff (by decide) (by decide)
  have second (middle digits rest : List Char) :
      digitsBetweenBlanks? middle = some (digits, ')' :: rest) ↔
        BeginsWithNumber ')' middle digits rest :=
    digitsBetweenBlanks?_eq_some_iff (by decide) (by decide)
  simp only [← first, ← second]
  unfold twoNumbers?
  split
  · rename_i found middle read
    split
    · rename_i found' rest read'
      constructor
      · intro same
        obtain rfl := Option.some.inj same
        exact ⟨middle, rest, read, read'⟩
      · rintro ⟨middle', rest', front, back⟩
        obtain ⟨rfl, same⟩ := Prod.mk.inj (Option.some.inj (read.symm.trans front))
        obtain rfl := List.tail_eq_of_cons_eq same
        obtain ⟨rfl, -⟩ := Prod.mk.inj (Option.some.inj (read'.symm.trans back))
        rfl
    · rename_i other
      constructor
      · intro none
        cases none
      · rintro ⟨middle', rest', front, back⟩
        obtain ⟨-, same⟩ := Prod.mk.inj (Option.some.inj (read.symm.trans front))
        obtain rfl := List.tail_eq_of_cons_eq same
        exact absurd back (other numbers.2 rest')
  · rename_i other
    constructor
    · intro none
      cases none
    · rintro ⟨middle, rest, front, -⟩
      exact absurd front (other numbers.1 middle)

/-! ## The first parenthesis -/

section

variable {α : Type} {Reads : List Char → α → Prop} {cs : List Char} {found : α}

/-- Says that something is read from the first place of a text from which anything is read. A place
is what is left of the text from there on, so the first place has the most left. -/
def IsFirst (Reads : List Char → α → Prop) (cs : List Char) (found : α) : Prop :=
  ∃ here, here <:+ cs ∧ Reads here found ∧
    ∀ earlier, earlier <:+ cs → here.length < earlier.length → ∀ other, ¬ Reads earlier other

/-- In an empty text nothing comes before the end. -/
theorem isFirst_nil : IsFirst Reads [] found ↔ Reads [] found := by
  constructor
  · rintro ⟨here, inside, reads, -⟩
    obtain rfl := List.suffix_nil.mp inside
    exact reads
  · intro reads
    refine ⟨[], List.suffix_refl [], reads, ?_⟩
    intro earlier inside longer
    have shorter := inside.length_le
    omega

/-- At the front of a text something is read, or else the first place comes later. -/
theorem isFirst_cons {c : Char} : IsFirst Reads (c :: cs) found ↔
    Reads (c :: cs) found ∨ (∀ other, ¬ Reads (c :: cs) other) ∧ IsFirst Reads cs found := by
  constructor
  · rintro ⟨here, inside, reads, none⟩
    rcases List.suffix_cons_iff.mp inside with rfl | later
    · exact .inl reads
    · have shorter := later.length_le
      refine .inr ⟨none (c :: cs) (List.suffix_refl _) (by rw [List.length_cons]; omega),
        here, later, reads, ?_⟩
      intro earlier inside' longer
      exact none earlier (List.suffix_cons_iff.mpr (.inr inside')) longer
  · rintro (reads | ⟨notHere, here, inside, reads, none⟩)
    · refine ⟨c :: cs, List.suffix_refl _, reads, ?_⟩
      intro earlier inside longer
      have shorter := inside.length_le
      omega
    · refine ⟨here, List.suffix_cons_iff.mpr (.inr inside), reads, ?_⟩
      intro earlier inside' longer
      rcases List.suffix_cons_iff.mp inside' with rfl | later
      · exact notHere
      · exact none earlier later longer

/-- The search from parenthesis to parenthesis finds what is read from the first of them. -/
theorem firstParenthesis?_eq_some_iff {read? : List Char → Option α}
    (reads : ∀ here found, Reads here found ↔
      ∃ inner, here = '(' :: inner ∧ read? inner = some found) :
    firstParenthesis? read? cs = some found ↔ IsFirst Reads cs found := by
  induction cs with
  | nil =>
    rw [isFirst_nil, reads]
    simp [firstParenthesis?]
  | cons c cs ih =>
    rw [isFirst_cons, ← ih, firstParenthesis?]
    by_cases opens : c = '('
    · subst opens
      have here (other : α) : Reads ('(' :: cs) other ↔ read? cs = some other := by
        rw [reads]
        simp
      simp only [if_true, here, Option.or_eq_some_iff, Option.eq_none_iff_forall_ne_some, ne_eq]
    · have notHere (other : α) : ¬ Reads (c :: cs) other := by
        rw [reads]
        rintro ⟨inner, same, -⟩
        exact opens (List.head_eq_of_cons_eq same)
      simp [opens, notHere]

/-- Nothing before the first parenthesis has a part in what is found. -/
theorem firstParenthesis?_dropWhile (read? : List Char → Option α) (cs : List Char) :
    firstParenthesis? read? (cs.dropWhile (· != '(')) = firstParenthesis? read? cs := by
  induction cs with
  | nil => rfl
  | cons c cs ih =>
    by_cases opens : c = '('
    · simp [opens]
    · have dropped : (c :: cs).dropWhile (· != '(') = cs.dropWhile (· != '(') := by
        simp [opens]
      rw [dropped, ih, firstParenthesis?, if_neg opens]

end

/-! ## The parameters of a tag -/

/-- Says that digits denote a number of 32 bits. Digits of other scripts than ASCII denote none. -/
def Denotes (digits : List Char) (n : Nat) : Prop :=
  (∀ c ∈ digits, c.isDigit = true) ∧
    Nat.ofDigits 10 (digits.reverse.map fun c => c.toNat - '0'.toNat) = n ∧ n ≤ 2 ^ 32 - 1

/-- A number is made of the digits that denote it. -/
theorem numeral?_eq_some_iff {digits : List Char} {n : Nat} :
    Text.numeral? numberBound digits = some n ↔ Denotes digits n := by
  have bound (n : Nat) : n < numberBound ↔ n ≤ 2 ^ 32 - 1 := by
    have value : numberBound = 2 ^ 32 := rfl
    omega
  unfold Text.numeral? Denotes
  rw [← Text.decimalValue_eq_ofDigits]
  simp only [Bool.and_eq_true, List.all_eq_true, decide_eq_true_eq, bound]
  constructor
  · intro read
    split at read
    · rename_i fits
      obtain rfl := Option.some.inj read
      exact ⟨fits.1, rfl, fits.2⟩
    · cases read
  · rintro ⟨ascii, rfl, small⟩
    exact if_pos ⟨ascii, small⟩

/-- The first place that opens one number is where the search stops. -/
theorem isFirst_opensOne {cs digits : List Char} :
    firstParenthesis? oneNumber? cs = some digits ↔ IsFirst OpensOne cs digits := by
  apply firstParenthesis?_eq_some_iff
  intro here found
  simp only [OpensOne, oneNumber?_eq_some_iff, exists_and_left]

/-- So it is for two numbers. -/
theorem isFirst_opensTwo {cs : List Char} {numbers : List Char × List Char} :
    firstParenthesis? twoNumbers? cs = some numbers ↔ IsFirst OpensTwo cs numbers := by
  apply firstParenthesis?_eq_some_iff
  intro here found
  simp only [OpensTwo, twoNumbers?_eq_some_iff, exists_and_left]

/-- The length of a tag is what the digits behind the first parenthesis that opens one number
denote. -/
theorem length?_eq_some_iff {tag : TypeTag} {n : Nat} :
    tag.length? = some n ↔
      ∃ digits, IsFirst OpensOne tag.text.toList digits ∧ Denotes digits n := by
  unfold length?
  rw [Option.bind_eq_some_iff]
  simp only [isFirst_opensOne, numeral?_eq_some_iff]

/-- Precision and scale of a tag are what the digits behind the first parenthesis that opens two
numbers denote. -/
theorem precisionScale?_eq_some_iff {tag : TypeTag} {precision scale : Nat} :
    tag.precisionScale? = some (precision, scale) ↔ ∃ first second,
      IsFirst OpensTwo tag.text.toList (first, second) ∧ Denotes first precision ∧
        Denotes second scale := by
  unfold precisionScale?
  simp only [bind, Option.bind_eq_some_iff, pure, isFirst_opensTwo, numeral?_eq_some_iff,
    Option.some.injEq, Prod.exists, Prod.mk.injEq]
  constructor
  · rintro ⟨first, second, isFirst, _, ofFirst, _, ofSecond, rfl, rfl⟩
    exact ⟨first, second, isFirst, ofFirst, ofSecond⟩
  · rintro ⟨first, second, isFirst, ofFirst, ofSecond⟩
    exact ⟨first, second, isFirst, precision, ofFirst, scale, ofSecond, rfl, rfl⟩

/-- Where the first digits denote no number there is no length, whatever comes later. -/
theorem length?_eq_none {tag : TypeTag} {digits : List Char}
    (isFirst : IsFirst OpensOne tag.text.toList digits) (unread : ∀ n, ¬ Denotes digits n) :
    tag.length? = none := by
  rw [Option.eq_none_iff_forall_ne_some]
  intro n read
  obtain ⟨digits', isFirst', denotes⟩ := length?_eq_some_iff.mp read
  have same : some digits = some digits' :=
    (isFirst_opensOne.mpr isFirst).symm.trans (isFirst_opensOne.mpr isFirst')
  obtain rfl := Option.some.inj same
  exact unread n denotes

/-- Where the first two numbers cannot be read, no others are looked for. -/
theorem precisionScale?_eq_none {tag : TypeTag} {first second : List Char}
    (isFirst : IsFirst OpensTwo tag.text.toList (first, second))
    (unread : (∀ n, ¬ Denotes first n) ∨ ∀ n, ¬ Denotes second n) :
    tag.precisionScale? = none := by
  rw [Option.eq_none_iff_forall_ne_some]
  rintro ⟨precision, scale⟩ read
  obtain ⟨first', second', isFirst', ofFirst, ofSecond⟩ := precisionScale?_eq_some_iff.mp read
  have same : some (first, second) = some (first', second') :=
    (isFirst_opensTwo.mpr isFirst).symm.trans (isFirst_opensTwo.mpr isFirst')
  obtain ⟨rfl, rfl⟩ := Prod.mk.inj (Option.some.inj same)
  rcases unread with noFirst | noSecond
  · exact noFirst precision ofFirst
  · exact noSecond scale ofSecond

/-- Tags with one suffix have the same parameters. -/
theorem parameters_of_suffix {tag other : TypeTag} (same : tag.suffix = other.suffix) :
    tag.length? = other.length? ∧ tag.precisionScale? = other.precisionScale? := by
  have dropped : tag.text.toList.dropWhile (· != '(') = other.text.toList.dropWhile (· != '(') :=
    String.ofList_injective same
  have found {α : Type} (read? : List Char → Option α) :
      firstParenthesis? read? tag.text.toList = firstParenthesis? read? other.text.toList := by
    rw [← firstParenthesis?_dropWhile, dropped, firstParenthesis?_dropWhile]
  constructor
  · rw [length?, length?, found]
  · rw [precisionScale?, precisionScale?, found]

end TypeTag

end SchemaPress
