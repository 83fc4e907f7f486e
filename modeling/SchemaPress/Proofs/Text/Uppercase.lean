import SchemaPress.Text.Uppercase

/-!
# Uppercase forms begin with uppercase letters

The uppercase form of a character begins with a character that is its own uppercase form
(`exists_upper_eq_cons`), also where the form is several characters. Of the letters in runs this is
seen run by run: the letters of one run never go to letters of another one, because their images lie
apart from it or have the other parity (`UppercaseRun.misses`).
-/

set_option autoImplicit false

namespace SchemaPress.Text

/-- Says that a character is its own uppercase form. -/
def IsCapital (c : Char) : Prop :=
  upper c = [c]

instance (c : Char) : Decidable (IsCapital c) :=
  inferInstanceAs (Decidable (upper c = [c]))

namespace UppercaseRun

/-- The code point of the uppercase form of the first letter. -/
def low (run : UppercaseRun) : Nat :=
  (run.first + run.shift).toNat

/-- The code point of the uppercase form of the last letter. -/
def high (run : UppercaseRun) : Nat :=
  (run.last + run.shift).toNat

/-- Says that the uppercase forms are no letters of another run: they lie before it or behind it, or
both runs take every second code point and the forms fall between the letters. -/
def misses (run other : UppercaseRun) : Bool :=
  Nat.blt run.high other.first || Nat.blt other.last run.low ||
    (Nat.beq other.step 2 && (Nat.beq run.step 2 || Nat.beq run.first run.last) &&
      Nat.beq ((run.low + other.first) % 2) 1)

/-- Says that a code point lies before the uppercase forms or behind them. -/
def isApart (run : UppercaseRun) (code : Nat) : Bool :=
  Nat.blt run.high code || Nat.blt code run.low

/-- Says that the uppercase forms are characters, that the underscore is none of them, and that none
of them has a longer uppercase form. -/
def isPlain (run : UppercaseRun) : Bool :=
  Nat.blt 0 run.low
    && (Nat.blt run.high 0xD800 || (Nat.blt 0xDFFF run.low && Nat.blt run.high 0x110000))
    && run.isApart '_'.toNat && uppercaseExpansions.all fun pair => run.isApart pair.1

variable {run other : UppercaseRun} {code : Nat}

/-- The code point of the uppercase form of a letter. -/
def image (run : UppercaseRun) (code : Nat) : Nat :=
  (code + run.shift).toNat

/-- The capitals of a run lie within its bounds. -/
theorem image_mem (covered : run.covers code = true) :
    run.low ≤ run.image code ∧ run.image code ≤ run.high := by
  simp only [covers, Bool.and_eq_true, decide_eq_true_eq] at covered
  obtain ⟨⟨above, below⟩, -⟩ := covered
  unfold low high image
  omega

/-- A code apart from a run is no capital of it. -/
theorem image_ne (apart : run.isApart code = true) {letter : Nat}
    (covered : run.covers letter = true) : run.image letter ≠ code := by
  obtain ⟨above, below⟩ := image_mem covered
  simp only [isApart, Bool.or_eq_true, Nat.blt_eq] at apart
  omega

/-- A run that misses another one has no capital that is a letter of that. -/
theorem covers_image (missed : run.misses other = true) (positive : 0 < run.low)
    (covered : run.covers code = true) : other.covers (run.image code) = false := by
  obtain ⟨above, below⟩ := image_mem covered
  simp only [misses, Bool.or_eq_true, Bool.and_eq_true, Nat.blt_eq, Nat.beq_eq] at missed
  rw [Bool.eq_false_iff]
  intro again
  simp only [covers, Bool.and_eq_true, decide_eq_true_eq, beq_iff_eq] at covered again
  rcases missed with (before | behind) | ⟨⟨step, own⟩, parity⟩
  · omega
  · omega
  · rw [step] at again
    unfold low image at *
    rcases own with same | single
    · rw [same] at covered
      omega
    · omega

end UppercaseRun

/-- Each run of the table misses all of them. -/
theorem runs_miss (run : UppercaseRun) (member : run ∈ uppercaseRuns) :
    run.isPlain = true ∧ ∀ other ∈ uppercaseRuns, run.misses other = true := by
  have all : (uppercaseRuns.all fun run => run.isPlain && uppercaseRuns.all run.misses) = true := by
    decide +kernel
  have plain := List.all_eq_true.mp all run member
  rw [Bool.and_eq_true, List.all_eq_true] at plain
  exact plain

/-- Says that a text begins with a capital and holds no underscore. -/
def isSettled : List Char → Bool
  | [] => false
  | head :: tail => decide (IsCapital head ∧ '_' ∉ head :: tail)

/-- An expansion begins with a capital and has no underscore. -/
theorem expansions_settled (code : Nat) (expansion : List Nat)
    (member : (code, expansion) ∈ uppercaseExpansions) :
    ∃ head tail, expansion.map Char.ofNat = head :: tail ∧ IsCapital head ∧ '_' ∉ head :: tail := by
  have all : (uppercaseExpansions.all fun pair => isSettled (pair.2.map Char.ofNat)) = true := by
    decide +kernel
  have settled : isSettled (expansion.map Char.ofNat) = true :=
    List.all_eq_true.mp all (code, expansion) member
  cases split : expansion.map Char.ofNat with
  | nil =>
    rw [split] at settled
    cases settled
  | cons head tail =>
    rw [split] at settled
    exact ⟨head, tail, rfl, of_decide_eq_true settled⟩

/-- The code point of the uppercase form of a letter in a run is that of a character. -/
theorem toNat_image {run : UppercaseRun} (member : run ∈ uppercaseRuns) {code : Nat}
    (covered : run.covers code = true) :
    (Char.ofNat (run.image code)).toNat = run.image code := by
  have plain := (runs_miss run member).1
  obtain ⟨above, below⟩ := UppercaseRun.image_mem covered
  simp only [UppercaseRun.isPlain, Bool.and_eq_true, Bool.or_eq_true, Nat.blt_eq] at plain
  have isValid : (run.image code).isValidChar := by
    unfold Nat.isValidChar
    omega
  rw [Char.ofNat, dif_pos isValid]
  rfl

/-- The image of a letter in a run is a capital and no underscore. -/
theorem isCapital_image {run : UppercaseRun} (member : run ∈ uppercaseRuns) {code : Nat}
    (covered : run.covers code = true) :
    IsCapital (Char.ofNat (run.image code)) ∧ Char.ofNat (run.image code) ≠ '_' := by
  obtain ⟨plain, missed⟩ := runs_miss run member
  have point := toNat_image member covered
  simp only [UppercaseRun.isPlain, Bool.and_eq_true, Nat.blt_eq] at plain
  obtain ⟨⟨⟨positive, -⟩, other⟩, short⟩ := plain
  constructor
  · have unexpanded : uppercaseExpansions.find? (·.1 == run.image code) = none := by
      rw [List.find?_eq_none]
      intro pair inside same
      have apart := List.all_eq_true.mp short pair inside
      exact UppercaseRun.image_ne apart covered (beq_iff_eq.mp same).symm
    have uncovered : uppercaseRuns.find? (·.covers (run.image code)) = none := by
      rw [List.find?_eq_none]
      intro other inside again
      rw [UppercaseRun.covers_image (missed other inside) positive covered] at again
      cases again
    rw [IsCapital, upper, point, unexpanded, uncovered]
  · intro underscore
    rw [underscore] at point
    exact UppercaseRun.image_ne other covered point.symm

/-- The uppercase form of a character begins with a capital. It holds an underscore only if it is
that of the underscore. -/
theorem exists_upper_eq_cons (c : Char) :
    ∃ head tail, upper c = head :: tail ∧ IsCapital head ∧ (c ≠ '_' → '_' ∉ upper c) := by
  cases expanded : uppercaseExpansions.find? (·.1 == c.toNat) with
  | some pair =>
    obtain ⟨code, expansion⟩ := pair
    obtain ⟨head, tail, split, capital, free⟩ :=
      expansions_settled code expansion (List.mem_of_find?_eq_some expanded)
    have form : upper c = head :: tail := by rw [upper, expanded, ← split]
    exact ⟨head, tail, form, capital, fun _ => form ▸ free⟩
  | none =>
    cases shifted : uppercaseRuns.find? (·.covers c.toNat) with
    | some run =>
      have covered : run.covers c.toNat = true := by simpa using List.find?_some shifted
      obtain ⟨capital, other⟩ := isCapital_image (List.mem_of_find?_eq_some shifted) covered
      have form : upper c = [Char.ofNat (run.image c.toNat)] := by
        rw [upper, expanded, shifted]
        rfl
      refine ⟨_, [], form, capital, fun _ => ?_⟩
      rw [form, List.mem_singleton]
      exact other.symm
    | none =>
      have form : upper c = [c] := by rw [upper, expanded, shifted]
      refine ⟨c, [], form, form, fun other => ?_⟩
      rw [form, List.mem_singleton]
      exact other.symm

end SchemaPress.Text
