import SchemaPress.Text.Join

/-!
# Texts put together

Joined texts are joined again part by part (`joined_append`), and a numeral ends where the digits
end, so it can be told from what follows it (`numeral_append_inj`) and from the texts between which
it stands (`numeral_between_inj`, `numerals_between_inj`).
-/

set_option autoImplicit false

namespace SchemaPress.Text

/-! ## Joining -/

/-- Joining is what the library calls intercalation. -/
theorem joined_eq_intercalate (separator : String) (texts : List String) :
    joined separator texts = separator.intercalate texts := by
  induction texts with
  | nil => simp [joined]
  | cons text texts ih =>
    cases texts with
    | nil => simp [joined]
    | cons next texts => rw [joined, ih, String.intercalate_cons_cons]; simp

/-- Between two lists of texts there is one separator, if neither is empty. -/
theorem joined_append (separator : String) {first second : List String} (some : first ≠ [])
    (some' : second ≠ []) :
    joined separator (first ++ second) =
      joined separator first ++ separator ++ joined separator second := by
  simp only [joined_eq_intercalate]
  exact String.intercalate_append_of_ne_nil some some'

/-- What begins with some text is some text. -/
theorem joined_ne_empty {separator first : String} (some : first ≠ "") (rest : List String) :
    joined separator (first :: rest) ≠ "" := by
  cases rest with
  | nil => exact some
  | cons second rest =>
    intro empty
    have front := (String.append_eq_empty_iff.mp empty).1
    exact some (String.append_eq_empty_iff.mp front).1

/-- The texts of two lists one behind the other. -/
theorem concatenated_append (first second : List String) :
    concatenated (first ++ second) = concatenated first ++ concatenated second := by
  induction first with
  | nil => simp [concatenated]
  | cons text first ih => simp [concatenated, ih, String.append_assoc]

/-- A text and further texts, each behind a separator, are all these texts with separators between
them. -/
theorem append_concatenated (separator text : String) (texts : List String) :
    text ++ concatenated (texts.map (separator ++ ·)) =
      separator.intercalate (text :: texts) := by
  induction texts generalizing text with
  | nil => simp [concatenated]
  | cons next texts ih =>
    have later := ih next
    rw [String.intercalate_cons_cons, ← later]
    simp [concatenated, String.append_assoc]

/-- A text and further texts right behind it. -/
theorem append_concatenated_empty (text : String) (texts : List String) :
    text ++ concatenated texts = "".intercalate (text :: texts) := by
  have behind := append_concatenated "" text texts
  simpa using behind

/-! ## Numerals -/

/-- What is taken while a condition holds ends where it does not hold any more. -/
theorem takeWhile_dropWhile_append {p : Char → Bool} {front back : List Char}
    (holds : ∀ c ∈ front, p c = true) (stops : ∀ c ∈ back.head?, p c = false) :
    (front ++ back).takeWhile p = front ∧ (front ++ back).dropWhile p = back := by
  rw [List.takeWhile_append_of_pos holds, List.dropWhile_append_of_pos holds]
  cases back with
  | nil => simp
  | cons c back =>
    have stop : p c = false := stops c rfl
    simp [stop]

/-- Numbers with the same digits are the same. -/
theorem numeral_inj {n m : Nat} (same : Nat.toDigits 10 n = Nat.toDigits 10 m) : n = m := by
  have value (k : Nat) : Nat.ofDigitChars 10 (Nat.toDigits 10 k) 0 = k :=
    Nat.ofDigitChars_toDigits (by decide) (by decide)
  rw [← value n, same, value m]

/-- A numeral has nothing but digits. -/
theorem not_mem_numeral {c : Char} (other : c.isDigit = false) (n : Nat) :
    c ∉ Nat.toDigits 10 n := by
  intro member
  have digit := Nat.isDigit_of_mem_toDigits (by decide) (by decide) member
  rw [other] at digit
  cases digit

/-- A numeral before something that does not begin with a digit is known from the whole. -/
theorem numeral_append_inj {n m : Nat} {rest rest' : String}
    (stops : ∀ c ∈ rest.toList.head?, c.isDigit = false)
    (stops' : ∀ c ∈ rest'.toList.head?, c.isDigit = false)
    (same : toString n ++ rest = toString m ++ rest') : n = m ∧ rest = rest' := by
  have digits (k : Nat) : ∀ c ∈ Nat.toDigits 10 k, c.isDigit = true :=
    fun c member => Nat.isDigit_of_mem_toDigits (by decide) (by decide) member
  have chars : Nat.toDigits 10 n ++ rest.toList = Nat.toDigits 10 m ++ rest'.toList := by
    simpa [Nat.toString_eq_repr, Nat.toList_repr] using congrArg String.toList same
  have first := takeWhile_dropWhile_append (digits n) stops
  have second := takeWhile_dropWhile_append (digits m) stops'
  rw [chars] at first
  constructor
  · exact numeral_inj (first.1.symm.trans second.1)
  · exact String.toList_injective (first.2.symm.trans second.2)

/-- A text that begins with no digit begins with none before any other. -/
theorem isDigit_head?_append {text : String}
    (stops : text.toList.head?.any (fun c => !c.isDigit) = true) (rest : String) :
    ∀ c ∈ (text ++ rest).toList.head?, c.isDigit = false := by
  obtain ⟨mark, head, notDigit⟩ := (Option.any_eq_true _ _).mp stops
  intro c found
  rw [String.toList_append, List.head?_append, head] at found
  obtain rfl := Option.some.inj found
  simpa using notDigit

/-- A numeral is known from a text that has it between two others. -/
theorem numeral_between_inj {front back : String} {n m : Nat}
    (stops : back.toList.head?.any (fun c => !c.isDigit) = true)
    (same : front ++ toString n ++ back = front ++ toString m ++ back) : n = m := by
  have stopped : ∀ c ∈ back.toList.head?, c.isDigit = false := by
    simpa using isDigit_head?_append stops ""
  rw [String.append_assoc, String.append_assoc, String.append_right_inj] at same
  exact (numeral_append_inj stopped stopped same).1

/-- So are two numerals with a text between them that begins with no digit. -/
theorem numerals_between_inj {front middle back : String} {n m k l : Nat}
    (stops : middle.toList.head?.any (fun c => !c.isDigit) = true)
    (stops' : back.toList.head?.any (fun c => !c.isDigit) = true)
    (same : front ++ toString n ++ middle ++ toString k ++ back =
      front ++ toString m ++ middle ++ toString l ++ back) : n = m ∧ k = l := by
  have first : n = m := by
    simp only [String.append_assoc, String.append_right_inj] at same
    have stopped := isDigit_head?_append stops
    exact (numeral_append_inj (stopped _) (stopped _) same).1
  subst first
  exact ⟨rfl, numeral_between_inj stops' same⟩

end SchemaPress.Text
