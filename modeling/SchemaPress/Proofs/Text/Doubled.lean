import SchemaPress.Text.Quoted

/-!
# Where a quoted text ends

A text between quotes, with each quote inside it written twice, is read back from whatever it is
followed by, as long as no quote follows (`decode?_encode_append`). A quote that stands alone is
therefore always the closing one, and two quoted texts with such continuations are the same
characters only if both the texts and the continuations are the same (`encode_append_inj`). Nothing
else is read as a quoted text (`decode?_eq_some_iff`).
-/

set_option autoImplicit false

namespace SchemaPress.Text.Doubled

section

variable {quote : Char} {rest : List Char}

/-- Two quotes are read as one. -/
theorem decodeBody?_double (cs : List Char) :
    decodeBody? quote (quote :: quote :: cs) =
      (decodeBody? quote cs).map fun (text, rest) => (quote :: text, rest) := by
  rw [decodeBody?.eq_def]
  simp

/-- Any other character is read as it is. -/
theorem decodeBody?_other {c : Char} (other : c ≠ quote) (cs : List Char) :
    decodeBody? quote (c :: cs) =
      (decodeBody? quote cs).map fun (text, rest) => (c :: text, rest) := by
  rw [decodeBody?.eq_def]
  simp [other]

/-- A quote that stands alone ends the text. -/
theorem decodeBody?_closing (apart : rest.head? ≠ some quote) :
    decodeBody? quote (quote :: rest) = some ([], rest) := by
  rw [decodeBody?.eq_def]
  cases rest with
  | nil => simp
  | cons d ds =>
    have other : d ≠ quote := by simpa using apart
    simp [other]

/-- The text behind the opening quote is read up to its closing quote. -/
theorem decodeBody?_body_append (apart : rest.head? ≠ some quote) (text : List Char) :
    decodeBody? quote (body quote text ++ quote :: rest) = some (text, rest) := by
  -- A quote inside the text comes with its double, so the reader goes on behind both.
  induction text with
  | nil => exact decodeBody?_closing apart
  | cons c cs ih =>
    by_cases inner : c = quote
    · subst inner
      have doubled : body c (c :: cs) = c :: c :: body c cs := if_pos rfl
      rw [doubled, List.cons_append, List.cons_append, decodeBody?_double, ih]
      rfl
    · have plain : body quote (c :: cs) = c :: body quote cs := if_neg inner
      rw [plain, List.cons_append, decodeBody?_other inner, ih]
      rfl

/-- A quoted text is read back, and what follows it is left, unless a quote follows. -/
theorem decode?_encode_append (apart : rest.head? ≠ some quote) (text : List Char) :
    decode? quote (encode quote text ++ rest) = some (text, rest) := by
  have layout : encode quote text ++ rest = quote :: (body quote text ++ quote :: rest) := by
    simp [encode]
  rw [layout, decode?, if_pos rfl, decodeBody?_body_append apart]

/-- Two quoted texts that no quote follows are told apart, also where other characters follow. -/
theorem encode_append_inj {rest' text text' : List Char} (apart : rest.head? ≠ some quote)
    (apart' : rest'.head? ≠ some quote)
    (same : encode quote text ++ rest = encode quote text' ++ rest') :
    text = text' ∧ rest = rest' := by
  have read := decode?_encode_append apart text
  rw [same, decode?_encode_append apart' text'] at read
  have pairs : (text', rest') = (text, rest) := Option.some.inj read
  exact ⟨(Prod.mk.inj pairs).1.symm, (Prod.mk.inj pairs).2.symm⟩

/-- What is read up to a quote that stands alone is a text with its quotes doubled. -/
theorem eq_of_decodeBody? {cs text : List Char}
    (read : decodeBody? quote cs = some (text, rest)) :
    cs = body quote text ++ quote :: rest ∧ rest.head? ≠ some quote := by
  fun_induction decodeBody? quote cs generalizing text with
  | case1 => cases read
  | case2 ds ih =>
    obtain ⟨⟨inner, behind⟩, readInner, pair⟩ := Option.map_eq_some_iff.mp read
    cases pair
    obtain ⟨layout, apart⟩ := ih readInner
    have doubled : body quote (quote :: inner) = quote :: quote :: body quote inner := if_pos rfl
    rw [layout, doubled]
    exact ⟨rfl, apart⟩
  | case3 d ds other =>
    cases read
    exact ⟨rfl, by simpa using other⟩
  | case4 =>
    cases read
    exact ⟨rfl, by simp⟩
  | case5 c cs other ih =>
    obtain ⟨⟨inner, behind⟩, readInner, pair⟩ := Option.map_eq_some_iff.mp read
    cases pair
    obtain ⟨layout, apart⟩ := ih readInner
    have plain : body quote (c :: inner) = c :: body quote inner := if_neg other
    rw [layout, plain]
    exact ⟨rfl, apart⟩

/-- Just the quoted texts are read, and each of them ends where no quote follows. -/
theorem decode?_eq_some_iff {cs text : List Char} :
    decode? quote cs = some (text, rest) ↔
      cs = encode quote text ++ rest ∧ rest.head? ≠ some quote := by
  constructor
  · intro read
    cases cs with
    | nil => cases read
    | cons c cs =>
      rw [decode?] at read
      split at read
      · rename_i opening
        obtain ⟨layout, apart⟩ := eq_of_decodeBody? read
        rw [opening, layout]
        exact ⟨by simp [encode], apart⟩
      · cases read
  · rintro ⟨rfl, apart⟩
    exact decode?_encode_append apart text

/-- Nothing is put in but quotes. -/
theorem count_body {c : Char} (other : c ≠ quote) (text : List Char) :
    (body quote text).count c = text.count c := by
  induction text with
  | nil => rfl
  | cons d ds ih =>
    by_cases inner : d = quote
    · subst inner
      have doubled : body d (d :: ds) = d :: d :: body d ds := if_pos rfl
      rw [doubled, List.count_cons_of_ne other.symm, List.count_cons_of_ne other.symm, ih,
        List.count_cons_of_ne other.symm]
    · have plain : body quote (d :: ds) = d :: body quote ds := if_neg inner
      rw [plain, List.count_cons, List.count_cons, ih]

end

end SchemaPress.Text.Doubled
