import Mathlib.Tactic.SplitIfs
import SchemaPress.Text.Quoted

/-!
# Where an escaped text ends

A text between quotes, with a backslash before each quote and each backslash inside it, is read back
from whatever it is followed by (`decode?_encode_append`). To put these backslashes in is to put
them before the backslashes of the text first and before its quotes then, in this order
(`body_eq_replaced`).

A text that is put between quotes as it is can be read back only if there is nothing in it to escape
(`decode?_raw_iff`): a quote in it would end the reading, and a backslash in it is lost.
-/

set_option autoImplicit false

namespace SchemaPress.Text

/-- The text with other characters in the place of each occurrence of one. -/
def replaced (mark : Char) (others : List Char) (text : List Char) : List Char :=
  text.flatMap fun c => if c = mark then others else [c]

namespace Escaped

variable {quote : Char} {rest : List Char}

/-- At a quote the text ends. -/
theorem decodeBody?_closing : decodeBody? quote (quote :: rest) = some ([], rest) := by
  rw [decodeBody?.eq_def]
  simp

/-- Behind a backslash any character is taken as it is. -/
theorem decodeBody?_escape (apart : quote ≠ '\\') (c : Char) (cs : List Char) :
    decodeBody? quote ('\\' :: c :: cs) =
      (decodeBody? quote cs).map fun (text, rest) => (c :: text, rest) := by
  rw [decodeBody?.eq_def]
  simp [apart.symm]

/-- So is any other character but a quote. -/
theorem decodeBody?_plain {c : Char} (other : c ≠ quote) (plain : c ≠ '\\') (cs : List Char) :
    decodeBody? quote (c :: cs) =
      (decodeBody? quote cs).map fun (text, rest) => (c :: text, rest) := by
  rw [decodeBody?.eq_def]
  simp [other, plain]

/-! ## Escaped texts -/

/-- The text behind the opening quote is read up to its closing quote. -/
theorem decodeBody?_body_append (apart : quote ≠ '\\') (text : List Char) :
    decodeBody? quote (body quote text ++ quote :: rest) = some (text, rest) := by
  -- A quote or a backslash of the text comes behind a backslash, so the reader takes it as it is.
  induction text with
  | nil => exact decodeBody?_closing
  | cons c cs ih =>
    by_cases special : c = quote ∨ c = '\\'
    · have escaped : body quote (c :: cs) = '\\' :: c :: body quote cs := if_pos special
      rw [escaped, List.cons_append, List.cons_append, decodeBody?_escape apart, ih]
      rfl
    · have plain : body quote (c :: cs) = c :: body quote cs := if_neg special
      rw [not_or] at special
      rw [plain, List.cons_append, decodeBody?_plain special.1 special.2, ih]
      rfl

/-- An escaped text is read back, and what follows it is left. -/
theorem decode?_encode_append (apart : quote ≠ '\\') (text rest : List Char) :
    decode? quote (encode quote text ++ rest) = some (text, rest) := by
  have layout : encode quote text ++ rest = quote :: (body quote text ++ quote :: rest) := by
    simp [encode]
  rw [layout, decode?, if_pos rfl, decodeBody?_body_append apart]

/-- No two texts are written alike. -/
theorem encode_injective (apart : quote ≠ '\\') : Function.Injective (encode quote) := by
  intro text other same
  have read := decode?_encode_append apart text []
  rw [same, decode?_encode_append apart other []] at read
  have pairs : (other, []) = (text, []) := Option.some.inj read
  exact (Prod.mk.inj pairs).1.symm

/-- Backslashes are put before backslashes first and before quotes then. -/
theorem body_eq_replaced (apart : quote ≠ '\\') (text : List Char) :
    body quote text =
      replaced quote ['\\', quote] (replaced '\\' ['\\', '\\'] text) := by
  -- The backslashes that the first step puts in are no quotes, so the second step leaves them.
  induction text with
  | nil => rfl
  | cons c cs ih =>
    have split : replaced quote ['\\', quote] (replaced '\\' ['\\', '\\'] (c :: cs)) =
        replaced quote ['\\', quote] (if c = '\\' then ['\\', '\\'] else [c]) ++ body quote cs := by
      rw [ih]
      simp only [replaced, List.flatMap_cons, List.flatMap_append]
    rw [split, body]
    by_cases backslash : c = '\\'
    · simp [backslash, replaced, apart.symm]
    · by_cases here : c = quote
      · simp [here, apart, replaced]
      · simp [backslash, here, replaced]

/-- Nothing is put in but backslashes. -/
theorem count_body {c : Char} (plain : c ≠ '\\') (text : List Char) :
    (body quote text).count c = text.count c := by
  induction text with
  | nil => rfl
  | cons d ds ih =>
    unfold body
    split_ifs
    · rw [List.count_cons_of_ne plain.symm, List.count_cons, List.count_cons, ih]
    · rw [List.count_cons, List.count_cons, ih]

/-! ## Texts as they are -/

/-- What is read and what is left are no more than there was, with a quote between them. -/
theorem length_of_decodeBody? {cs text : List Char}
    (read : decodeBody? quote cs = some (text, rest)) : text.length + rest.length < cs.length := by
  fun_induction decodeBody? quote cs generalizing text with
  | case1 => cases read
  | case2 cs =>
    cases read
    simp
  | case3 d ds _ ih =>
    obtain ⟨⟨front, left⟩, inner, pair⟩ := Option.map_eq_some_iff.mp read
    cases pair
    have shorter := ih inner
    simp only [List.length_cons]
    omega
  | case4 => cases read
  | case5 c cs _ _ ih =>
    obtain ⟨⟨front, left⟩, inner, pair⟩ := Option.map_eq_some_iff.mp read
    cases pair
    have shorter := ih inner
    simp only [List.length_cons]
    omega

/-- What is read stands in what there was. -/
theorem subset_of_decodeBody? {cs text : List Char}
    (read : decodeBody? quote cs = some (text, rest)) : text ⊆ cs := by
  fun_induction decodeBody? quote cs generalizing text with
  | case1 => cases read
  | case2 cs =>
    cases read
    exact List.nil_subset _
  | case3 d ds _ ih =>
    obtain ⟨⟨front, left⟩, inner, pair⟩ := Option.map_eq_some_iff.mp read
    cases pair
    exact List.Subset.trans (List.cons_subset_cons d (ih inner)) (List.subset_cons_self _ _)
  | case4 => cases read
  | case5 c cs _ _ ih =>
    obtain ⟨⟨front, left⟩, inner, pair⟩ := Option.map_eq_some_iff.mp read
    cases pair
    exact List.cons_subset_cons c (ih inner)

/-- Reading puts no character in. -/
theorem subset_of_decode? {cs text : List Char} (read : decode? quote cs = some (text, rest)) :
    text ⊆ cs := by
  cases cs with
  | nil => cases read
  | cons c cs =>
    rw [decode?] at read
    split_ifs at read
    exact List.Subset.trans (subset_of_decodeBody? read) (List.subset_cons_self c cs)

/-- Behind a backslash there is one character less for the text that is read. -/
theorem length_of_decodeBody?_backslash (apart : quote ≠ '\\') {cs text : List Char}
    (read : decodeBody? quote ('\\' :: cs) = some (text, rest)) :
    text.length + rest.length < cs.length := by
  cases cs with
  | nil =>
    rw [decodeBody?.eq_def] at read
    simp [apart.symm] at read
  | cons d ds =>
    rw [decodeBody?_escape apart] at read
    obtain ⟨⟨front, left⟩, inner, pair⟩ := Option.map_eq_some_iff.mp read
    have shorter := length_of_decodeBody? inner
    cases pair
    simp only [List.length_cons]
    omega

/-- What stands before a quote is read as it is if it has neither quotes nor backslashes. -/
theorem decodeBody?_append_iff (apart : quote ≠ '\\') (text rest : List Char) :
    decodeBody? quote (text ++ quote :: rest) = some (text, rest) ↔
      quote ∉ text ∧ '\\' ∉ text := by
  induction text with
  | nil => simp [decodeBody?_closing]
  | cons c cs ih =>
    by_cases here : c = quote
    · subst here
      rw [List.cons_append, decodeBody?_closing]
      simp
    · by_cases backslash : c = '\\'
      · subst backslash
        have lost :
            decodeBody? quote ('\\' :: (cs ++ quote :: rest)) ≠ some ('\\' :: cs, rest) := by
          intro read
          have shorter := length_of_decodeBody?_backslash apart read
          simp only [List.length_cons, List.length_append] at shorter
          omega
        rw [List.cons_append]
        simp [lost]
      · rw [List.cons_append, decodeBody?_plain here backslash]
        simp only [List.mem_cons, not_or, Ne.symm here, Ne.symm backslash, not_false_eq_true,
          true_and, ← ih]
        rw [Option.map_eq_some_iff]
        constructor
        · rintro ⟨⟨front, left⟩, inner, pair⟩
          cases pair
          exact inner
        · intro inner
          exact ⟨_, inner, rfl⟩

/-- A text between quotes is read back as it is exactly if it has no quote and no backslash. -/
theorem decode?_raw_iff (apart : quote ≠ '\\') (text rest : List Char) :
    decode? quote (quote :: text ++ quote :: rest) = some (text, rest) ↔
      quote ∉ text ∧ '\\' ∉ text := by
  rw [List.cons_append, decode?, if_pos rfl]
  exact decodeBody?_append_iff apart text rest

end Escaped

end SchemaPress.Text
