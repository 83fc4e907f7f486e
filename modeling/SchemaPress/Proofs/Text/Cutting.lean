import SchemaPress.Text.Join

/-!
# Cutting texts at a character

A text is cut into at least one piece. Texts with the mark between them are cut into the pieces of
the one and then those of the other (`cutAt_append`), so joined texts are cut into the pieces of
each of them (`cutAt_joined`).
-/

set_option autoImplicit false

namespace SchemaPress.Text

/-- At a mark a new piece begins. -/
theorem cutAt_mark (mark : Char) (cs : List Char) :
    cutAt mark (mark :: cs) = [] :: cutAt mark cs :=
  if_pos rfl

/-- Any other character belongs to the first piece. -/
theorem cutAt_other {mark c : Char} (other : c ≠ mark) {cs piece : List Char}
    {pieces : List (List Char)} (cut : cutAt mark cs = piece :: pieces) :
    cutAt mark (c :: cs) = (c :: piece) :: pieces := by
  rw [cutAt, if_neg other, cut]

/-- There is a first piece, also of the empty text. -/
theorem exists_cutAt_eq_cons (mark : Char) (cs : List Char) :
    ∃ piece pieces, cutAt mark cs = piece :: pieces := by
  induction cs with
  | nil => exact ⟨[], [], rfl⟩
  | cons c cs ih =>
    by_cases here : c = mark
    · subst here
      exact ⟨[], cutAt c cs, cutAt_mark c cs⟩
    · obtain ⟨piece, pieces, cut⟩ := ih
      exact ⟨c :: piece, pieces, cutAt_other here cut⟩

/-- A text with the mark in it is cut there. -/
theorem cutAt_append (mark : Char) (before after : List Char) :
    cutAt mark (before ++ mark :: after) = cutAt mark before ++ cutAt mark after := by
  induction before with
  | nil => exact cutAt_mark mark after
  | cons c cs ih =>
    by_cases here : c = mark
    · subst here
      rw [List.cons_append, cutAt_mark, cutAt_mark, ih, List.cons_append]
    · obtain ⟨piece, pieces, cut⟩ := exists_cutAt_eq_cons mark cs
      rw [cut, List.cons_append] at ih
      rw [List.cons_append, cutAt_other here ih, cutAt_other here cut, List.cons_append]

/-- A text without the mark is one piece. -/
theorem cutAt_eq_single {mark : Char} {cs : List Char} (free : mark ∉ cs) :
    cutAt mark cs = [cs] := by
  induction cs with
  | nil => rfl
  | cons c cs ih =>
    have other : c ≠ mark := fun here => free (here ▸ List.mem_cons_self)
    exact cutAt_other other (ih fun later => free (List.mem_cons_of_mem c later))

/-- So are several such texts, each by itself. -/
theorem flatMap_cutAt {mark : Char} {texts : List (List Char)}
    (free : ∀ text ∈ texts, mark ∉ text) : texts.flatMap (cutAt mark) = texts := by
  induction texts with
  | nil => rfl
  | cons text texts ih =>
    rw [List.forall_mem_cons] at free
    rw [List.flatMap_cons, cutAt_eq_single free.1, ih free.2, List.singleton_append]

/-- No piece of a text has the mark in it. -/
theorem not_mem_cutAt (mark : Char) (cs : List Char) : ∀ piece ∈ cutAt mark cs, mark ∉ piece := by
  induction cs with
  | nil => exact List.forall_mem_singleton.mpr List.not_mem_nil
  | cons c cs ih =>
    by_cases here : c = mark
    · rw [here, cutAt_mark]
      exact List.forall_mem_cons.mpr ⟨List.not_mem_nil, ih⟩
    · obtain ⟨piece, pieces, cut⟩ := exists_cutAt_eq_cons mark cs
      rw [cut, List.forall_mem_cons] at ih
      rw [cutAt_other here cut, List.forall_mem_cons]
      exact ⟨List.not_mem_cons_of_ne_of_not_mem (Ne.symm here) ih.1, ih.2⟩

/-- Only the empty text and a text that ends in the mark have an empty piece at the end. -/
theorem eq_nil_or_append_of_getLast?_cutAt {mark : Char} {cs : List Char}
    (last : (cutAt mark cs).getLast? = some []) : cs = [] ∨ ∃ front, cs = front ++ [mark] := by
  induction cs with
  | nil => exact .inl rfl
  | cons c cs ih =>
    obtain ⟨piece, pieces, cut⟩ := exists_cutAt_eq_cons mark cs
    right
    by_cases here : c = mark
    · rw [here, cutAt_mark, cut, List.getLast?_cons_cons, ← cut] at last
      rcases ih last with rfl | ⟨front, rfl⟩
      · exact ⟨[], by rw [here]; rfl⟩
      · exact ⟨c :: front, rfl⟩
    · rw [cutAt_other here cut] at last
      cases pieces with
      | nil => cases last
      | cons next pieces =>
        rw [List.getLast?_cons_cons, ← List.getLast?_cons_cons (a := piece), ← cut] at last
        rcases ih last with rfl | ⟨front, rfl⟩
        · cases cut
        · exact ⟨c :: front, rfl⟩

/-- The pieces of a text say what the text is. -/
theorem cutAt_inj {mark : Char} {cs cs' : List Char} (same : cutAt mark cs = cutAt mark cs') :
    cs = cs' := by
  have whole (cs : List Char) : [mark].intercalate (cutAt mark cs) = cs := by
    induction cs with
    | nil => rfl
    | cons c cs ih =>
      obtain ⟨piece, pieces, cut⟩ := exists_cutAt_eq_cons mark cs
      have rest : [mark].intercalate (piece :: pieces) = cs := by rw [← cut, ih]
      by_cases here : c = mark
      · rw [here, cutAt_mark, cut]
        exact congrArg (mark :: ·) rest
      · rw [cutAt_other here cut]
        cases pieces with
        | nil => exact congrArg (c :: ·) rest
        | cons next pieces => exact congrArg (c :: ·) rest
  rw [← whole cs, same, whole cs']

/-- Texts joined by the mark are cut into the pieces of each of them. -/
theorem cutAt_joined {mark : Char} {separator : String} (single : separator.toList = [mark])
    {texts : List String} (some : texts ≠ []) :
    cutAt mark (joined separator texts).toList =
      texts.flatMap fun text => cutAt mark text.toList := by
  induction texts with
  | nil => exact absurd rfl some
  | cons text texts ih =>
    cases texts with
    | nil => simp [joined]
    | cons next texts =>
      have split : (joined separator (text :: next :: texts)).toList =
          text.toList ++ mark :: (joined separator (next :: texts)).toList := by
        simp [joined, single]
      rw [split, cutAt_append, ih (List.cons_ne_nil next texts)]
      rfl

end SchemaPress.Text
