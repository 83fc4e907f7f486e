import SchemaPress.Proofs.Naming

/-!
# Model names segment by segment

A model name is made of the segments of a name one after another, so names with an underscore
between them give their model names one behind the other. Empty segments give nothing: underscores
at the ends of a name and all but one of a row of underscores may go. What a single character gives
depends on the character before it alone (`share`): an underscore gives nothing, the first character
of a segment its uppercase form, and any other character itself.

A model name is its own model name. It has one segment, since no uppercase form holds an underscore,
and it begins with a capital, since the first character of every uppercase form is one, also where
that form is several characters long.
-/

set_option autoImplicit false

namespace SchemaPress.Naming

open SchemaPress.Text

/-! ## Segments -/

/-- A capital puts no underscore into a segment. -/
theorem underscore_not_mem_capitalized {segment : List Char} (whole : '_' ∉ segment) :
    '_' ∉ capitalized segment := by
  cases segment with
  | nil => exact List.not_mem_nil
  | cons c cs =>
    obtain ⟨head, tail, form, -, free⟩ := exists_upper_eq_cons c
    rw [List.mem_cons, not_or] at whole
    rw [capitalized, List.mem_append, not_or]
    exact ⟨free fun here => whole.1 here.symm, whole.2⟩

/-- There is no underscore in the name of a model. -/
theorem underscore_not_mem_modelChars (cs : List Char) : '_' ∉ modelChars cs := by
  rw [modelChars, List.mem_flatMap]
  rintro ⟨segment, cut, member⟩
  exact underscore_not_mem_capitalized (not_mem_cutAt '_' cs segment cut) member

/-- A row of underscores. -/
def underscores (n : Nat) : String :=
  String.ofList (List.replicate n '_')

/-- Underscores in front of a name do not matter. -/
theorem modelChars_replicate_append (n : Nat) (cs : List Char) :
    modelChars (List.replicate n '_' ++ cs) = modelChars cs := by
  induction n with
  | zero => rfl
  | succ n ih => rw [List.replicate_succ, List.cons_append, modelChars_underscore, ih]

/-- Underscores behind a name do not matter. -/
theorem modelChars_append_replicate (cs : List Char) (n : Nat) :
    modelChars (cs ++ List.replicate n '_') = modelChars cs := by
  cases n with
  | zero => rw [List.replicate_zero, List.append_nil]
  | succ n =>
    have none : modelChars (List.replicate n '_') = [] := by
      have leading := modelChars_replicate_append n []
      rwa [List.append_nil] at leading
    rw [List.replicate_succ, modelChars_append_underscore, none, List.append_nil]

/-! ## Characters -/

/-- What a character gives to a model name, by the character before it. A name begins as if an
underscore stood before it. -/
def share (before c : Char) : List Char :=
  if c = '_' then [] else if before = '_' then upper c else [c]

/-- What the characters of a text give to a model name behind some character. -/
def shares (before : Char) (cs : List Char) : List Char :=
  ((before :: cs).zip cs).flatMap fun pair => share pair.1 pair.2

/-- The first character of a name has its share and leaves theirs to the others. -/
theorem shares_cons (before c : Char) (cs : List Char) :
    shares before (c :: cs) = share before c ++ shares c cs := by
  rw [shares, List.zip_cons_cons, List.flatMap_cons]
  rfl

/-- Behind an underscore a segment begins, and behind any other character it goes on. -/
theorem shares_eq (cs : List Char) :
    shares '_' cs = modelChars cs ∧
      ∀ before, before ≠ '_' → shares before cs = withinWord cs := by
  induction cs with
  | nil => exact ⟨rfl, fun _ _ => rfl⟩
  | cons c cs ih =>
    obtain ⟨begun, within⟩ := ih
    by_cases here : c = '_'
    · subst here
      have none (before : Char) : share before '_' = [] := if_pos rfl
      refine ⟨?_, fun before _ => ?_⟩
      · rw [shares_cons, none, begun, modelChars_underscore, List.nil_append]
      · rw [shares_cons, none, begun, withinWord_underscore, List.nil_append]
    · refine ⟨?_, fun before inside => ?_⟩
      · have first : share '_' c = upper c := by rw [share, if_neg here, if_pos rfl]
        rw [shares_cons, first, within c here, modelChars_other here]
      · have later : share before c = [c] := by rw [share, if_neg here, if_neg inside]
        rw [shares_cons, later, within c here, withinWord_other here, List.singleton_append]

/-! ## Model names -/

/-- A name is joined to its model name by changes that model names do not show. -/
theorem modelChars_modelChars (cs : List Char) : modelChars (modelChars cs) = modelChars cs :=
  (Alike.modelChars cs).modelChars_eq.symm

/-- Model names are made segment by segment: those of two names with an underscore between them
stand one behind the other, no underscore is left, and neither underscores at the ends nor the
length of a row of underscores matter. Each character gives its share in order, and a model name is
its own model name. -/
theorem modelName_segments :
    (∀ front back : String, modelName (front ++ "_" ++ back) = modelName front ++ modelName back) ∧
    (∀ name : String, '_' ∉ (modelName name).toList) ∧
    (∀ (name : String) (before after : Nat),
      modelName (underscores before ++ name ++ underscores after) = modelName name) ∧
    (∀ (front back : String) (more : Nat),
      modelName (front ++ underscores (more + 1) ++ back) = modelName (front ++ "_" ++ back)) ∧
    (∀ name : String, (modelName name).toList =
      (('_' :: name.toList).zip name.toList).flatMap fun (before, c) =>
        if c = '_' then [] else if before = '_' then upper c else [c]) ∧
    ∀ name : String, modelName (modelName name) = modelName name := by
  have chars (name : String) : (modelName name).toList = modelChars name.toList :=
    String.toList_ofList
  have between (front back : String) :
      modelName (front ++ "_" ++ back) = modelName front ++ modelName back := by
    apply String.toList_inj.mp
    have mark : "_".toList = ['_'] := rfl
    simp only [chars, String.toList_append, mark, List.append_assoc, List.singleton_append,
      modelChars_append_underscore]
  refine ⟨between, fun name => ?_, fun name before after => ?_, fun front back more => ?_,
    fun name => ?_, fun name => ?_⟩
  · rw [chars]
    exact underscore_not_mem_modelChars name.toList
  · apply String.toList_inj.mp
    simp only [chars, underscores, String.toList_append, String.toList_ofList]
    rw [modelChars_append_replicate, modelChars_replicate_append]
  · rw [between]
    apply String.toList_inj.mp
    simp only [chars, underscores, String.toList_append, String.toList_ofList,
      List.replicate_succ, List.append_assoc, List.cons_append, modelChars_append_underscore,
      modelChars_replicate_append]
  · rw [chars]
    exact (shares_eq name.toList).1.symm
  · apply String.toList_inj.mp
    rw [chars, chars, modelChars_modelChars]

example : modelName "ﬃx__straße_" = "FFIxStraße" := by
  decide +kernel

end SchemaPress.Naming
