import Mathlib.Logic.Relation
import SchemaPress.Naming
import SchemaPress.Proofs.Text.Cutting
import SchemaPress.Proofs.Text.Uppercase

/-!
# Which names give one model name

A model name keeps the words of a table name and loses where they begin, unless a capital shows it.
Two table names have one model name exactly if they are alike (`modelName_eq_iff`): one of them
becomes the other when first letters of words are written large or small and when underscores are
taken out or put in before a capital, at the beginning or end, or beside another underscore. Every
name is joined to its model name by such respellings (`Alike.modelChars`), and none of them changes
the model name (`Respelling.modelChars_eq`).

Names made of words that begin with a small letter and hold no capital are told apart by their model
names (`modelName_inj`), for then every word shows where it begins.
-/

set_option autoImplicit false

namespace SchemaPress.Naming

open SchemaPress.Text

/-! ## Model names character by character -/

/-- What the rest of a word and the words behind it give to a model name. -/
def withinWord : List Char → List Char
  | [] => []
  | c :: cs => if c = '_' then modelChars cs else c :: withinWord cs

/-- An underscore is its own upper case. -/
theorem isCapital_underscore : IsCapital '_' := by
  decide +kernel

/-- At an underscore a name is cut, and its halves are named apart. -/
theorem modelChars_append_underscore (before after : List Char) :
    modelChars (before ++ '_' :: after) = modelChars before ++ modelChars after := by
  rw [modelChars, cutAt_append, List.flatMap_append]
  rfl

/-- An underscore in front of a name is left out. -/
theorem modelChars_underscore (cs : List Char) : modelChars ('_' :: cs) = modelChars cs :=
  modelChars_append_underscore [] cs

/-- A word ends at an underscore. -/
theorem withinWord_underscore (cs : List Char) : withinWord ('_' :: cs) = modelChars cs :=
  if_pos rfl

/-- Inside a word a character stays what it is. -/
theorem withinWord_other {c : Char} (other : c ≠ '_') (cs : List Char) :
    withinWord (c :: cs) = c :: withinWord cs :=
  if_neg other

/-- What follows inside a word is the rest of this word and the words behind it. -/
theorem withinWord_eq {cs word : List Char} {words : List (List Char)}
    (cut : cutAt '_' cs = word :: words) : withinWord cs = word ++ words.flatMap capitalized := by
  induction cs generalizing word with
  | nil =>
    obtain ⟨rfl, rfl⟩ := List.cons_eq_cons.mp cut
    rfl
  | cons c cs ih =>
    by_cases here : c = '_'
    · subst here
      rw [cutAt_mark] at cut
      obtain ⟨rfl, rfl⟩ := List.cons_eq_cons.mp cut
      exact withinWord_underscore cs
    · obtain ⟨rest, others, cut'⟩ := exists_cutAt_eq_cons '_' cs
      rw [cutAt_other here cut'] at cut
      obtain ⟨rfl, rfl⟩ := List.cons_eq_cons.mp cut
      rw [withinWord_other here, ih cut', List.cons_append]

/-- At its beginning a word gets a capital. -/
theorem modelChars_other {c : Char} (other : c ≠ '_') (cs : List Char) :
    modelChars (c :: cs) = upper c ++ withinWord cs := by
  obtain ⟨word, words, cut⟩ := exists_cutAt_eq_cons '_' cs
  rw [modelChars, cutAt_other other cut, withinWord_eq cut, List.flatMap_cons, ← List.append_assoc]
  rfl

/-- The rest of a word stands before what follows it. -/
theorem withinWord_append {word : List Char} (whole : '_' ∉ word) (cs : List Char) :
    withinWord (word ++ cs) = word ++ withinWord cs := by
  induction word with
  | nil => rfl
  | cons c word ih =>
    have other : c ≠ '_' := (List.ne_of_not_mem_cons whole).symm
    have rest : '_' ∉ word := List.not_mem_of_not_mem_cons whole
    rw [List.cons_append, withinWord_other other, ih rest, List.cons_append]

/-- A model name begins with a capital. -/
theorem isCapital_head (cs : List Char) : ∀ c ∈ (modelChars cs).head?, IsCapital c := by
  induction cs with
  | nil =>
    intro c member
    cases member
  | cons c cs ih =>
    by_cases here : c = '_'
    · rw [here, modelChars_underscore]
      exact ih
    · obtain ⟨head, tail, form, capital, -⟩ := exists_upper_eq_cons c
      rw [modelChars_other here, form]
      intro first member
      rw [← Option.mem_some.mp member]
      exact capital

/-- Before a capital a name can be cut without loss. -/
theorem modelChars_append_capital (before : List Char) {after : List Char}
    (capital : ∀ c ∈ after.head?, IsCapital c) :
    modelChars (before ++ after) = modelChars before ++ modelChars after ∧
      withinWord (before ++ after) = withinWord before ++ modelChars after := by
  induction before with
  | nil =>
    refine ⟨rfl, ?_⟩
    cases after with
    | nil => rfl
    | cons c cs =>
      by_cases here : c = '_'
      · rw [here, modelChars_underscore]
        exact withinWord_underscore cs
      · have own : upper c = [c] := capital c rfl
        rw [modelChars_other here, own]
        exact withinWord_other here cs
  | cons c cs ih =>
    obtain ⟨names, words⟩ := ih
    rw [List.cons_append]
    by_cases here : c = '_'
    · rw [here, modelChars_underscore, modelChars_underscore, withinWord_underscore,
        withinWord_underscore]
      exact ⟨names, names⟩
    · rw [modelChars_other here, modelChars_other here, withinWord_other here,
        withinWord_other here, words, List.append_assoc, List.cons_append]
      exact ⟨rfl, rfl⟩

/-! ## Respellings -/

/-- Says that a word starts behind some characters. -/
def WordStarts (before : List Char) : Prop :=
  before = [] ∨ ∃ front, before = front ++ ['_']

/-- Where a word starts, what stands before it is named apart. -/
theorem modelChars_append_wordStarts {before : List Char} (starts : WordStarts before)
    (after : List Char) : modelChars (before ++ after) = modelChars before ++ modelChars after := by
  rcases starts with rfl | ⟨front, rfl⟩
  · rfl
  · have ended : modelChars (front ++ ['_']) = modelChars front := by
      rw [modelChars_append_underscore]
      exact List.append_nil _
    rw [List.append_assoc, ended]
    exact modelChars_append_underscore front after

/-- A change to a name that its model name does not show. -/
inductive Respelling : List Char → List Char → Prop
  /-- The first letter of a word is written large. -/
  | capital (before : List Char) (c : Char) (after : List Char) (starts : WordStarts before) :
      Respelling (before ++ c :: after) (before ++ (upper c ++ after))
  /-- An underscore is left out where a word begins anyway. -/
  | underscore (before after : List Char)
      (idle : WordStarts before ∨ ∀ c ∈ after.head?, IsCapital c) :
      Respelling (before ++ '_' :: after) (before ++ after)

/-- Says that two names come from one another by respellings. -/
def Alike : List Char → List Char → Prop :=
  Relation.EqvGen Respelling

/-- A capital in front of a name may be written from the start. -/
theorem modelChars_upper_append (c : Char) (cs : List Char) :
    modelChars (upper c ++ cs) = modelChars (c :: cs) := by
  by_cases here : c = '_'
  · have own : upper c = [c] := here ▸ isCapital_underscore
    rw [own]
    rfl
  · obtain ⟨head, tail, form, capital, whole⟩ := exists_upper_eq_cons c
    have free : '_' ∉ head :: tail := form ▸ whole here
    have other : head ≠ '_' := (List.ne_of_not_mem_cons free).symm
    have rest : '_' ∉ tail := List.not_mem_of_not_mem_cons free
    have own : upper head = [head] := capital
    rw [modelChars_other here, form, List.cons_append, modelChars_other other, own,
      withinWord_append rest]
    rfl

/-- A respelling does not change the name of the model. -/
theorem Respelling.modelChars_eq {name respelt : List Char} (step : Respelling name respelt) :
    modelChars name = modelChars respelt := by
  cases step with
  | capital before c after starts =>
    rw [modelChars_append_wordStarts starts, modelChars_append_wordStarts starts,
      modelChars_upper_append]
  | underscore before after idle =>
    rw [modelChars_append_underscore]
    rcases idle with starts | capital
    · exact (modelChars_append_wordStarts starts after).symm
    · exact (modelChars_append_capital before capital).1.symm

/-- Nor does any number of respellings. -/
theorem Alike.modelChars_eq {name other : List Char} (alike : Alike name other) :
    modelChars name = modelChars other := by
  induction alike with
  | rel _ _ step => exact step.modelChars_eq
  | refl _ => rfl
  | symm _ _ _ ih => exact ih.symm
  | trans _ _ _ _ _ first second => exact first.trans second

/-- Behind a text that ends a word a name can be respelt as its model name, and inside a word the
rest of the name can be respelt as what it gives. -/
theorem alike_append (cs : List Char) :
    (∀ before, WordStarts before → Alike (before ++ cs) (before ++ modelChars cs)) ∧
      ∀ before, Alike (before ++ cs) (before ++ withinWord cs) := by
  induction cs with
  | nil => exact ⟨fun _ _ => .refl _, fun _ => .refl _⟩
  | cons c cs ih =>
    obtain ⟨names, words⟩ := ih
    constructor
    · intro before starts
      by_cases here : c = '_'
      · rw [here, modelChars_underscore]
        have dropped := Respelling.underscore before cs (.inl starts)
        exact .trans _ _ _ (.rel _ _ dropped) (names before starts)
      · have large := Respelling.capital before c cs starts
        have rest := words (before ++ upper c)
        rw [List.append_assoc, List.append_assoc] at rest
        rw [modelChars_other here]
        exact .trans _ _ _ (.rel _ _ large) rest
    · intro before
      by_cases here : c = '_'
      · rw [here, withinWord_underscore]
        have rest := names (before ++ ['_']) (.inr ⟨before, rfl⟩)
        rw [List.append_assoc, List.append_assoc] at rest
        -- The underscore goes last, when the name behind it begins with a capital.
        have dropped := Respelling.underscore before (modelChars cs) (.inr (isCapital_head cs))
        exact .trans _ _ _ rest (.rel _ _ dropped)
      · have rest := words (before ++ [c])
        rw [List.append_assoc, List.append_assoc] at rest
        rw [withinWord_other here]
        exact rest

/-- Every name is alike to that of its model. -/
theorem Alike.modelChars (name : List Char) : Alike name (Naming.modelChars name) :=
  (alike_append name).1 [] (.inl rfl)

/-- Two tables share the name of their model exactly if their names are alike. -/
theorem modelName_eq_iff (name other : String) :
    modelName name = modelName other ↔ Alike name.toList other.toList := by
  rw [modelName, modelName, String.ofList_inj]
  constructor
  · intro same
    have there := Alike.modelChars other.toList
    rw [← same] at there
    exact .trans _ _ _ (Alike.modelChars name.toList) (.symm _ _ there)
  · exact Alike.modelChars_eq

/-! ## Names of small words -/

/-- Says that a word begins with a small letter and that no large letter follows. -/
def IsSmallWord : List Char → Prop
  | [] => False
  | first :: rest => first.isLower = true ∧ ∀ c ∈ rest, c.isUpper = false

/-- Small words can be told. -/
instance : DecidablePred IsSmallWord
  | [] => instDecidableFalse
  | _ :: rest => @instDecidableAnd _ _ _ (List.decidableBAll (fun c => c.isUpper = false) rest)

/-- Says that a name consists of small words with an underscore between any two of them. -/
def IsSmall (name : String) : Prop :=
  ∀ word ∈ cutAt '_' name.toList, IsSmallWord word

/-- So can small names. -/
instance : DecidablePred IsSmall := fun name =>
  List.decidableBAll IsSmallWord (cutAt '_' name.toList)

/-- A small letter has a capital of its own, 32 places before it. -/
theorem upper_isLower {c : Char} (small : c.isLower = true) :
    ∃ large, upper c = [large] ∧ large.isUpper = true ∧ c.toNat = large.toNat + 32 := by
  have letters : ∀ k : Fin 26, upper (Char.ofNat (k + 97)) = [Char.ofNat (k + 65)] ∧
      (Char.ofNat (k + 65)).isUpper = true ∧
      (Char.ofNat (k + 97)).toNat = (Char.ofNat (k + 65)).toNat + 32 := by
    decide +kernel
  have bounds : 97 ≤ c.toNat ∧ c.toNat ≤ 122 := by
    have both : (decide (97 ≤ c.val) && decide (c.val ≤ 122)) = true := small
    rw [Bool.and_eq_true, decide_eq_true_eq, decide_eq_true_eq] at both
    exact both
  have letter := letters ⟨c.toNat - 97, by omega⟩
  have back : c.toNat - 97 + 97 = c.toNat := by omega
  simp only [back, Char.ofNat_toNat] at letter
  exact ⟨_, letter⟩

/-- A text without large letters ends where a large letter or nothing follows. -/
theorem append_large_inj {word word' rest rest' : List Char}
    (small : ∀ c ∈ word, c.isUpper = false) (small' : ∀ c ∈ word', c.isUpper = false)
    (large : ∀ c ∈ rest.head?, c.isUpper = true) (large' : ∀ c ∈ rest'.head?, c.isUpper = true)
    (same : word ++ rest = word' ++ rest') : word = word' ∧ rest = rest' := by
  rcases List.append_eq_append_iff.mp same with ⟨gap, longer, more⟩ | ⟨gap, longer, more⟩
  · cases gap with
    | nil => exact ⟨by simpa using longer.symm, by simpa using more⟩
    | cons c gap =>
      have isLarge := large c (by rw [more]; rfl)
      have isSmall := small' c (by simp [longer])
      rw [isLarge] at isSmall
      cases isSmall
  · cases gap with
    | nil => exact ⟨by simpa using longer, by simpa using more.symm⟩
    | cons c gap =>
      have isLarge := large' c (by rw [more]; rfl)
      have isSmall := small c (by simp [longer])
      rw [isLarge] at isSmall
      cases isSmall

/-- A small word has one capital, at its head. -/
theorem capitalized_small {word : List Char} (small : IsSmallWord word) :
    ∃ large rest, capitalized word = large :: rest ∧ large.isUpper = true ∧
      ∀ c ∈ rest, c.isUpper = false := by
  cases word with
  | nil => exact small.elim
  | cons first rest =>
    obtain ⟨lower, free⟩ := small
    obtain ⟨large, form, isLarge, -⟩ := upper_isLower lower
    refine ⟨large, rest, ?_, isLarge, free⟩
    rw [capitalized, form]
    rfl

/-- A small word is known from its capitalized form. -/
theorem capitalized_inj {word word' : List Char} (small : IsSmallWord word)
    (small' : IsSmallWord word') (same : capitalized word = capitalized word') : word = word' := by
  cases word with
  | nil => exact small.elim
  | cons first rest =>
    cases word' with
    | nil => exact small'.elim
    | cons first' rest' =>
      obtain ⟨large, form, -, code⟩ := upper_isLower small.1
      obtain ⟨large', form', -, code'⟩ := upper_isLower small'.1
      rw [capitalized, capitalized, form, form', List.singleton_append, List.singleton_append]
        at same
      obtain ⟨letters, rests⟩ := List.cons_eq_cons.mp same
      have codes : first.toNat = first'.toNat := by rw [code, code', letters]
      rw [Char.toNat_inj.mp codes, rests]

/-- Capitalized words begin with a capital. -/
theorem isUpper_head_flatMap {words : List (List Char)}
    (small : ∀ word ∈ words, IsSmallWord word) :
    ∀ c ∈ (words.flatMap capitalized).head?, c.isUpper = true := by
  cases words with
  | nil =>
    intro c member
    cases member
  | cons word words =>
    obtain ⟨large, rest, form, isLarge, -⟩ := capitalized_small (small word List.mem_cons_self)
    rw [List.flatMap_cons, form]
    intro c member
    rw [← Option.mem_some.mp member]
    exact isLarge

/-- Small words are known from their capitalized forms one behind another. -/
theorem flatMap_capitalized_inj {words words' : List (List Char)}
    (small : ∀ word ∈ words, IsSmallWord word) (small' : ∀ word ∈ words', IsSmallWord word)
    (same : words.flatMap capitalized = words'.flatMap capitalized) : words = words' := by
  induction words generalizing words' with
  | nil =>
    cases words' with
    | nil => rfl
    | cons word' words' =>
      obtain ⟨large, rest, form, -, -⟩ := capitalized_small (small' word' List.mem_cons_self)
      rw [List.flatMap_cons, form] at same
      cases same
  | cons word words ih =>
    have first := small word List.mem_cons_self
    have others : ∀ word ∈ words, IsSmallWord word := fun word member =>
      small word (List.mem_cons_of_mem _ member)
    obtain ⟨large, rest, form, -, free⟩ := capitalized_small first
    cases words' with
    | nil =>
      rw [List.flatMap_cons, form] at same
      cases same
    | cons word' words' =>
      have first' := small' word' List.mem_cons_self
      have others' : ∀ word ∈ words', IsSmallWord word := fun word member =>
        small' word (List.mem_cons_of_mem _ member)
      obtain ⟨large', rest', form', -, free'⟩ := capitalized_small first'
      rw [List.flatMap_cons, List.flatMap_cons, form, form'] at same
      obtain ⟨letters, behind⟩ := List.cons_eq_cons.mp same
      obtain ⟨rests, later⟩ := append_large_inj free free' (isUpper_head_flatMap others)
        (isUpper_head_flatMap others') behind
      have capitals : capitalized word = capitalized word' := by
        rw [form, form', letters, rests]
      rw [capitalized_inj first first' capitals, ih others others' later]

/-- Names of small words are told apart by their model names. -/
theorem modelName_inj {name other : String} (small : IsSmall name) (small' : IsSmall other)
    (same : modelName name = modelName other) : name = other := by
  rw [modelName, modelName, String.ofList_inj] at same
  have words := flatMap_capitalized_inj small small' same
  exact String.toList_inj.mp (cutAt_inj words)

end SchemaPress.Naming
