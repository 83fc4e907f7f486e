import Mathlib
import SchemaPress.Proofs.Text.Joining
import SchemaPress.Text.Blank

/-!
# Words between blanks

What `trim` leaves of a text is the one part between blanks that has no blank at its ends
(`trim_eq`). The case of ASCII letters has no say in what is blank, so a text may be trimmed before
or after its letters are made small or large. Hence two texts with blanks around words that differ
in the case of letters only are told by what is left of them (`sameWord_iff`).
-/

set_option autoImplicit false

namespace SchemaPress.Text

/-- Says that there are only blanks in a text. -/
def AllBlank (cs : List Char) : Prop :=
  ∀ c ∈ cs, isBlank c = true

/-- Says that a text neither begins nor ends with a blank. -/
def IsTrimmed (cs : List Char) : Prop :=
  (∀ c ∈ cs.head?, isBlank c = false) ∧ ∀ c ∈ cs.getLast?, isBlank c = false

/-- Blanks before blanks are blanks. -/
theorem AllBlank.append {cs ds : List Char} (blanks : AllBlank cs) (more : AllBlank ds) :
    AllBlank (cs ++ ds) :=
  List.forall_mem_append.mpr ⟨blanks, more⟩

/-! ## Trimming -/

/-- A text is what `trim` leaves of it with blanks on both sides. -/
theorem exists_trim (cs : List Char) :
    ∃ before after, cs = before ++ (trim cs ++ after) ∧ AllBlank before ∧ AllBlank after := by
  refine ⟨cs.takeWhile isBlank, (cs.dropWhile isBlank).rtakeWhile isBlank, ?_,
    fun c => List.mem_takeWhile_imp, fun c => List.mem_rtakeWhile_imp⟩
  have back : trim cs ++ (cs.dropWhile isBlank).rtakeWhile isBlank = cs.dropWhile isBlank :=
    List.rdropWhile_append_rtakeWhile
  rw [back, List.takeWhile_append_dropWhile]

/-- A trimmed text has no blanks around it. -/
theorem isTrimmed_trim (cs : List Char) : IsTrimmed (trim cs) := by
  constructor
  · intro c head
    obtain ⟨rest, front⟩ := List.rdropWhile_prefix isBlank (l := cs.dropWhile isBlank)
    change trim cs ++ rest = cs.dropWhile isBlank at front
    have first : (cs.dropWhile isBlank).head? = some c := by
      rw [← front, List.head?_append, Option.mem_def.mp head]
      rfl
    have stops := List.head?_dropWhile_not isBlank cs
    rw [first] at stops
    simpa using stops
  · intro c last
    have some : trim cs ≠ [] := by
      intro none
      rw [none] at last
      cases last
    have stops := List.rdropWhile_last_not isBlank (cs.dropWhile isBlank) some
    rw [List.getLast?_eq_some_getLast some] at last
    obtain rfl := Option.some.inj last
    exact Bool.eq_false_iff.mpr stops

/-- A text without blanks around it is what trimming leaves of it between blanks. -/
theorem trim_eq {before word after : List Char} (blanks : AllBlank before)
    (blanks' : AllBlank after) (trimmed : IsTrimmed word) :
    trim (before ++ (word ++ after)) = word := by
  cases word with
  | nil =>
    have none : (before ++ ([] ++ after)).dropWhile isBlank = [] :=
      List.dropWhile_eq_nil_iff.mpr (blanks.append blanks')
    rw [trim, none]
    rfl
  | cons c cs =>
    have beginning : ∀ d ∈ ((c :: cs) ++ after).head?, isBlank d = false := trimmed.1
    have ending : ∀ d ∈ (c :: cs).reverse.head?, isBlank d = false := by
      rw [List.head?_reverse]
      exact trimmed.2
    have blanksBehind : ∀ d ∈ after.reverse, isBlank d = true :=
      fun d member => blanks' d (List.mem_reverse.mp member)
    rw [trim, (takeWhile_dropWhile_append blanks beginning).2, List.reverse_append,
      (takeWhile_dropWhile_append blanksBehind ending).2, List.reverse_reverse]

/-- Blanks around a text do not matter to trimming. -/
theorem trim_between {before after : List Char} (blanks : AllBlank before)
    (blanks' : AllBlank after) (cs : List Char) : trim (before ++ (cs ++ after)) = trim cs := by
  obtain ⟨front, back, whole, frontBlank, backBlank⟩ := exists_trim cs
  have regrouped : before ++ (cs ++ after) =
      (before ++ front) ++ (trim cs ++ (back ++ after)) := by
    conv_lhs => rw [whole]
    simp only [List.append_assoc]
  rw [regrouped, trim_eq (blanks.append frontBlank) (backBlank.append blanks') (isTrimmed_trim cs)]

/-- Trimming puts nothing in. -/
theorem mem_of_mem_trim {c : Char} {cs : List Char} (member : c ∈ trim cs) : c ∈ cs := by
  obtain ⟨before, after, whole, -, -⟩ := exists_trim cs
  rw [whole]
  exact List.mem_append_right before (List.mem_append_left after member)

/-! ## The case of letters -/

/-- Only characters of ASCII have another small form than themselves. -/
theorem toLower_induction {P : Char → Char → Prop}
    (ascii : ∀ n < 128, P (Char.ofNat n) (Char.ofNat n).toLower) (same : ∀ c, P c c) (c : Char) :
    P c c.toLower := by
  by_cases small : c.toNat < 128
  · have own := ascii c.toNat small
    rwa [Char.ofNat_toNat] at own
  · have notUpper : ¬ c.isUpper := by
      simp only [Char.isUpper, UInt32.le_iff_toNat_le, Char.toNat_val, Char.reduceVal,
        UInt32.reduceToNat, decide_eq_true_eq]
      omega
    rw [Char.toLower_eq_of_not_isUpper notUpper]
    exact same c

/-- A character is a blank exactly if it is one in lower case. -/
@[simp]
theorem isBlank_toLower (c : Char) : isBlank c.toLower = isBlank c :=
  toLower_induction (P := fun c d => isBlank d = isBlank c) (by decide) (fun _ => rfl) c

/-- So it is for upper case. -/
@[simp]
theorem isBlank_toUpper (c : Char) : isBlank c.toUpper = isBlank c := by
  rw [← isBlank_toLower, Char.toLower_toUpper_eq_toLower, isBlank_toLower]

section

variable {change : Char → Char} (keeps : ∀ c, isBlank (change c) = isBlank c)
include keeps

/-- A change that keeps blanks and all else apart keeps a text trimmed. -/
theorem isTrimmed_map {cs : List Char} (trimmed : IsTrimmed cs) : IsTrimmed (cs.map change) := by
  constructor
  · simpa [keeps] using trimmed.1
  · simpa [keeps] using trimmed.2

/-- It keeps blanks blank. -/
theorem allBlank_map {cs : List Char} (blanks : AllBlank cs) : AllBlank (cs.map change) := by
  simpa [AllBlank, keeps] using blanks

/-- A text may be trimmed before or after a change that keeps its blanks. -/
theorem trim_map (cs : List Char) : trim (cs.map change) = (trim cs).map change := by
  obtain ⟨before, after, whole, blanks, blanks'⟩ := exists_trim cs
  conv_lhs => rw [whole, List.map_append, List.map_append]
  exact trim_eq (allBlank_map keeps blanks) (allBlank_map keeps blanks')
    (isTrimmed_map keeps (isTrimmed_trim cs))

end

/-- Letters are the same but for their case if they have one small form, or one large form. -/
theorem map_toLower_eq_iff {cs ds : List Char} :
    cs.map Char.toLower = ds.map Char.toLower ↔ cs.map Char.toUpper = ds.map Char.toUpper := by
  constructor
  · intro same
    have upper := congrArg (List.map Char.toUpper) same
    simpa [Function.comp_def] using upper
  · intro same
    have lower := congrArg (List.map Char.toLower) same
    simpa [Function.comp_def] using lower

/-! ## Words -/

/-- Says that two texts differ only in the case of ASCII letters and in the blanks around them. -/
def SameWord (cs ds : List Char) : Prop :=
  ∃ before word after before' word' after',
    cs = before ++ (word ++ after) ∧ ds = before' ++ (word' ++ after') ∧
    AllBlank before ∧ AllBlank after ∧ AllBlank before' ∧ AllBlank after' ∧
    word.map Char.toLower = word'.map Char.toLower

/-- Two texts are the same word if they are equal in lower case without the blanks around them. -/
theorem sameWord_iff {cs ds : List Char} :
    SameWord cs ds ↔ (trim cs).map Char.toLower = (trim ds).map Char.toLower := by
  constructor
  · rintro ⟨before, word, after, before', word', after', rfl, rfl, blanks, blanks', others,
      others', same⟩
    rw [trim_between blanks blanks', trim_between others others', ← trim_map isBlank_toLower, same,
      trim_map isBlank_toLower]
  · intro same
    obtain ⟨before, after, whole, blanks, blanks'⟩ := exists_trim cs
    obtain ⟨before', after', whole', others, others'⟩ := exists_trim ds
    exact ⟨before, trim cs, after, before', trim ds, after', whole, whole', blanks, blanks', others,
      others', same⟩

end SchemaPress.Text
