import Mathlib.Algebra.GroupWithZero.Nat
import SchemaPress.Naming
import SchemaPress.Proofs.Text.Cutting
import SchemaPress.Proofs.Text.Joining
import SchemaPress.Proofs.Text.Uppercase

/-!
# Counting line feeds

A text has one line more than line feeds, so the lines of joined texts are counted text by text:
each piece of an output brings the line feeds of the strings that are written into it and those of
the words around them. A numeral, a padding and the backslashes of an escaped text bring none, and a
model has as many in its name as its table.

`Counted lines n texts` says that a list of entries, each of which may be several lines, has `n`
lines and as many more as there are line feeds in some texts. Entries are counted one behind the
other (`Counted.append`, `Counted.flatMap`), and joined by line feeds they have as many lines as the
entries have together (`lineCount_joined`).
-/

set_option autoImplicit false

namespace SchemaPress.Text

/-- The number of line feeds in a text. -/
def feeds (text : String) : Nat :=
  text.toList.count '\n'

/-- The number of line feeds in some texts together. -/
def feedsOf (texts : List String) : Nat :=
  (texts.map feeds).sum

/-- A text without a line feed has none of them. -/
theorem feeds_eq_zero_iff (text : String) : feeds text = 0 ↔ '\n' ∉ text.toList :=
  List.count_eq_zero

/-- A text has one line more than line feeds. -/
theorem lineCount_eq (text : String) : lineCount text = feeds text + 1 :=
  rfl

/-- A text has as many lines as there are pieces of it between its line feeds. -/
theorem length_cutAt (mark : Char) (cs : List Char) :
    (cutAt mark cs).length = cs.count mark + 1 := by
  induction cs with
  | nil => rfl
  | cons c cs ih =>
    by_cases here : c = mark
    · rw [here, cutAt_mark, List.length_cons, List.count_cons_self, ih]
    · obtain ⟨piece, pieces, cut⟩ := exists_cutAt_eq_cons mark cs
      rw [cut] at ih
      rw [cutAt_other here cut, List.count_cons_of_ne here]
      exact ih

/-! ## Texts put together -/

/-- The line feeds of two texts are counted in each of them. -/
@[simp]
theorem feeds_append (text other : String) : feeds (text ++ other) = feeds text + feeds other := by
  rw [feeds, String.toList_append, List.count_append]
  rfl

/-- No texts have no line feeds. -/
@[simp]
theorem feedsOf_nil : feedsOf [] = 0 :=
  rfl

/-- The line feeds of a text and further texts. -/
@[simp]
theorem feedsOf_cons (text : String) (texts : List String) :
    feedsOf (text :: texts) = feeds text + feedsOf texts :=
  List.sum_cons

/-- The line feeds of two lists of texts. -/
@[simp]
theorem feedsOf_append (texts others : List String) :
    feedsOf (texts ++ others) = feedsOf texts + feedsOf others := by
  simp [feedsOf]

/-- Texts have no line feeds if there is none in any of them. -/
theorem feedsOf_eq_zero_iff (texts : List String) :
    feedsOf texts = 0 ↔ ∀ text ∈ texts, '\n' ∉ text.toList := by
  induction texts with
  | nil => simp
  | cons text texts ih => simp [ih, feeds_eq_zero_iff]

/-- The line feeds of the texts of some items are counted item by item. -/
theorem feedsOf_flatMap {α : Type} (texts : α → List String) (items : List α) :
    feedsOf (items.flatMap texts) = (items.map fun item => feedsOf (texts item)).sum := by
  induction items with
  | nil => rfl
  | cons item items ih => rw [List.flatMap_cons, feedsOf_append, ih, List.map_cons, List.sum_cons]

/-- So they are where each item has one text. -/
theorem feedsOf_map {α : Type} (line : α → String) (items : List α) :
    feedsOf (items.map line) = (items.map fun item => feeds (line item)).sum := by
  rw [feedsOf, List.map_map]
  rfl

/-- Texts that are put together have the line feeds of all of them. -/
theorem feeds_concatenated (texts : List String) : feeds (concatenated texts) = feedsOf texts := by
  induction texts with
  | nil => rfl
  | cons text texts ih => rw [concatenated, feeds_append, ih, feedsOf_cons]

/-- Texts between which there is no line feed bring their own. -/
theorem feeds_joined {separator : String} (free : feeds separator = 0) (texts : List String) :
    feeds (joined separator texts) = feedsOf texts := by
  induction texts with
  | nil => rfl
  | cons text texts ih =>
    cases texts with
    | nil => simp [joined]
    | cons next texts => simp [joined, free, ih]

/-- Texts with one line feed between any two of them have as many lines as they have together. -/
theorem lineCount_joined {separator : String} (single : feeds separator = 1) {texts : List String}
    (some : texts ≠ []) : lineCount (joined separator texts) = (texts.map lineCount).sum := by
  induction texts with
  | nil => exact absurd rfl some
  | cons text texts ih =>
    cases texts with
    | nil => simp [joined]
    | cons next texts =>
      have rest := ih (List.cons_ne_nil next texts)
      rw [lineCount_eq] at rest
      have split : joined separator (text :: next :: texts) =
          text ++ separator ++ joined separator (next :: texts) := rfl
      rw [split, lineCount_eq, feeds_append, feeds_append, single, List.map_cons, List.sum_cons,
        ← rest, lineCount_eq]
      omega

/-! ## Texts without line feeds of their own -/

/-- A numeral has no line feed. -/
@[simp]
theorem feeds_repr (n : Nat) : feeds n.repr = 0 := by
  rw [feeds_eq_zero_iff, Nat.toList_repr]
  exact not_mem_numeral (by decide) n

/-- Padding puts in no line feed. -/
@[simp]
theorem feeds_padRight (width : Nat) (text : String) :
    feeds (padRight width text) = feeds text := by
  simp [feeds, padRight, List.count_replicate]

/-! ## Names of models -/

/-- The uppercase form of a character holds a line feed only if it is that of the line feed. -/
theorem lineFeed_not_mem_upper {c : Char} (other : c ≠ '\n') : '\n' ∉ upper c := by
  have expansions : ∀ pair ∈ uppercaseExpansions, '\n' ∉ pair.2.map Char.ofNat := by
    decide +kernel
  have runs : ∀ run ∈ uppercaseRuns, '\n'.toNat < run.low := by
    decide +kernel
  cases expanded : uppercaseExpansions.find? (·.1 == c.toNat) with
  | some pair =>
    rw [upper, expanded]
    exact expansions pair (List.mem_of_find?_eq_some expanded)
  | none =>
    cases shifted : uppercaseRuns.find? (·.covers c.toNat) with
    | some run =>
      have member := List.mem_of_find?_eq_some shifted
      have covered : run.covers c.toNat = true := by simpa using List.find?_some shifted
      have form : upper c = [Char.ofNat (run.image c.toNat)] := by
        rw [upper, expanded, shifted]
        rfl
      have above := (UppercaseRun.image_mem covered).1
      have behind := runs run member
      rw [form, List.mem_singleton]
      intro lineFeed
      have point := toNat_image member covered
      rw [← lineFeed] at point
      omega
    | none =>
      rw [upper, expanded, shifted, List.mem_singleton]
      exact other.symm

/-- A character in upper case is a line feed only if it was one. -/
theorem count_upper (c : Char) : (upper c).count '\n' = [c].count '\n' := by
  by_cases lineFeed : c = '\n'
  · subst lineFeed
    decide +kernel
  · have other : '\n' ∉ [c] := fun member => lineFeed (List.mem_singleton.mp member).symm
    rw [List.count_eq_zero.mpr (lineFeed_not_mem_upper lineFeed), List.count_eq_zero.mpr other]

/-- Capitals leave the line feeds of a piece. -/
theorem count_capitalized (piece : List Char) :
    (Naming.capitalized piece).count '\n' = piece.count '\n' := by
  cases piece with
  | nil => rfl
  | cons c cs =>
    rw [Naming.capitalized, List.count_append, count_upper, ← List.count_append,
      List.singleton_append]

/-- So does the making of a model's name. -/
theorem count_modelChars (cs : List Char) :
    (Naming.modelChars cs).count '\n' = cs.count '\n' := by
  -- Only underscores stand between the pieces, and none of them is a line feed.
  unfold Naming.modelChars
  induction cs with
  | nil => rfl
  | cons c cs ih =>
    obtain ⟨piece, pieces, cut⟩ := exists_cutAt_eq_cons '_' cs
    rw [cut, List.flatMap_cons, List.count_append, count_capitalized] at ih
    by_cases here : c = '_'
    · subst here
      rw [cutAt_mark, cut, List.flatMap_cons, List.flatMap_cons, List.count_append,
        List.count_append, count_capitalized, count_capitalized, ih]
      simp
    · rw [cutAt_other here cut, List.flatMap_cons, List.count_append, count_capitalized,
        List.count_cons, List.count_cons, ← ih]
      omega

/-- The name of a model has the line feeds of its table's name. -/
@[simp]
theorem feeds_modelName (table : String) : feeds (Naming.modelName table) = feeds table := by
  rw [feeds, Naming.modelName, String.toList_ofList, count_modelChars, feeds]

/-! ## Entries of several lines -/

/-- Says that some entries, each of which may be several lines, are `n` lines and as many more as
there are line feeds in some texts. -/
def Counted (entries : List String) (n : Nat) (texts : List String) : Prop :=
  (entries.map lineCount).sum = n + feedsOf texts

/-- The lines of some entries are one for each entry and one for each line feed. -/
theorem sum_lineCount (entries : List String) :
    (entries.map lineCount).sum = entries.length + feedsOf entries := by
  induction entries with
  | nil => rfl
  | cons entry entries ih =>
    rw [List.map_cons, List.sum_cons, ih, lineCount_eq, List.length_cons, feedsOf_cons]
    omega

section

variable {entries others texts more : List String} {n m : Nat}

/-- Entries are lines of their own, apart from the line feeds that are written into them. -/
theorem counted_of_length (length : entries.length = n) (same : feedsOf entries = feedsOf texts) :
    Counted entries n texts := by
  rw [Counted, sum_lineCount, length, same]

/-- Entries behind others are counted with them. -/
theorem Counted.append (first : Counted entries n texts) (second : Counted others m more) :
    Counted (entries ++ others) (n + m) (texts ++ more) := by
  unfold Counted at *
  rw [List.map_append, List.sum_append, first, second, feedsOf_append]
  omega

/-- The entries of some items are counted item by item. -/
theorem Counted.flatMap {α : Type} {block texts : α → List String} {size : α → Nat}
    (each : ∀ item, Counted (block item) (size item) (texts item)) (items : List α) :
    Counted (items.flatMap block) (items.map size).sum (items.flatMap texts) := by
  induction items with
  | nil => rfl
  | cons item items ih =>
    rw [List.flatMap_cons, List.map_cons, List.sum_cons, List.flatMap_cons]
    exact (each item).append ih

/-- So they are where each item has one entry. -/
theorem counted_map {α : Type} {line : α → String} {texts : α → List String}
    (each : ∀ item, feeds (line item) = feedsOf (texts item)) (items : List α) :
    Counted (items.map line) items.length (items.flatMap texts) := by
  apply counted_of_length (List.length_map line)
  rw [feedsOf_map, feedsOf_flatMap, funext each]

/-- Entries joined by line feeds have as many lines as they have together. -/
theorem Counted.lineCount_joined (counted : Counted entries n texts) (some : entries ≠ []) :
    lineCount (joined "\n" entries) = n + feedsOf texts := by
  rw [Text.lineCount_joined rfl some]
  exact counted

end

end SchemaPress.Text
