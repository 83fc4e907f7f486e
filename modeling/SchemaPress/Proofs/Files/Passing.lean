import SchemaPress.Files.Tree
import SchemaPress.Proofs.Files.Paths

/-!
# The places that paths go through

The parts of a path lead from the root from place to place, whatever there is at these places
(`Passes`). The directories around what a path leads to lie on the way (`passes_of_mem_ancestors`),
and so does a directory on the way to what is inside it (`passes_of_directory`).
-/

set_option autoImplicit false

namespace SchemaPress.Files

open FileTree (Spot)

variable {path directory name : String} {spot start : Spot} {front back whole : List (List Char)}

/-- The place that a part of a path leads to. -/
def step (spot : Spot) (part : List Char) : Spot :=
  if isIdle part then spot else if part = ['.', '.'] then spot.dropLast else spot ++ [part]

/-- The places that the parts of a path lead to, one after another, with the first one. -/
def passed : Spot → List (List Char) → List Spot
  | spot, [] => [spot]
  | spot, part :: parts => spot :: passed (step spot part) parts

/-- Says that a path goes through a place, or to it. -/
def Passes (path : String) (spot : Spot) : Prop :=
  spot ∈ passed [] (parts path)

instance (path : String) (spot : Spot) : Decidable (Passes path spot) :=
  inferInstanceAs (Decidable (_ ∈ _))

/-- A way goes through the place where it begins. -/
theorem mem_passed_start (start : Spot) (parts : List (List Char)) :
    start ∈ passed start parts := by
  cases parts <;> exact List.mem_cons_self

/-- A longer way goes through all places of a shorter one. -/
theorem passed_append (start : Spot) (front back : List (List Char)) :
    passed start front ⊆ passed start (front ++ back) := by
  induction front generalizing start with
  | nil => exact List.cons_subset.mpr ⟨mem_passed_start start back, List.nil_subset _⟩
  | cons part front ih => exact List.cons_subset_cons start (ih (step start part))

/-- So it does through those of any way that it begins with. -/
theorem passed_mono (start : Spot) (shorter : front <+: whole) :
    passed start front ⊆ passed start whole := by
  obtain ⟨back, rfl⟩ := shorter
  exact passed_append start front back

/-- An idle part at the end leads to no other place. -/
theorem passed_idle {part : List Char} (idle : isIdle part = true) (start : Spot)
    (front : List (List Char)) : passed start (front ++ [part]) ⊆ passed start front := by
  induction front generalizing start with
  | nil =>
    rw [List.nil_append, passed, passed, step, if_pos idle]
    exact List.cons_subset.mpr ⟨List.mem_cons_self, List.Subset.refl _⟩
  | cons first front ih => exact List.cons_subset_cons start (ih (step start first))

/-- The empty path goes through the root only. -/
theorem passed_empty : passed [] (parts "") ⊆ [[]] := by
  decide

/-- The way to a file goes through no other places than its path. -/
theorem passed_fileParts (path : String) :
    passed [] (fileParts path) ⊆ passed [] (parts path) := by
  rcases fileParts_cases path with ⟨same, -⟩ | ⟨front, idle, shorter⟩
  · rw [same]
    exact List.Subset.refl _
  · rw [idle]
    exact List.Subset.trans (passed_idle (by decide) [] front) (passed_mono [] shorter)

/-! ## Directories around what a path leads to -/

/-- Parts without those at the end that lead nowhere are the first of all parts. -/
theorem prefix_trimmed (parts : List (List Char)) : trimmed parts <+: parts := by
  have shorter := List.dropWhile_suffix isIdle (l := parts.reverse)
  rw [trimmed, ← List.reverse_suffix, List.reverse_reverse]
  exact shorter

/-- A path that is made of parts has these parts, up to an empty one at the end. -/
theorem passed_ofParts {first : List Char} {rest : List (List Char)}
    (free : ∀ part ∈ first :: rest, '/' ∉ part) :
    passed [] (parts (ofParts first rest)) ⊆ passed [] (first :: rest) := by
  unfold ofParts
  by_cases root : first.isEmpty && rest.isEmpty
  · rw [if_pos root]
    obtain ⟨rfl, rfl⟩ : first = [] ∧ rest = [] := by simpa using root
    decide
  · have pieces : parts (Text.joined "/" ((first :: rest).map String.ofList)) = first :: rest := by
      rw [parts, Text.cutAt_joined rfl (by simp), List.flatMap_map]
      simp only [String.toList_ofList]
      exact Text.flatMap_cutAt free
    rw [if_neg root, pieces]
    exact List.Subset.refl _

/-- The path around another one goes through no other places. -/
theorem passed_parent? {around : String} (inner : parent? path = some around) :
    passed [] (parts around) ⊆ passed [] (parts path) := by
  have free := Text.not_mem_cutAt '/' path.toList
  rw [← parts] at free
  rw [parent?] at inner
  cases cut : parts path with
  | nil => exact absurd cut (parts_ne_nil path)
  | cons first rest =>
    rw [cut] at inner free
    dsimp only at inner
    cases kept : trimmed rest with
    | nil =>
      rw [kept] at inner
      dsimp only at inner
      split at inner
      · cases inner
      · rw [← Option.some.inj inner]
        exact List.Subset.trans passed_empty
          (List.cons_subset.mpr ⟨mem_passed_start [] _, List.nil_subset _⟩)
    | cons part more =>
      rw [kept] at inner
      rw [← Option.some.inj inner, ← kept]
      have shorter : first :: trimmed (trimmed rest).dropLast <+: first :: rest :=
        List.cons_prefix_cons.mpr ⟨rfl,
          (prefix_trimmed _).trans ((List.dropLast_prefix _).trans (prefix_trimmed rest))⟩
      have made : passed [] (parts (ofParts first (trimmed (trimmed rest).dropLast))) ⊆
          passed [] (first :: trimmed (trimmed rest).dropLast) :=
        passed_ofParts fun piece mem => free piece (shorter.subset mem)
      exact List.Subset.trans made (passed_mono [] shorter)

/-- What the path around another one goes through, that path goes through. -/
theorem passes_of_around (passes : Passes ((parent? path).getD "") spot) : Passes path spot := by
  cases inner : parent? path with
  | none =>
    rw [inner] at passes
    rw [List.mem_singleton.mp (passed_empty passes)]
    exact mem_passed_start [] _
  | some around =>
    rw [inner] at passes
    exact passed_parent? inner passes

/-- So it is for the paths above it, up to any of them. -/
theorem passes_of_mem_ancestorsUpTo {fuel : Nat} {above : String}
    (mem : above ∈ ancestorsUpTo fuel path) (passes : Passes above spot) : Passes path spot := by
  induction fuel generalizing path with
  | zero => cases mem
  | succ fuel ih =>
    rw [ancestorsUpTo] at mem
    cases inner : parent? path with
    | none =>
      rw [inner] at mem
      cases mem
    | some around =>
      rw [inner] at mem
      rcases List.mem_cons.mp mem with rfl | further
      · exact passes
      · exact passed_parent? inner (ih further)

/-- The directories around what a path leads to lie on its way. -/
theorem passes_of_mem_ancestors {above : String} (mem : above ∈ ancestors path)
    (passes : Passes above spot) : Passes path spot :=
  passes_of_mem_ancestorsUpTo mem passes

/-- A directory lies on the way to what is inside it. -/
theorem passes_of_directory (passes : Passes directory spot) :
    Passes (inside directory name) spot := by
  unfold inside
  by_cases plain : directory.isEmpty || directory.endsWith "/"
  · rw [if_pos plain]
    rcases Bool.or_eq_true_iff.mp plain with empty | ends
    · rw [String.isEmpty_iff.mp empty] at passes
      rw [List.mem_singleton.mp (passed_empty passes)]
      exact mem_passed_start [] _
    · obtain ⟨front, chars⟩ := exists_toList_of_endsWith ends
      have cut : parts directory = Text.cutAt '/' front ++ [[]] := by
        rw [parts, chars, Text.cutAt_append]
        rfl
      rw [Passes, cut] at passes
      rw [Passes, parts, String.toList_append, chars, List.append_assoc, List.singleton_append,
        Text.cutAt_append]
      exact passed_append [] _ _ (passed_idle rfl [] _ passes)
  · rw [if_neg plain, Passes, parts, String.toList_append, String.toList_append, List.append_assoc]
    have slash : "/".toList ++ name.toList = '/' :: name.toList := rfl
    rw [slash, Text.cutAt_append]
    exact passed_append [] _ _ passes

end SchemaPress.Files
