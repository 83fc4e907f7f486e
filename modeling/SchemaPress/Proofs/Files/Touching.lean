import SchemaPress.Proofs.Files.Writing

/-!
# Which files a change touches

Making directories touches no file (`sameFileAt_makes`), and writing a text touches the file that is
written and no other one. So when texts are written one after another, every place that none of
their paths leads to holds the file that it held before (`sameFileAt_withTexts`), and a path is read
as before unless one of them leads to the same place (`read_withTexts_cases`).
-/

set_option autoImplicit false

namespace SchemaPress.FileTree

variable {before after tree : FileTree} {path content text : String} {spot : Spot}
  {files : List (String × String)}

/-- Says that a place holds the same file in two trees, or no file in either of them. -/
def SameFileAt (before after : FileTree) (spot : Spot) : Prop :=
  ∀ entry, entry ≠ .directory → (after.find? spot = some entry ↔ before.find? spot = some entry)

/-- A place that has not changed holds the same file. -/
theorem sameFileAt_of_eq (same : after.find? spot = before.find? spot) :
    SameFileAt before after spot := by
  intro entry _
  rw [same]

/-- Every place holds the same file as itself. -/
theorem SameFileAt.refl (tree : FileTree) (spot : Spot) : SameFileAt tree tree spot :=
  sameFileAt_of_eq rfl

/-- The same file stays the same over two changes. -/
theorem SameFileAt.trans {first second third : FileTree} (there : SameFileAt first second spot)
    (further : SameFileAt second third spot) : SameFileAt first third spot :=
  fun entry file => (further entry file).trans (there entry file)

/-! ## Directories -/

/-- To make a directory touches no file. -/
theorem sameFileAt_makeDirectory (made : tree.makeDirectory path = .ok after) (spot : Spot) :
    SameFileAt tree after spot := by
  obtain ⟨new, -, free, rfl⟩ := makeDirectory_eq_ok made
  by_cases here : spot = new
  · have inner : new ≠ [] := by
      intro root
      rw [root, find?_root] at free
      cases free
    intro entry file
    rw [here, find?_insert_self tree inner, free]
    constructor
    · intro same
      exact absurd (Option.some.inj same).symm file
    · intro none
      cases none
  · exact sameFileAt_of_eq (find?_insert_other tree here _)

/-- However many directories are made, no file is touched. -/
theorem sameFileAt_makes (makes : Relation.ReflTransGen MakesDirectory before after) (spot : Spot) :
    SameFileAt before after spot := by
  induction makes with
  | refl => exact SameFileAt.refl before spot
  | tail _ step ih =>
    obtain ⟨path, made⟩ := step
    exact ih.trans (sameFileAt_makeDirectory made spot)

/-- To make all directories on a path touches no file. -/
theorem sameFileAt_makeDirectories (path : String) (tree : FileTree) (spot : Spot) :
    SameFileAt tree ((Files.makeDirectories path : StateM FileTree _) tree).2 spot :=
  sameFileAt_makes (onlyMakes_makeDirectories path tree) spot

/-! ## Files -/

/-- To write a file touches no other one. -/
theorem sameFileAt_write (written : tree.write path content = .ok after)
    (elsewhere : after.spot path ≠ .ok spot) : SameFileAt tree after spot := by
  obtain ⟨place, found, -, -, file, rfl⟩ := write_eq_ok written
  have leads : (tree.insert place (.text content)).spot path = .ok place :=
    spotOf_of_keeps (keeps_insert file _) found
  have apart : spot ≠ place := by
    rintro rfl
    exact elsewhere leads
  exact sameFileAt_of_eq (find?_insert_other tree apart _)

/-- A place that no path of the files leads to is left alone when they are written. -/
theorem sameFileAt_withTexts (wrote : tree.withTexts files = .ok after)
    (elsewhere : ∀ file ∈ files, after.spot file.1 ≠ .ok spot) : SameFileAt tree after spot := by
  induction files generalizing tree with
  | nil =>
    rw [← Except.ok.inj wrote]
    exact SameFileAt.refl tree spot
  | cons file files ih =>
    obtain ⟨made, written, around, first, rest⟩ := (withTexts_cons_eq_ok file.1 file.2).mp wrote
    rw [List.forall_mem_cons] at elsewhere
    have directories : SameFileAt tree made spot := by
      have same := sameFileAt_makeDirectories ((Files.parent? file.1).getD "") tree spot
      rw [around] at same
      exact same
    have other : written.spot file.1 ≠ .ok spot :=
      fun leads => elsewhere.1 (spotOf_of_keeps (keeps_withTexts rest) leads)
    exact (directories.trans (sameFileAt_write first other)).trans (ih rest elsewhere.2)

/-- What is read at a path stays the same where its file does and the directories are kept. -/
theorem read_of_sameFileAt (keeps : Keeps before after) (leads : before.spot path = .ok spot)
    (same : SameFileAt before after spot) (here : before.read path = .ok text) :
    after.read path = .ok text := by
  obtain ⟨place, found, entry, slash⟩ := read_eq_ok_iff.mp here
  obtain rfl : spot = place := Except.ok.inj (leads.symm.trans found)
  have file : Entry.text text ≠ .directory := by
    intro directory
    cases directory
  exact read_eq_ok_iff.mpr ⟨spot, spotOf_of_keeps keeps found, (same _ file).mpr entry, slash⟩

/-- What has been read at a path is read there again, or one of the files has been written there. -/
theorem read_withTexts_cases (wrote : tree.withTexts files = .ok after)
    (leads : tree.spot path = .ok spot) (here : tree.read path = .ok text) :
    after.read path = .ok text ∨ ∃ file ∈ files, after.spot file.1 = .ok spot := by
  by_cases touched : ∃ file ∈ files, after.spot file.1 = .ok spot
  · exact .inr touched
  · have elsewhere : ∀ file ∈ files, after.spot file.1 ≠ .ok spot :=
      fun file mem there => touched ⟨file, mem, there⟩
    exact .inl (read_of_sameFileAt (keeps_withTexts wrote) leads
      (sameFileAt_withTexts wrote elsewhere) here)

end SchemaPress.FileTree
