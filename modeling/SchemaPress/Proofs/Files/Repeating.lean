import SchemaPress.Proofs.Files.Writing

/-!
# Doing again what has been done

A directory that is there is not made again (`makeDirectories_again`), and a file that holds a text
is left as it is when the text is written into it (`write_of_read`). So texts that have been written
into files, and that the files still hold, can be written once more, and nothing changes
(`withTexts_again`).
-/

set_option autoImplicit false

namespace SchemaPress.FileTree

variable {before after tree now : FileTree} {path content text : String} {spot : Spot}
  {files : List (String × String)}

/-! ## Writing -/

/-- To replace an entry by itself changes nothing. -/
theorem replaced_of_lookup {entry : Entry} {entries : List (Spot × Entry)}
    (here : entries.lookup spot = some entry) : replaced spot entry entries = entries := by
  induction entries with
  | nil => cases here
  | cons pair entries ih =>
    obtain ⟨place, old⟩ := pair
    rw [lookup_cons_eq_ite] at here
    unfold replaced
    by_cases same : spot = place
    · rw [if_pos same] at here
      rw [if_pos same.symm, same, Option.some.inj here]
    · rw [if_neg same] at here
      rw [if_neg (Ne.symm same), ih here]

/-- To put what is there where it is changes nothing. -/
theorem insert_of_find? {entry : Entry} (inner : spot ≠ []) (here : tree.find? spot = some entry) :
    tree.insert spot entry = tree := by
  have some : ¬ spot.isEmpty = true := fun empty => inner (List.isEmpty_iff.mp empty)
  rw [find?, if_neg some] at here
  rw [insert, replaced_of_lookup here]

/-- To write into a file what it holds changes nothing. -/
theorem write_of_read (held : tree.read path = .ok content) :
    tree.write path content = .ok tree := by
  obtain ⟨spot, found, entry, slash⟩ := read_eq_ok_iff.mp held
  have inner : spot ≠ [] := by
    intro root
    rw [root, find?_root] at entry
    cases entry
  have place : tree.spotOf path (Files.fileParts path) = .ok spot := by
    rw [Files.fileParts_eq_parts (path_ne_empty_of_spot found) slash]
    exact found
  have file : ¬ (tree.find? spot == some .directory) = true := by
    rw [entry]
    simp
  rw [write_of_spotOf place, if_neg file, insert_of_find? inner entry]

/-! ## Making directories -/

/-- A path is that of a directory if it leads to one. -/
theorem isDirectory_iff :
    tree.isDirectory path = true ↔
      ∃ spot, tree.spot path = .ok spot ∧ tree.find? spot = some .directory := by
  cases found : tree.spot path with
  | error error =>
    have none : tree.entry path = .error error := by
      rw [entry, found]
      rfl
    rw [isDirectory, none]
    simp
  | ok spot =>
    rw [isDirectory, entry_of_spot found]
    simp only [Except.ok.injEq, exists_eq_left']
    cases there : tree.find? spot with
    | none => simp
    | some file =>
      cases file with
      | directory => simp
      | text content => by_cases slash : path.endsWith "/" <;> simp [slash]
      | binary bytes => by_cases slash : path.endsWith "/" <;> simp [slash]

/-- What is a directory stays one where directories are kept. -/
theorem isDirectory_of_keeps (keeps : Keeps before after) (there : before.isDirectory path = true) :
    after.isDirectory path = true := by
  obtain ⟨spot, found, directory⟩ := isDirectory_iff.mp there
  exact isDirectory_iff.mpr ⟨spot, spotOf_of_keeps keeps found, keeps spot directory⟩

/-- What has been made a directory is one. -/
theorem isDirectory_of_makeDirectory (made : tree.makeDirectory path = .ok after) :
    after.isDirectory path = true := by
  have keeps := (grows_makeDirectory made).keeps
  obtain ⟨spot, found, free, rfl⟩ := makeDirectory_eq_ok made
  have inner : spot ≠ [] := by
    intro root
    rw [root, find?_root] at free
    cases free
  exact isDirectory_iff.mpr ⟨spot, spotOf_of_keeps keeps found, find?_insert_self tree inner _⟩

/-- A directory that is there is not made again. -/
theorem makeDirectory_of_isDirectory (there : tree.isDirectory path = true) :
    tree.makeDirectory path = .error .alreadyThere := by
  obtain ⟨spot, found, directory⟩ := isDirectory_iff.mp there
  have some : (tree.find? spot).isSome = true := by
    rw [directory]
    rfl
  rw [makeDirectory_of_spot found, if_pos some]

/-- A request to make a directory goes as the making in the tree does. -/
theorem makeDirectory_run (path : String) (tree : FileTree) :
    (Files.makeDirectory path : StateM FileTree _) tree =
      match tree.makeDirectory path with
      | .ok changed => (.ok (), changed)
      | .error error => (.error error, tree) :=
  rfl

/-- A request about a directory changes nothing. -/
theorem isDirectory_run (path : String) (tree : FileTree) :
    (Files.isDirectory path : StateM FileTree _) tree = (tree.isDirectory path, tree) :=
  rfl

/-- Directories that have been made one after another are there at the end. -/
theorem isDirectory_of_makeEach {paths : List String}
    (made : (Files.makeEach paths : StateM FileTree _) tree = (.ok (), after)) :
    ∀ path ∈ paths, after.isDirectory path = true := by
  induction paths generalizing tree with
  | nil => exact List.forall_mem_nil _
  | cons path paths ih =>
    rw [List.forall_mem_cons]
    rw [Files.makeEach, bind_run, makeDirectory_run] at made
    -- What is there after the first directory is still there at the end.
    have later {now : FileTree} (rest : (Files.makeEach paths : StateM FileTree _) now =
        (.ok (), after)) : Keeps now after := by
      have makes := onlyMakes_makeEach paths now
      rw [rest] at makes
      exact (grows_of_makes makes).keeps
    cases first : tree.makeDirectory path with
    | ok now =>
      rw [first] at made
      exact ⟨isDirectory_of_keeps (later made) (isDirectory_of_makeDirectory first), ih made⟩
    | error error =>
      rw [first] at made
      cases error
      case alreadyThere =>
        change (Files.isDirectory path >>= _ : StateM FileTree _) tree = _ at made
        rw [bind_run, isDirectory_run] at made
        cases there : tree.isDirectory path with
        | true =>
          rw [there] at made
          exact ⟨isDirectory_of_keeps (later made) there, ih made⟩
        | false =>
          rw [there] at made
          cases made
      all_goals cases made

/-- The first directory whose surroundings are there has been made, or it is still to be made. -/
theorem isDirectory_of_makeOutermost {paths missing left : List String}
    (made : (Files.makeOutermost paths missing : StateM FileTree _) tree = (.ok left, after)) :
    (∀ path ∈ missing, path ∈ left) ∧
      ∀ top ∈ paths.head?, after.isDirectory top = true ∨ top ∈ left := by
  induction paths generalizing missing with
  | nil =>
    cases made
    exact ⟨fun _ here => here, fun _ none => by cases none⟩
  | cons path around ih =>
    rw [Files.makeOutermost, bind_run, makeDirectory_run] at made
    cases first : tree.makeDirectory path with
    | ok now =>
      rw [first] at made
      cases made
      refine ⟨fun _ here => here, fun top outer => ?_⟩
      obtain rfl := Option.some.inj outer
      exact .inl (isDirectory_of_makeDirectory first)
    | error error =>
      rw [first] at made
      cases error
      case notFound =>
        obtain ⟨kept, -⟩ := ih made
        rw [List.forall_mem_cons] at kept
        refine ⟨kept.2, fun top outer => ?_⟩
        obtain rfl := Option.some.inj outer
        exact .inr kept.1
      case alreadyThere =>
        change (Files.isDirectory path >>= _ : StateM FileTree _) tree = _ at made
        rw [bind_run, isDirectory_run] at made
        cases there : tree.isDirectory path with
        | true =>
          rw [there] at made
          cases made
          refine ⟨fun _ here => here, fun top outer => ?_⟩
          obtain rfl := Option.some.inj outer
          exact .inl there
        | false =>
          rw [there] at made
          cases made
      all_goals cases made

/-- All directories on a path are made from the outermost one that is missing. -/
theorem makeDirectories_run (path : String) (tree : FileTree) :
    (Files.makeDirectories path : StateM FileTree _) tree =
      match (Files.makeOutermost (Files.ancestors path) [] : StateM FileTree _) tree with
      | (.ok missing, now) => (Files.makeEach missing : StateM FileTree _) now
      | (.error error, now) => (.error error, now) := by
  rw [Files.makeDirectories, bind_run]
  obtain ⟨answer, now⟩ :=
    (Files.makeOutermost (Files.ancestors path) [] : StateM FileTree _) tree
  cases answer <;> rfl

/-- Once a directory has been made with those around it, it is there. -/
theorem isDirectory_of_makeDirectories
    (made : (Files.makeDirectories path : StateM FileTree _) tree = (.ok (), after)) :
    ∀ top ∈ (Files.ancestors path).head?, after.isDirectory top = true := by
  intro top outer
  rw [makeDirectories_run] at made
  cases first : (Files.makeOutermost (Files.ancestors path) [] : StateM FileTree _) tree with
  | mk answer now =>
    rw [first] at made
    cases answer with
    | error error => cases made
    | ok missing =>
      rcases (isDirectory_of_makeOutermost first).2 top outer with there | later
      · have makes := onlyMakes_makeEach missing now
        rw [show ((Files.makeEach missing : StateM FileTree _) now).2 = after from
          congrArg Prod.snd made] at makes
        exact isDirectory_of_keeps (grows_of_makes makes).keeps there
      · exact isDirectory_of_makeEach made top later

/-- Where the whole path is there, nothing is made. -/
theorem makeDirectories_of_isDirectory
    (there : ∀ top ∈ (Files.ancestors path).head?, tree.isDirectory top = true) :
    (Files.makeDirectories path : StateM FileTree _) tree = (.ok (), tree) := by
  rw [makeDirectories_run]
  cases paths : Files.ancestors path with
  | nil => rfl
  | cons top around =>
    have directory : tree.isDirectory top = true := there top (by rw [paths]; rfl)
    have outermost : (Files.makeOutermost (top :: around) [] : StateM FileTree _) tree =
        (.ok [], tree) := by
      rw [Files.makeOutermost, bind_run, makeDirectory_run, makeDirectory_of_isDirectory directory]
      change (Files.isDirectory top >>= _ : StateM FileTree _) tree = _
      rw [bind_run, isDirectory_run, directory]
      rfl
    rw [outermost]
    rfl

/-- A directory that has been made with those around it is there for good. -/
theorem makeDirectories_again
    (made : (Files.makeDirectories path : StateM FileTree _) before = (.ok (), after))
    (keeps : Keeps after now) :
    (Files.makeDirectories path : StateM FileTree _) now = (.ok (), now) :=
  makeDirectories_of_isDirectory fun top outer =>
    isDirectory_of_keeps keeps (isDirectory_of_makeDirectories made top outer)

/-! ## Files one after another -/

/-- Texts that have been written, and that are still held, are written once more without a change.
-/
theorem withTexts_again (wrote : tree.withTexts files = .ok after) (keeps : Keeps after now)
    (held : ∀ file ∈ files, now.read file.1 = .ok file.2) : now.withTexts files = .ok now := by
  induction files generalizing tree with
  | nil => rfl
  | cons file files ih =>
    obtain ⟨made, written, around, first, rest⟩ := (withTexts_cons_eq_ok file.1 file.2).mp wrote
    rw [List.forall_mem_cons] at held
    have later : Keeps made now :=
      fun spot here => keeps spot (keeps_withTexts rest spot (keeps_write first spot here))
    exact (withTexts_cons_eq_ok file.1 file.2).mpr
      ⟨now, now, makeDirectories_again around later, write_of_read held.1, ih rest held.2⟩

end SchemaPress.FileTree
