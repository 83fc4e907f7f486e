import Mathlib.Logic.Relation
import SchemaPress.Proofs.Files.Following
import SchemaPress.Proofs.Files.Paths

/-!
# What is read after writing

A text that has been written into a file is read back from it (`read_write`), directories that are
made take nothing away (`adds_makeDirectories`), and a file is not touched when one of another name
is written (`read_write_other`). So when several files of different names are written one after
another, each of them holds its text at the end (`read_withTexts`).
-/

set_option autoImplicit false

namespace SchemaPress.FileTree

variable {before after tree : FileTree} {path other content text : String}

/-! ## Places of paths -/

/-- The spot of a path is where its parts lead from the root. -/
theorem leads_of_spotOf {parts : List (List Char)} {spot : Spot}
    (found : tree.spotOf path parts = .ok spot) : Leads tree [] parts spot := by
  unfold spotOf at found
  split at found
  · cases found
  · split at found
    · cases found
    · split at found
      · cases found
      · exact leads_of_follow found

/-- A path still leads to its spot after a change that keeps the directories. -/
theorem spotOf_of_keeps (keeps : Keeps before after) {parts : List (List Char)} {spot : Spot}
    (found : before.spotOf path parts = .ok spot) : after.spotOf path parts = .ok spot := by
  have leads := leads_of_spotOf found
  rw [← found]
  unfold spotOf
  rw [(leads.of_keeps keeps).follow, leads.follow]

/-- The spot of a path that names something ends in that name. -/
theorem spot_name {name : List Char} {spot : Spot}
    (named : Files.IsNamed path name) (found : tree.spot path = .ok spot) :
    ∃ around, spot = around ++ [name] := by
  obtain ⟨⟨front, split⟩, proper, inner⟩ := named
  have leads := leads_of_spotOf found
  rw [split] at leads
  exact leads.place_of_name proper inner

/-! ## Reading and writing -/

/-- What is found at a path is what stands at its spot; behind a slash a directory is due. -/
theorem entry_of_spot {spot : Spot} (found : tree.spot path = .ok spot) :
    tree.entry path =
      match tree.find? spot with
      | none => .error .notFound
      | some .directory => .ok .directory
      | some file => if path.endsWith "/" then .error .notADirectory else .ok file := by
  rw [entry, found]
  rfl

/-- A file is found at a path that leads to it without a slash at its end. -/
theorem entry_eq_text_iff :
    tree.entry path = .ok (.text content) ↔
      ∃ spot, tree.spot path = .ok spot ∧ tree.find? spot = some (.text content) ∧
        path.endsWith "/" = false := by
  constructor
  · intro here
    cases found : tree.spot path with
    | error error =>
      rw [entry, found] at here
      cases here
    | ok spot =>
      rw [entry_of_spot found] at here
      split at here
      · cases here
      · cases here
      · split at here
        · cases here
        · rename_i file same slash
          rw [Except.ok.inj here] at same
          exact ⟨spot, rfl, same, Bool.eq_false_iff.mpr slash⟩
  · rintro ⟨spot, found, same, slash⟩
    rw [entry_of_spot found, same, slash]
    rfl

/-- A path is read where it leads to a text without a slash at its end. -/
theorem read_eq_ok_iff :
    tree.read path = .ok content ↔
      ∃ spot, tree.spot path = .ok spot ∧ tree.find? spot = some (.text content) ∧
        path.endsWith "/" = false := by
  rw [← entry_eq_text_iff, read]
  cases tree.entry path with
  | error error =>
    constructor <;> intro here <;> cases here
  | ok file =>
    cases file with
    | directory =>
      constructor <;> intro here <;> cases here
    | text text =>
      constructor <;> intro here <;> cases here <;> rfl
    | binary bytes =>
      constructor <;> intro here <;> cases here

/-- What can be read is there. -/
theorem isThere_of_read (read : tree.read path = .ok content) : tree.isThere path = true := by
  rw [isThere, entry_eq_text_iff.mpr (read_eq_ok_iff.mp read)]
  rfl

/-- The empty path leads nowhere. -/
theorem path_ne_empty_of_spot {spot : Spot} (found : tree.spot path = .ok spot) : path ≠ "" := by
  rintro rfl
  cases found

/-- A path at which a text is read ends in the name of the place of the text. -/
theorem isNamed_of_read (here : tree.read path = .ok content) :
    ∃ around name, tree.spot path = .ok (around ++ [name]) ∧ Files.IsNamed path name := by
  obtain ⟨spot, found, entry, slash⟩ := read_eq_ok_iff.mp here
  have file : tree.find? spot ≠ some .directory := by
    rw [entry]
    simp
  obtain ⟨front, last, whole, some⟩ :=
    Files.exists_parts_eq_append (path_ne_empty_of_spot found) slash
  rcases (leads_of_spotOf found).exists_name tree.reached_root file with
    empty | ⟨front, name, around, split, proper, inner, rfl⟩
  · rw [whole, List.getLast?_concat] at empty
    exact absurd (Option.some.inj empty) some
  · exact ⟨around, name, found, ⟨front, split⟩, proper, inner⟩

/-- A text is written to the spot of a file's parts, unless a directory stands there. -/
theorem write_of_spotOf {spot : Spot}
    (found : tree.spotOf path (Files.fileParts path) = .ok spot) :
    tree.write path content =
      if tree.find? spot == some .directory then .error .isADirectory
      else .ok (tree.insert spot (.text content)) := by
  rw [write, found]
  change (if _ then _ else _) = _
  split <;> rfl

/-- A request to write goes as the writing of the tree does. -/
theorem write_run (written : tree.write path content = .ok after) :
    (Files.write path content : StateM FileTree _) tree = (.ok (), after) := by
  change update (·.write path content) tree = _
  rw [update, written]

/-- A request to write that is refused changes nothing. -/
theorem write_run_error {error : FileError} (refused : tree.write path content = .error error) :
    (Files.write path content : StateM FileTree _) tree = (.error error, tree) := by
  change update (·.write path content) tree = _
  rw [update, refused]

/-- What is written stands at the spot of its path, where no directory has been. -/
theorem write_eq_ok (written : tree.write path content = .ok after) :
    ∃ spot, tree.spot path = .ok spot ∧ path.endsWith "/" = false ∧ spot ≠ [] ∧
      tree.find? spot ≠ some .directory ∧ after = tree.insert spot (.text content) := by
  cases found : tree.spotOf path (Files.fileParts path) with
  | error error =>
    rw [write, found] at written
    cases written
  | ok spot =>
    rw [write_of_spotOf found] at written
    by_cases directory : tree.find? spot = some .directory
    · rw [if_pos (beq_iff_eq.mpr directory)] at written
      cases written
    · rw [if_neg (mt beq_iff_eq.mp directory)] at written
      have inner : spot ≠ [] := by
        intro root
        rw [root, find?_root] at directory
        exact directory rfl
      rcases Files.fileParts_cases path with ⟨whole, slash⟩ | ⟨front, idle, -⟩
      · rw [whole] at found
        exact ⟨spot, found, slash, inner, directory, (Except.ok.inj written).symm⟩
      · have leads := leads_of_spotOf found
        rw [idle] at leads
        exact absurd (leads.directory_of_idle_end tree.reached_root) directory

/-- What has been written is read. -/
theorem read_write (written : tree.write path content = .ok after) :
    after.read path = .ok content := by
  obtain ⟨spot, found, slash, inner, file, rfl⟩ := write_eq_ok written
  refine read_eq_ok_iff.mpr ⟨spot, ?_, find?_insert_self tree inner _, slash⟩
  exact spotOf_of_keeps (keeps_insert file _) found

/-- To write a text keeps the directories. -/
theorem keeps_write (written : tree.write path content = .ok after) : Keeps tree after := by
  obtain ⟨spot, -, -, -, file, rfl⟩ := write_eq_ok written
  exact keeps_insert file _

/-- What can be read can still be read in a tree that has grown. -/
theorem read_of_grows (grows : Grows before after) (here : before.read path = .ok content) :
    after.read path = .ok content := by
  obtain ⟨spot, found, entry, slash⟩ := read_eq_ok_iff.mp here
  exact read_eq_ok_iff.mpr
    ⟨spot, spotOf_of_keeps grows.keeps found, grows spot _ entry, slash⟩

/-- To write to a path leaves what is read at a path apart from it. -/
theorem read_write_other (apart : Files.IsApart path other) (here : tree.read path = .ok text)
    (written : tree.write other content = .ok after) : after.read path = .ok text := by
  obtain ⟨name, name', named, named', differ⟩ := apart
  obtain ⟨spot, found, entry, slash⟩ := read_eq_ok_iff.mp here
  obtain ⟨spot', found', -, -, file, rfl⟩ := write_eq_ok written
  obtain ⟨around, rfl⟩ := spot_name named found
  obtain ⟨around', rfl⟩ := spot_name named' found'
  have elsewhere : around ++ [name] ≠ around' ++ [name'] := by
    intro same
    exact differ (List.cons_eq_cons.mp (List.append_inj' same rfl).2).1
  refine read_eq_ok_iff.mpr ⟨_, spotOf_of_keeps (keeps_insert file _) found, ?_, slash⟩
  rw [find?_insert_other tree elsewhere]
  exact entry

/-! ## Making directories -/

/-- A directory is made at the spot of its path, unless something stands there. -/
theorem makeDirectory_of_spot {spot : Spot} (found : tree.spot path = .ok spot) :
    tree.makeDirectory path =
      if (tree.find? spot).isSome then .error .alreadyThere
      else .ok (tree.insert spot .directory) := by
  rw [makeDirectory, found]
  change (if _ then _ else _) = _
  split <;> rfl

/-- A directory that is made is new, and it stands at the spot of its path. -/
theorem makeDirectory_eq_ok (made : tree.makeDirectory path = .ok after) :
    ∃ spot, tree.spot path = .ok spot ∧ tree.find? spot = none ∧
      after = tree.insert spot .directory := by
  cases found : tree.spot path with
  | error error =>
    rw [makeDirectory, found] at made
    cases made
  | ok spot =>
    rw [makeDirectory_of_spot found] at made
    by_cases there : (tree.find? spot).isSome = true
    · rw [if_pos there] at made
      cases made
    · rw [if_neg there] at made
      exact ⟨spot, rfl, Option.not_isSome_iff_eq_none.mp there, (Except.ok.inj made).symm⟩

/-- A tree grows by a directory. -/
theorem grows_makeDirectory (made : tree.makeDirectory path = .ok after) : Grows tree after := by
  obtain ⟨spot, -, free, rfl⟩ := makeDirectory_eq_ok made
  exact grows_insert free .directory

/-- One action behind another begins in the tree that the first one leaves. -/
theorem bind_run {α β : Type} (action : StateM FileTree α) (next : α → StateM FileTree β)
    (tree : FileTree) : (action >>= next) tree = next (action tree).1 (action tree).2 :=
  rfl

/-- Says that a tree comes from another one by making one directory. -/
def MakesDirectory (before after : FileTree) : Prop :=
  ∃ path, before.makeDirectory path = .ok after

/-- Says that an action does nothing to a tree but make directories. -/
def OnlyMakes {α : Type} (action : StateM FileTree α) : Prop :=
  ∀ tree, Relation.ReflTransGen MakesDirectory tree (action tree).2

/-- To do nothing makes no directory. -/
theorem onlyMakes_pure {α : Type} (value : α) : OnlyMakes (pure value) :=
  fun _ => .refl

/-- Two actions that only make directories only make directories together. -/
theorem OnlyMakes.bind {α β : Type} {action : StateM FileTree α} {next : α → StateM FileTree β}
    (first : OnlyMakes action) (further : ∀ value, OnlyMakes (next value)) :
    OnlyMakes (action >>= next) :=
  fun tree => (first tree).trans (further (action tree).1 (action tree).2)

/-- To ask for a directory makes none. -/
theorem onlyMakes_isDirectory (path : String) :
    OnlyMakes (Files.isDirectory path : StateM FileTree Bool) :=
  fun _ => .refl

/-- To make a directory makes that one, or none. -/
theorem onlyMakes_makeDirectory (path : String) :
    OnlyMakes (Files.makeDirectory path : StateM FileTree _) := by
  intro tree
  change Relation.ReflTransGen MakesDirectory tree (update (·.makeDirectory path) tree).2
  rw [update]
  cases made : tree.makeDirectory path with
  | ok after => exact .single ⟨path, made⟩
  | error error => exact .refl

/-- The search for the outermost directory that is missing only makes directories. -/
theorem onlyMakes_makeOutermost (paths missing : List String) :
    OnlyMakes (Files.makeOutermost paths missing : StateM FileTree _) := by
  induction paths generalizing missing with
  | nil => exact onlyMakes_pure _
  | cons path around ih =>
    rw [Files.makeOutermost]
    refine (onlyMakes_makeDirectory path).bind fun answer => ?_
    cases answer with
    | ok done => exact onlyMakes_pure _
    | error error =>
      cases error
      case notFound => exact ih (path :: missing)
      case alreadyThere => exact (onlyMakes_isDirectory path).bind fun there => onlyMakes_pure _
      all_goals exact onlyMakes_pure _

/-- So does the making of one directory after another. -/
theorem onlyMakes_makeEach (paths : List String) :
    OnlyMakes (Files.makeEach paths : StateM FileTree _) := by
  induction paths with
  | nil => exact onlyMakes_pure _
  | cons path paths ih =>
    rw [Files.makeEach]
    refine (onlyMakes_makeDirectory path).bind fun answer => ?_
    cases answer with
    | ok done => exact ih
    | error error =>
      cases error
      case alreadyThere =>
        refine (onlyMakes_isDirectory path).bind fun there => ?_
        cases there with
        | true => exact ih
        | false => exact onlyMakes_pure _
      all_goals exact onlyMakes_pure _

/-- So does the making of all directories on a path. -/
theorem onlyMakes_makeDirectories (path : String) :
    OnlyMakes (Files.makeDirectories path : StateM FileTree _) := by
  refine (onlyMakes_makeOutermost (Files.ancestors path) []).bind fun answer => ?_
  cases answer with
  | ok missing => exact onlyMakes_makeEach missing
  | error error => exact onlyMakes_pure _

/-- Says that an action takes nothing away from a tree. -/
def Adds {α : Type} (action : StateM FileTree α) : Prop :=
  ∀ tree, Grows tree (action tree).2

/-- A tree grows by any number of directories. -/
theorem grows_of_makes (makes : Relation.ReflTransGen MakesDirectory before after) :
    Grows before after := by
  induction makes with
  | refl => exact Grows.refl before
  | tail _ step ih =>
    obtain ⟨path, made⟩ := step
    exact ih.trans (grows_makeDirectory made)

/-- The making of all directories on a path only adds to a tree. -/
theorem adds_makeDirectories (path : String) :
    Adds (Files.makeDirectories path : StateM FileTree _) :=
  fun tree => grows_of_makes (onlyMakes_makeDirectories path tree)

/-- A tree grows by it, whether it succeeds or not. -/
theorem grows_of_makeDirectories {answer : Except FileError Unit}
    (made : (Files.makeDirectories path : StateM FileTree _) tree = (answer, after)) :
    Grows tree after := by
  have grows := adds_makeDirectories path tree
  rw [made] at grows
  exact grows

/-! ## Files one after another -/

variable {files : List (String × String)}

/-- Puts texts into files, one after another, each time with the directories around the file. -/
def withTexts : List (String × String) → FileTree → Except FileError FileTree
  | [], tree => .ok tree
  | (path, text) :: files, tree =>
    match (Files.makeDirectories ((Files.parent? path).getD "") : StateM FileTree _) tree with
    | (.error error, _) => .error error
    | (.ok (), made) => made.write path text >>= withTexts files

/-- Files are written one after another, each behind the directories around it. -/
theorem withTexts_cons_eq_ok (path text : String) :
    tree.withTexts ((path, text) :: files) = .ok after ↔
      ∃ made written,
        (Files.makeDirectories ((Files.parent? path).getD "") : StateM FileTree _) tree =
          (.ok (), made) ∧
        made.write path text = .ok written ∧ written.withTexts files = .ok after := by
  rw [withTexts]
  obtain ⟨answer, made⟩ :=
    (Files.makeDirectories ((Files.parent? path).getD "") : StateM FileTree _) tree
  cases answer with
  | error error =>
    constructor
    · intro here
      cases here
    · rintro ⟨made, written, here, -⟩
      cases here
  | ok done =>
    change (made.write path text >>= withTexts files) = .ok after ↔ _
    cases wrote : made.write path text with
    | error error =>
      constructor
      · intro here
        cases here
      · rintro ⟨made, written, here, further, -⟩
        cases here
        rw [wrote] at further
        cases further
    | ok written =>
      constructor
      · intro here
        exact ⟨made, written, rfl, wrote, here⟩
      · rintro ⟨made, written, here, further, rest⟩
        cases here
        rw [wrote] at further
        cases further
        exact rest

/-- To write some files keeps the directories. -/
theorem keeps_withTexts (wrote : tree.withTexts files = .ok after) : Keeps tree after := by
  induction files generalizing tree with
  | nil =>
    rw [← Except.ok.inj wrote]
    exact fun _ here => here
  | cons file files ih =>
    obtain ⟨made, written, around, first, rest⟩ := (withTexts_cons_eq_ok file.1 file.2).mp wrote
    intro spot here
    have stays := (grows_of_makeDirectories around).keeps spot here
    exact ih rest spot (keeps_write first spot stays)

/-- To write some files leaves what is read at a path apart from all of them. -/
theorem read_withTexts_other (wrote : tree.withTexts files = .ok after)
    (apart : ∀ file ∈ files, Files.IsApart path file.1) (here : tree.read path = .ok text) :
    after.read path = .ok text := by
  induction files generalizing tree with
  | nil =>
    rw [← Except.ok.inj wrote]
    exact here
  | cons file files ih =>
    obtain ⟨made, written, around, first, rest⟩ := (withTexts_cons_eq_ok file.1 file.2).mp wrote
    rw [List.forall_mem_cons] at apart
    have held : made.read path = .ok text := read_of_grows (grows_of_makeDirectories around) here
    exact ih rest apart.2 (read_write_other apart.1 held first)

/-- What has been written to files apart from each other is read from each of them. -/
theorem read_withTexts (wrote : tree.withTexts files = .ok after)
    (apart : files.Pairwise fun file other => Files.IsApart file.1 other.1) :
    ∀ file ∈ files, after.read file.1 = .ok file.2 := by
  induction files generalizing tree with
  | nil => exact List.forall_mem_nil _
  | cons file files ih =>
    obtain ⟨made, written, -, first, rest⟩ := (withTexts_cons_eq_ok file.1 file.2).mp wrote
    obtain ⟨here, further⟩ := List.pairwise_cons.mp apart
    rw [List.forall_mem_cons]
    exact ⟨read_withTexts_other rest here (read_write first), ih rest further⟩

end SchemaPress.FileTree
