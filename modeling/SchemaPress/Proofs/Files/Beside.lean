import SchemaPress.Proofs.Files.Passing
import SchemaPress.Proofs.Files.Writing

/-!
# Requests that pass a file by

Two trees of which one holds a file more than the other answer a request alike, unless its path goes
through the place of that file, and they differ in nothing but the file when the request has been
carried out (`Ignores`). This holds of the single requests and is kept when one follows another
(`Ignores.bind`), so it holds of the making of directories too (`ignores_makeDirectories`).
-/

set_option autoImplicit false

namespace SchemaPress.FileTree

open Files (Passes passed step mem_passed_start)

variable {tree other : FileTree} {spot start place : Spot} {file : Entry} {path content : String}
  {parts : List (List Char)}

/-- Says that one tree holds what another one holds, and a file at a place where that one holds
nothing. -/
structure HasBeside (spot : Spot) (file : Entry) (tree other : FileTree) : Prop where
  absent : tree.find? spot = none
  present : other.find? spot = some file
  same : ∀ place, place ≠ spot → other.find? place = tree.find? place

/-- A new entry leads to a tree that has it beside the others. -/
theorem hasBeside_insert (inner : spot ≠ []) (absent : tree.find? spot = none) (file : Entry) :
    HasBeside spot file tree (tree.insert spot file) where
  absent := absent
  present := find?_insert_self tree inner file
  same := fun _ apart => find?_insert_other tree apart file

/-- Entries at other places may be put into both trees. -/
theorem HasBeside.insert (beside : HasBeside spot file tree other) (apart : place ≠ spot)
    (entry : Entry) : HasBeside spot file (tree.insert place entry) (other.insert place entry) where
  absent := (find?_insert_other tree apart.symm entry).trans beside.absent
  present := (find?_insert_other other apart.symm entry).trans beside.present
  same := by
    intro spot' apart'
    by_cases here : spot' = place
    · by_cases root : place = []
      · rw [here, root, find?_root, find?_root]
      · rw [here, find?_insert_self tree root, find?_insert_self other root]
    · rw [find?_insert_other tree here, find?_insert_other other here, beside.same spot' apart']

/-! ## Following a path -/

/-- A part that is empty or a single dot leads nowhere else. -/
theorem step_of_idle {part : List Char} (idle : Files.isIdle part = true) (spot : Spot) :
    step spot part = spot :=
  if_pos idle

/-- Two dots lead up. -/
theorem step_of_up (spot : Spot) : step spot ['.', '.'] = spot.dropLast :=
  rfl

/-- A name leads down. -/
theorem step_of_name {part : List Char} (name : Files.isIdle part = false)
    (inner : part ≠ ['.', '.']) (spot : Spot) : step spot part = spot ++ [part] := by
  rw [step, name, if_neg Bool.false_ne_true, if_neg inner]

/-- What a path leads to is one of the places that it goes through. -/
theorem Leads.mem_passed (leads : Leads tree start parts place) : place ∈ passed start parts := by
  induction leads with
  | ends spot => exact List.mem_singleton_self _
  | idle idle _ ih =>
    rw [passed, step_of_idle idle]
    exact List.mem_cons_of_mem _ ih
  | up _ ih => exact List.mem_cons_of_mem _ ih
  | down name inner _ _ _ ih =>
    rw [passed, step_of_name name inner]
    exact List.mem_cons_of_mem _ ih
  | last name inner _ _ =>
    rw [passed, step_of_name name inner]
    exact List.mem_cons_of_mem _ (mem_passed_start _ _)

/-- Parts that pass a file by lead where they led without it. -/
theorem follow_of_hasBeside (beside : HasBeside spot file tree other)
    (avoids : spot ∉ passed start parts) : other.follow start parts = tree.follow start parts := by
  induction parts generalizing start with
  | nil => rfl
  | cons part parts ih =>
    rw [passed, List.mem_cons, not_or] at avoids
    -- Only a name looks anything up: the place that it leads to, which is not that of the file.
    have further := ih avoids.2
    by_cases idle : Files.isIdle part = true
    · rw [step_of_idle idle] at further
      rw [follow, if_pos idle, further, follow, if_pos idle]
    by_cases up : part = ['.', '.']
    · rw [up, step_of_up] at further
      rw [follow, if_neg idle, if_pos up, further, follow, if_neg idle, if_pos up]
    have name : Files.isIdle part = false := Bool.eq_false_iff.mpr idle
    have apart : start ++ [part] ≠ spot := by
      intro here
      rw [step_of_name name up, here] at avoids
      exact avoids.2 (mem_passed_start _ _)
    rw [step_of_name name up] at further
    rw [follow_cons_name _ _ _ name up, follow_cons_name _ _ _ name up, beside.same _ apart,
      further]

/-- So does a path. -/
theorem spotOf_of_hasBeside (beside : HasBeside spot file tree other)
    (avoids : spot ∉ passed [] parts) : other.spotOf path parts = tree.spotOf path parts := by
  unfold spotOf
  rw [follow_of_hasBeside beside avoids]

/-- A path that passes a file by does not lead to it. -/
theorem ne_of_spotOf (avoids : spot ∉ passed [] parts)
    (found : tree.spotOf path parts = .ok place) : place ≠ spot := by
  rintro rfl
  exact avoids (leads_of_spotOf found).mem_passed

/-- What is found at a path that passes a file by is what was found without it. -/
theorem entry_of_hasBeside (beside : HasBeside spot file tree other)
    (avoids : ¬ Passes path spot) : other.entry path = tree.entry path := by
  have places : other.spot path = tree.spot path := spotOf_of_hasBeside beside avoids
  cases found : tree.spot path with
  | error error =>
    rw [entry, entry, places, found]
    rfl
  | ok place =>
    rw [entry_of_spot (places.trans found), entry_of_spot found,
      beside.same place (ne_of_spotOf avoids found)]

/-! ## Actions that pass a file by -/

/-- Says that an action gives the same on two trees of which one has a file beside the entries of
the other, and leaves two such trees. -/
def Ignores {α : Type} (spot : Spot) (file : Entry) (action : StateM FileTree α) : Prop :=
  ∀ tree other, HasBeside spot file tree other →
    (action other).1 = (action tree).1 ∧ HasBeside spot file (action tree).2 (action other).2

/-- To do nothing ignores every file. -/
theorem ignores_pure {α : Type} (value : α) : Ignores spot file (pure value) :=
  fun _ _ beside => ⟨rfl, beside⟩

/-- Two actions that ignore a file ignore it together. -/
theorem Ignores.bind {α β : Type} {action : StateM FileTree α} {next : α → StateM FileTree β}
    (first : Ignores spot file action)
    (further : ∀ tree, Ignores spot file (next (action tree).1)) :
    Ignores spot file (action >>= next) := by
  intro tree other beside
  obtain ⟨same, beside⟩ := first tree other beside
  rw [bind_run, bind_run, same]
  exact further tree _ _ beside

/-- Reading ignores a file that its path passes by. -/
theorem ignores_read (avoids : ¬ Passes path spot) :
    Ignores spot file (Files.read path : StateM FileTree _) := by
  intro tree other beside
  refine ⟨?_, beside⟩
  change other.read path = tree.read path
  rw [read, read, entry_of_hasBeside beside avoids]

/-- So does asking for a directory. -/
theorem ignores_isDirectory (avoids : ¬ Passes path spot) :
    Ignores spot file (Files.isDirectory path : StateM FileTree _) := by
  intro tree other beside
  refine ⟨?_, beside⟩
  change other.isDirectory path = tree.isDirectory path
  rw [isDirectory, isDirectory, entry_of_hasBeside beside avoids]

/-- A change that is refused for the same reason, or made in both trees, passes the file by. -/
theorem ignores_update {change : FileTree → Except FileError FileTree}
    (alike : ∀ tree other, HasBeside spot file tree other →
      (∃ error, change tree = .error error ∧ change other = .error error) ∨
      ∃ after after', change tree = .ok after ∧ change other = .ok after' ∧
        HasBeside spot file after after') : Ignores spot file (update change) := by
  intro tree other beside
  rw [update, update]
  rcases alike tree other beside with ⟨error, here, there⟩ | ⟨after, after', here, there, still⟩
  · rw [here, there]
    exact ⟨rfl, beside⟩
  · rw [here, there]
    exact ⟨rfl, still⟩

/-- So does writing. -/
theorem ignores_write (avoids : ¬ Passes path spot) (content : String) :
    Ignores spot file (Files.write path content : StateM FileTree _) := by
  have avoids : spot ∉ passed [] (Files.fileParts path) :=
    fun passes => avoids (Files.passed_fileParts path passes)
  refine ignores_update fun tree other beside => ?_
  have places : other.spotOf path (Files.fileParts path) =
      tree.spotOf path (Files.fileParts path) := spotOf_of_hasBeside beside avoids
  cases found : tree.spotOf path (Files.fileParts path) with
  | error error =>
    left
    exact ⟨error, by rw [write, found]; rfl, by rw [write, places, found]; rfl⟩
  | ok place =>
    have apart := ne_of_spotOf avoids found
    rw [write_of_spotOf found, write_of_spotOf (places.trans found), beside.same place apart]
    by_cases directory : tree.find? place == some .directory
    · rw [if_pos directory, if_pos directory]
      exact .inl ⟨_, rfl, rfl⟩
    · rw [if_neg directory, if_neg directory]
      exact .inr ⟨_, _, rfl, rfl, beside.insert apart _⟩

/-- So does the making of a directory. -/
theorem ignores_makeDirectory (avoids : ¬ Passes path spot) :
    Ignores spot file (Files.makeDirectory path : StateM FileTree _) := by
  refine ignores_update fun tree other beside => ?_
  have places : other.spot path = tree.spot path := spotOf_of_hasBeside beside avoids
  cases found : tree.spot path with
  | error error =>
    left
    exact ⟨error, by rw [makeDirectory, found]; rfl, by rw [makeDirectory, places, found]; rfl⟩
  | ok place =>
    have apart := ne_of_spotOf avoids found
    rw [makeDirectory_of_spot found, makeDirectory_of_spot (places.trans found),
      beside.same place apart]
    by_cases there : (tree.find? place).isSome
    · rw [if_pos there, if_pos there]
      exact .inl ⟨_, rfl, rfl⟩
    · rw [if_neg there, if_neg there]
      exact .inr ⟨_, _, rfl, rfl, beside.insert apart _⟩

/-! ## Making directories -/

/-- What follows the making of the first directory need only pass the file by where it goes on with
directories that do. -/
theorem Ignores.makeOutermost {α : Type} {paths missing : List String}
    {next : Except FileError (List String) → StateM FileTree α}
    (avoids : ∀ path ∈ paths, ¬ Passes path spot) (later : ∀ path ∈ missing, ¬ Passes path spot)
    (further : ∀ left, (∀ path ∈ left, ¬ Passes path spot) → Ignores spot file (next (.ok left)))
    (refused : ∀ error, Ignores spot file (next (.error error))) :
    Ignores spot file ((Files.makeOutermost paths missing : StateM FileTree _) >>= next) := by
  induction paths generalizing missing with
  | nil => exact further missing later
  | cons path around ih =>
    rw [List.forall_mem_cons] at avoids
    -- `Ignores.bind` forgets where an answer comes from, so what is left to be made is followed to
    -- `next` step by step.
    rw [Files.makeOutermost, bind_assoc]
    refine (ignores_makeDirectory avoids.1).bind fun tree => ?_
    cases ((Files.makeDirectory path : StateM FileTree _) tree).1 with
    | ok done => exact further missing later
    | error error =>
      cases error
      case notFound => exact ih avoids.2 (List.forall_mem_cons.mpr ⟨avoids.1, later⟩)
      case alreadyThere =>
        dsimp only
        rw [bind_assoc]
        refine (ignores_isDirectory avoids.1).bind fun tree => ?_
        cases ((Files.isDirectory path : StateM FileTree _) tree).1 with
        | true => exact further missing later
        | false => exact refused .alreadyThere
      all_goals exact refused _

/-- So does the making of one directory after another. -/
theorem ignores_makeEach {paths : List String} (avoids : ∀ path ∈ paths, ¬ Passes path spot) :
    Ignores spot file (Files.makeEach paths : StateM FileTree _) := by
  induction paths with
  | nil => exact ignores_pure _
  | cons path paths ih =>
    rw [List.forall_mem_cons] at avoids
    rw [Files.makeEach]
    refine (ignores_makeDirectory avoids.1).bind fun tree => ?_
    cases ((Files.makeDirectory path : StateM FileTree _) tree).1 with
    | ok done => exact ih avoids.2
    | error error =>
      cases error
      case alreadyThere =>
        refine (ignores_isDirectory avoids.1).bind fun tree => ?_
        cases ((Files.isDirectory path : StateM FileTree _) tree).1 with
        | true => exact ih avoids.2
        | false => exact ignores_pure _
      all_goals exact ignores_pure _

/-- So does the making of all directories on a path. -/
theorem ignores_makeDirectories (avoids : ¬ Passes path spot) :
    Ignores spot file (Files.makeDirectories path : StateM FileTree _) :=
  Ignores.makeOutermost
    (fun _ above passes => avoids (Files.passes_of_mem_ancestors above passes))
    (List.forall_mem_nil _) (fun _ left => ignores_makeEach left) fun _ => ignores_pure _

end SchemaPress.FileTree
