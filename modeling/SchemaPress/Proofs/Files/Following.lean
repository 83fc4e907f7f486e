import SchemaPress.Files.Tree
import SchemaPress.Proofs.Text.Cutting

/-!
# Where paths lead while a tree changes

A path leads from place to place, part by part (`Leads`), and only through directories. So it leads
to the same place as long as all directories stay (`Leads.of_keeps`). The place of a path that ends
in a name ends in that name (`Leads.place_of_name`), and what a path to an idle part leads to is a
directory (`Leads.directory_of_idle_end`).
-/

set_option autoImplicit false

namespace SchemaPress.FileTree

/-! ## Entries -/

/-- A place is looked up in the first entry and then in the others. -/
theorem lookup_cons_eq_ite (spot other : Spot) (entry : Entry) (entries : List (Spot × Entry)) :
    ((spot, entry) :: entries).lookup other =
      if other = spot then some entry else entries.lookup other := by
  rw [List.lookup_cons]
  by_cases same : other = spot
  · rw [if_pos same, beq_iff_eq.mpr same]
  · rw [if_neg same, beq_false_of_ne same]

/-- An entry that replaces another one is found at its place, and elsewhere is found what was. -/
theorem lookup_replaced (spot other : Spot) (entry : Entry) (entries : List (Spot × Entry)) :
    (replaced spot entry entries).lookup other =
      if other = spot then some entry else entries.lookup other := by
  induction entries with
  | nil => exact lookup_cons_eq_ite spot other entry []
  | cons pair entries ih =>
    obtain ⟨place, old⟩ := pair
    unfold replaced
    by_cases here : place = spot
    · rw [if_pos here, here, lookup_cons_eq_ite, lookup_cons_eq_ite]
      by_cases same : other = spot
      · rw [if_pos same, if_pos same]
      · rw [if_neg same, if_neg same, if_neg same]
    · rw [if_neg here, lookup_cons_eq_ite, lookup_cons_eq_ite, ih]
      by_cases this : other = place
      · have apart : other ≠ spot := this ▸ here
        rw [if_pos this, if_pos this, if_neg apart]
      · rw [if_neg this, if_neg this]

/-- The root is a directory. -/
theorem find?_root (tree : FileTree) : tree.find? [] = some .directory :=
  rfl

/-- What is put somewhere is found there. -/
theorem find?_insert_self (tree : FileTree) {spot : Spot} (inner : spot ≠ []) (entry : Entry) :
    (tree.insert spot entry).find? spot = some entry := by
  have some : ¬ spot.isEmpty = true := fun empty => inner (List.isEmpty_iff.mp empty)
  rw [find?, if_neg some, insert, lookup_replaced, if_pos rfl]

/-- Elsewhere is found what was. -/
theorem find?_insert_other (tree : FileTree) {spot other : Spot} (apart : other ≠ spot)
    (entry : Entry) : (tree.insert spot entry).find? other = tree.find? other := by
  unfold find? insert
  rw [lookup_replaced, if_neg apart]

/-- Says that all directories of one tree are directories of another one. -/
def Keeps (before after : FileTree) : Prop :=
  ∀ spot, before.find? spot = some .directory → after.find? spot = some .directory

/-- Says that whatever one tree holds is held by another one at the same place. -/
def Grows (before after : FileTree) : Prop :=
  ∀ spot entry, before.find? spot = some entry → after.find? spot = some entry

/-- A tree has grown from itself. -/
theorem Grows.refl (tree : FileTree) : Grows tree tree :=
  fun _ _ here => here

/-- Growing goes on. -/
theorem Grows.trans {first second third : FileTree} (there : Grows first second)
    (further : Grows second third) : Grows first third :=
  fun spot entry here => further spot entry (there spot entry here)

/-- What grows keeps its directories. -/
theorem Grows.keeps {before after : FileTree} (grows : Grows before after) : Keeps before after :=
  fun spot here => grows spot .directory here

/-- A tree grows by what is put where nothing was. -/
theorem grows_insert {tree : FileTree} {spot : Spot} (free : tree.find? spot = none)
    (entry : Entry) : Grows tree (tree.insert spot entry) := by
  intro other old here
  have apart : other ≠ spot := by
    intro same
    rw [same, free] at here
    cases here
  rw [find?_insert_other tree apart]
  exact here

/-- A tree keeps its directories if none of them is replaced. -/
theorem keeps_insert {tree : FileTree} {spot : Spot} (file : tree.find? spot ≠ some .directory)
    (entry : Entry) : Keeps tree (tree.insert spot entry) := by
  intro other here
  have apart : other ≠ spot := by
    intro same
    rw [same] at here
    exact file here
  rw [find?_insert_other tree apart]
  exact here

/-! ## Following a path -/

/-- Empty parts lead nowhere else. -/
theorem follow_idle (tree : FileTree) (spot : Spot) {parts : List (List Char)}
    (idle : parts.all List.isEmpty = true) : tree.follow spot parts = .ok spot := by
  induction parts with
  | nil => rfl
  | cons part parts ih =>
    rw [List.all_cons, Bool.and_eq_true] at idle
    have leads : Files.isIdle part = true := by
      rw [Files.isIdle, idle.1]
      rfl
    rw [follow, if_pos leads, ih idle.2]

/-- A proper name leads from a directory to a place inside it. -/
theorem follow_cons_name (tree : FileTree) (spot : Spot) {part : List Char}
    (parts : List (List Char)) (name : Files.isIdle part = false) (inner : part ≠ ['.', '.']) :
    tree.follow spot (part :: parts) =
      if (String.ofList part).utf8ByteSize > maxName then .error .nameTooLong
      else if tree.find? (spot ++ [part]) = some .directory then tree.follow (spot ++ [part]) parts
      else if parts.all List.isEmpty then .ok (spot ++ [part])
      else .error (if (tree.find? (spot ++ [part])).isSome then .notADirectory else .notFound) := by
  have leads : ¬ Files.isIdle part = true := by
    rw [name]
    exact Bool.false_ne_true
  rw [follow, if_neg leads, if_neg inner]
  by_cases long : (String.ofList part).utf8ByteSize > maxName
  · rw [if_pos long, if_pos long]
  · rw [if_neg long, if_neg long]
    cases found : tree.find? (spot ++ [part]) with
    | none => by_cases last : parts.all List.isEmpty <;> simp [found, last]
    | some entry =>
      cases entry with
      | directory => simp [found]
      | text content => by_cases last : parts.all List.isEmpty <;> simp [found, last]
      | binary bytes => by_cases last : parts.all List.isEmpty <;> simp [found, last]

/-- Says that a path leads from one place to another one, part by part. -/
inductive Leads (tree : FileTree) : Spot → List (List Char) → Spot → Prop
  | ends (spot : Spot) : Leads tree spot [] spot
  | idle {spot place : Spot} {part : List Char} {parts : List (List Char)}
      (idle : Files.isIdle part = true) (rest : Leads tree spot parts place) :
      Leads tree spot (part :: parts) place
  | up {spot place : Spot} {parts : List (List Char)}
      (rest : Leads tree spot.dropLast parts place) :
      Leads tree spot (['.', '.'] :: parts) place
  | down {spot place : Spot} {part : List Char} {parts : List (List Char)}
      (name : Files.isIdle part = false) (inner : part ≠ ['.', '.'])
      (short : ¬ (String.ofList part).utf8ByteSize > maxName)
      (directory : tree.find? (spot ++ [part]) = some .directory)
      (rest : Leads tree (spot ++ [part]) parts place) : Leads tree spot (part :: parts) place
  /-- At the last name of a path nothing need be. -/
  | last {spot : Spot} {part : List Char} {parts : List (List Char)}
      (name : Files.isIdle part = false) (inner : part ≠ ['.', '.'])
      (short : ¬ (String.ofList part).utf8ByteSize > maxName)
      (empty : parts.all List.isEmpty = true) : Leads tree spot (part :: parts) (spot ++ [part])

/-- Following the parts of a path gives a place to which they lead. -/
theorem leads_of_follow {tree : FileTree} {spot place : Spot} {parts : List (List Char)}
    (followed : tree.follow spot parts = .ok place) : Leads tree spot parts place := by
  induction parts generalizing spot with
  | nil =>
    rw [← Except.ok.inj followed]
    exact .ends spot
  | cons part parts ih =>
    by_cases idle : Files.isIdle part = true
    · rw [follow, if_pos idle] at followed
      exact .idle idle (ih followed)
    by_cases up : part = ['.', '.']
    · rw [follow, if_neg idle, if_pos up] at followed
      rw [up]
      exact .up (ih followed)
    have name : Files.isIdle part = false := Bool.eq_false_iff.mpr idle
    rw [follow_cons_name _ _ _ name up] at followed
    by_cases long : (String.ofList part).utf8ByteSize > maxName
    · rw [if_pos long] at followed
      cases followed
    rw [if_neg long] at followed
    by_cases directory : tree.find? (spot ++ [part]) = some .directory
    · rw [if_pos directory] at followed
      exact .down name up long directory (ih followed)
    rw [if_neg directory] at followed
    by_cases empty : parts.all List.isEmpty = true
    · rw [if_pos empty] at followed
      rw [← Except.ok.inj followed]
      exact .last name up long empty
    · rw [if_neg empty] at followed
      cases followed

/-- There is one place to which parts lead, and following them finds it. -/
theorem Leads.follow {tree : FileTree} {spot place : Spot} {parts : List (List Char)}
    (leads : Leads tree spot parts place) : tree.follow spot parts = .ok place := by
  induction leads with
  | ends spot => rfl
  | idle idle rest ih => rw [FileTree.follow, if_pos idle, ih]
  | up rest ih =>
    have name : ¬ Files.isIdle ['.', '.'] = true := by decide
    rw [FileTree.follow, if_neg name, if_pos rfl, ih]
  | down name inner short directory rest ih =>
    rw [follow_cons_name _ _ _ name inner, if_neg short, if_pos directory, ih]
  | last name inner short empty =>
    -- Behind the last name it does not matter whether there is a directory.
    rw [follow_cons_name _ _ _ name inner, if_neg short, follow_idle tree _ empty, if_pos empty,
      ite_self]

/-- Parts lead to the same place in a tree that keeps the directories. -/
theorem Leads.of_keeps {before after : FileTree} (keeps : Keeps before after) {spot place : Spot}
    {parts : List (List Char)} (leads : Leads before spot parts place) :
    Leads after spot parts place := by
  induction leads with
  | ends spot => exact .ends spot
  | idle idle rest ih => exact .idle idle ih
  | up rest ih => exact .up ih
  | down name inner short directory rest ih => exact .down name inner short (keeps _ directory) ih
  | last name inner short empty => exact .last name inner short empty

/-- What a name at the end of a path is called, the place of the path is called. -/
theorem Leads.place_of_name {tree : FileTree} {spot place : Spot} {front : List (List Char)}
    {part : List Char} (name : Files.isIdle part = false) (inner : part ≠ ['.', '.'])
    (leads : Leads tree spot (front ++ [part]) place) : ∃ around, place = around ++ [part] := by
  generalize whole : front ++ [part] = parts at leads
  induction leads generalizing front with
  | ends spot =>
    exact absurd whole (List.append_ne_nil_of_right_ne_nil front (List.cons_ne_nil _ _))
  | idle idle rest ih =>
    cases front with
    | nil =>
      obtain ⟨rfl, -⟩ := List.cons_eq_cons.mp whole
      rw [name] at idle
      cases idle
    | cons first front => exact ih (List.cons_eq_cons.mp whole).2
  | up rest ih =>
    cases front with
    | nil => exact absurd (List.cons_eq_cons.mp whole).1 inner
    | cons first front => exact ih (List.cons_eq_cons.mp whole).2
  | @down spot place _ _ _ _ _ _ rest ih =>
    cases front with
    | nil =>
      obtain ⟨rfl, rfl⟩ := List.cons_eq_cons.mp whole
      cases rest
      exact ⟨spot, rfl⟩
    | cons first front => exact ih (List.cons_eq_cons.mp whole).2
  | @last spot _ _ _ _ _ empty =>
    cases front with
    | nil =>
      obtain ⟨rfl, rfl⟩ := List.cons_eq_cons.mp whole
      exact ⟨spot, rfl⟩
    | cons first front =>
      have rest : front ++ [part] = _ := (List.cons_eq_cons.mp whole).2
      rw [← rest, List.all_append, Bool.and_eq_true] at empty
      have void : part.isEmpty = true := by simpa using empty.2
      rw [Files.isIdle, void] at name
      cases name

/-- Says that a place and all places around it are directories. -/
def Reached (tree : FileTree) (spot : Spot) : Prop :=
  ∀ around, around <+: spot → tree.find? around = some .directory

/-- The root is reached. -/
theorem reached_root (tree : FileTree) : tree.Reached [] := by
  intro around inside
  rw [List.prefix_nil.mp inside]
  exact tree.find?_root

/-- The place above one that is reached is reached. -/
theorem Reached.up {tree : FileTree} {spot : Spot} (reached : tree.Reached spot) :
    tree.Reached spot.dropLast :=
  fun around inside => reached around (inside.trans (List.dropLast_prefix spot))

/-- So is each directory below it. -/
theorem Reached.down {tree : FileTree} {spot : Spot} (reached : tree.Reached spot)
    {part : List Char} (directory : tree.find? (spot ++ [part]) = some .directory) :
    tree.Reached (spot ++ [part]) := by
  intro around inside
  rcases List.prefix_concat_iff.mp inside with rfl | before
  · exact directory
  · exact reached around before

/-- A path that leads to something else than a directory ends in an empty part, or in a name by
which the place is called. -/
theorem Leads.exists_name {tree : FileTree} {spot place : Spot} {parts : List (List Char)}
    (leads : Leads tree spot parts place) (reached : tree.Reached spot)
    (file : tree.find? place ≠ some .directory) :
    parts.getLast? = some [] ∨ ∃ front part around, parts = front ++ [part] ∧
      Files.isIdle part = false ∧ part ≠ ['.', '.'] ∧ place = around ++ [part] := by
  -- How a path ends does not depend on the parts in front.
  have longer {first : List Char} {rest : List (List Char)}
      (ending : rest.getLast? = some [] ∨ ∃ front part around, rest = front ++ [part] ∧
        Files.isIdle part = false ∧ part ≠ ['.', '.'] ∧ place = around ++ [part]) :
      (first :: rest).getLast? = some [] ∨ ∃ front part around, first :: rest = front ++ [part] ∧
        Files.isIdle part = false ∧ part ≠ ['.', '.'] ∧ place = around ++ [part] := by
    rcases ending with empty | ⟨front, part, around, rfl, named⟩
    · left
      rw [List.getLast?_cons, empty]
      rfl
    · exact .inr ⟨first :: front, part, around, rfl, named⟩
  induction leads with
  | ends spot => exact absurd (reached _ List.prefix_rfl) file
  | idle _ _ ih => exact longer (ih reached file longer)
  | up _ ih => exact longer (ih reached.up file longer)
  | down _ _ _ directory _ ih => exact longer (ih (reached.down directory) file longer)
  | @last spot part parts name inner short empty =>
    cases last : parts.getLast? with
    | none =>
      rw [List.getLast?_eq_none_iff.mp last]
      exact .inr ⟨[], part, spot, rfl, name, inner, rfl⟩
    | some final =>
      have void : final.isEmpty = true :=
        List.all_eq_true.mp empty final (List.mem_of_getLast? last)
      left
      rw [List.getLast?_cons, last, List.isEmpty_iff.mp void]
      rfl

/-- A path to an idle part leads to a directory. -/
theorem Leads.directory_of_idle_end {tree : FileTree} {spot place : Spot}
    {front : List (List Char)} (leads : Leads tree spot (front ++ [['.']]) place)
    (reached : tree.Reached spot) : tree.find? place = some .directory := by
  refine Classical.byContradiction fun file => ?_
  rcases leads.exists_name reached file with empty | ⟨front', part, -, split, name, -⟩
  · rw [List.getLast?_concat] at empty
    cases empty
  · obtain ⟨same, -⟩ := List.cons_eq_cons.mp (List.append_inj' split rfl).2
    rw [← same] at name
    cases name

end SchemaPress.FileTree
