import Mathlib.Data.List.Flatten
import Mathlib.Data.List.Perm.Basic
import SchemaPress.Proofs.Text.Cutting
import SchemaPress.Sql.Script

/-!
# What remarks leave in a script

The name of a schema and the descriptions of its tables are remarks: a script sets them behind two
hyphens. A remark of one line is a comment from end to end. Of a remark of several lines only the
first is a comment, and the others stand in the script as they are.

The lines of a script that are no comments are those of the schema without its descriptive parts and
between them what the remarks spill (`codeLines_bare_sublist`, `codeLines_script_perm`). So nothing
is said outside comments that the statements do not say exactly where no remark spills
(`codeLines_script_bare_iff`). A remark of two lines does spill (`remarks_spill`).
-/

set_option autoImplicit false

namespace SchemaPress

/-! ## Schemas without their descriptive parts -/

/-- A relationship with nothing said of how many rows stand on each side. -/
def Relationship.bare (relationship : Relationship) : Relationship :=
  { relationship with cardinality := .oneToOne }

/-- A column without its description. -/
def Column.bare (column : Column) : Column :=
  { column with description := none }

/-- A table without its description and those of its columns. -/
def Table.bare (table : Table) : Table :=
  { table with description := none, columns := table.columns.map Column.bare }

namespace Schema

/-- A schema without its name, its suggestions, all descriptions and all cardinalities. -/
def bare (schema : Schema) : Schema where
  name := ""
  description := none
  tables := schema.tables.map Table.bare
  relationships := schema.relationships.map Relationship.bare
  suggestions := []

/-- The texts of a schema that a script sets behind hyphens. -/
def remarks (schema : Schema) : List String :=
  schema.name :: schema.tables.flatMap fun table => table.description.toList

end Schema

namespace Sql

/-! ## Lines that are no comments -/

/-- Says whether a line is a comment. -/
def isComment (line : List Char) : Bool :=
  ['-', '-'].isPrefixOf line

/-- The lines of a text that are no comments. -/
def codeLines (text : String) : List (List Char) :=
  (Text.cutAt '\n' text.toList).filter fun line => !isComment line

/-- The lines of a remark behind its first that are no comments. -/
def spill (remark : String) : List (List Char) :=
  ((Text.cutAt '\n' remark.toList).drop 1).filter fun line => !isComment line

/-- Behind hyphens the first line of a remark is a comment, and the others are what they were. -/
theorem codeLines_remark (remark : String) : codeLines ("-- " ++ remark) = spill remark := by
  obtain ⟨first, others, cut⟩ := Text.exists_cutAt_eq_cons '\n' remark.toList
  have behind : Text.cutAt '\n' ("-- " ++ remark).toList =
      ('-' :: '-' :: ' ' :: first) :: others := by
    rw [String.toList_append]
    exact Text.cutAt_other (by decide) (Text.cutAt_other (by decide)
      (Text.cutAt_other (by decide) cut))
  rw [codeLines, behind, spill, cut]
  rfl

/-- A remark of one line does not spill. -/
theorem spill_eq_nil {remark : String} (single : '\n' ∉ remark.toList) : spill remark = [] := by
  rw [spill, Text.cutAt_eq_single single]
  rfl

/-- Lines are joined without any of them becoming part of another. -/
theorem codeLines_joined {lines : List String} (some : lines ≠ []) :
    codeLines (Text.joined "\n" lines) = lines.flatMap codeLines := by
  rw [codeLines, Text.cutAt_joined rfl some, List.filter_flatMap]
  rfl

/-! ## The lines of a script that are no comments -/

/-- The lines of a header below the title. -/
def headerTail (style : Style) : List String :=
  ["-- Generated by " ++ style.generator, "-- Dialect: " ++ style.dialect.label, ""]

/-- The lines of a script behind those of the tables. -/
def keysAndIndexes (style : Style) (schema : Schema) : List String :=
  underHeading "-- Foreign Key Constraints" (schema.relationships.flatMap (addForeignKey style))
    ++ underHeading "-- Indexes"
      (schema.tables.flatMap fun table => table.indexes.map (createIndex style table))

/-- A header says nothing outside comments but what its title spills and its tail says. -/
theorem codeLines_title (style : Style) (schema : Schema) :
    (header style schema).flatMap codeLines =
      spill schema.name ++ (headerTail style).flatMap codeLines := by
  have title : codeLines ("-- " ++ if schema.name = "" then untitled else schema.name) =
      spill schema.name := by
    rw [codeLines_remark]
    by_cases unnamed : schema.name = ""
    · rw [if_pos unnamed, unnamed]
      decide +kernel
    · rw [if_neg unnamed]
  rw [← title]
  rfl

/-- A table is created by the same lines as without its description, below that description. -/
theorem codeLines_table (style : Style) (table : Table) :
    (createTable style table).flatMap codeLines = table.description.toList.flatMap spill ++
      (createTable style table.bare).flatMap codeLines := by
  have columns : table.bare.columns.map (columnDefinition style) =
      table.columns.map (columnDefinition style) := by
    simp only [Table.bare, List.map_map]
    rfl
  have create : createTable style table =
      (table.description.filter (· ≠ "")).toList.map ("-- " ++ ·) ++
        createTable style table.bare := by
    simp only [createTable, columns]
    rfl
  rw [create, List.flatMap_append, List.append_cancel_right_eq]
  cases table.description with
  | none => rfl
  | some description =>
    by_cases empty : description = ""
    · subst empty
      decide +kernel
    · simp [Option.filter, empty, codeLines_remark]

/-- Relationships and indexes are written without their descriptive parts. -/
theorem keysAndIndexes_bare (style : Style) (schema : Schema) :
    keysAndIndexes style schema.bare = keysAndIndexes style schema := by
  simp only [keysAndIndexes, Schema.bare, List.flatMap_map]
  rfl

/-- The lines of a script that are no comments. Each remark spills where it is written, and all else
comes from the schema without its descriptive parts. -/
theorem codeLines_script (style : Style) (schema : Schema) :
    codeLines (script style schema) =
      spill schema.name ++ (headerTail style).flatMap codeLines
        ++ schema.tables.flatMap (fun table => table.description.toList.flatMap spill ++
          (createTable style table.bare).flatMap codeLines)
        ++ (keysAndIndexes style schema.bare).flatMap codeLines := by
  have some : lines style schema ≠ [] := by simp [lines, header]
  have split : lines style schema =
      header style schema ++ schema.tables.flatMap (createTable style) ++
        keysAndIndexes style schema := by
    simp only [lines, keysAndIndexes, List.append_assoc]
  rw [script, codeLines_joined some, split, List.flatMap_append, List.flatMap_append,
    codeLines_title, List.flatMap_assoc, keysAndIndexes_bare, funext (codeLines_table style)]

/-- Without its descriptive parts a schema spills nothing. -/
theorem codeLines_script_bare (style : Style) (schema : Schema) :
    codeLines (script style schema.bare) =
      (headerTail style).flatMap codeLines
        ++ schema.tables.flatMap (fun table => (createTable style table.bare).flatMap codeLines)
        ++ (keysAndIndexes style schema.bare).flatMap codeLines := by
  have nameless : spill "" = [] := by decide +kernel
  have again (table : Table) : table.bare.bare = table.bare := by
    simp [Table.bare, Column.bare]
  have name : schema.bare.name = "" := rfl
  have tables : schema.bare.tables = schema.tables.map Table.bare := rfl
  have undescribed (table : Table) : table.bare.description = none := rfl
  rw [codeLines_script, name, nameless, List.nil_append, tables, List.flatMap_map,
    keysAndIndexes_bare style schema.bare]
  simp only [undescribed, again, Option.toList_none, List.flatMap_nil, List.nil_append]

/-- The lines that are no comments are among those of the script with all remarks, in the same
order. -/
theorem codeLines_bare_sublist (style : Style) (schema : Schema) :
    (codeLines (script style schema.bare)).Sublist (codeLines (script style schema)) := by
  rw [codeLines_script_bare, codeLines_script]
  refine .append_right (.append (List.sublist_append_right _ _) ?_) _
  exact .flatMap_right schema.tables fun table _ => List.sublist_append_right _ _

/-- The lines of a script that are no comments are those of the schema without its descriptive parts
and what the remarks spill. -/
theorem codeLines_script_perm (style : Style) (schema : Schema) :
    (codeLines (script style schema)).Perm
      (schema.remarks.flatMap spill ++ codeLines (script style schema.bare)) := by
  have remarks : schema.remarks.flatMap spill = spill schema.name ++
      schema.tables.flatMap fun table => table.description.toList.flatMap spill := by
    rw [Schema.remarks, List.flatMap_cons, List.flatMap_assoc]
  rw [codeLines_script_bare, codeLines_script, remarks]
  have tables := (List.flatMap_append_perm schema.tables
    (fun table => table.description.toList.flatMap spill)
    fun table => (createTable style table.bare).flatMap codeLines).symm
  refine List.perm_iff_count.mpr fun line => ?_
  have counts := tables.count_eq line
  simp only [List.count_append] at counts ⊢
  omega

/-- Outside comments a script says what the statements of its schema say and nothing else exactly
where no remark spills. -/
theorem codeLines_script_bare_iff (style : Style) (schema : Schema) :
    codeLines (script style schema) = codeLines (script style schema.bare) ↔
      ∀ remark ∈ schema.remarks, spill remark = [] := by
  have length := (codeLines_script_perm style schema).length_eq
  rw [List.length_append] at length
  rw [← List.flatMap_eq_nil_iff]
  constructor
  · intro same
    rw [same] at length
    exact List.eq_nil_of_length_eq_zero (by omega)
  · intro none
    rw [none, List.length_nil, Nat.zero_add] at length
    exact ((codeLines_bare_sublist style schema).eq_of_length length.symm).symm

/-- The lines of a script that are no comments do not depend on remarks of one line, and never on
the description of the schema or of a column, on suggestions or on cardinalities. More exactly, such
a line is owed to the descriptive parts of a schema exactly where a remark spills. -/
theorem remarks_stay_comments (style : Style) :
    (∀ schema, codeLines (script style schema) = codeLines (script style schema.bare) ↔
      ∀ remark ∈ schema.remarks, spill remark = []) ∧
    ∀ first second : Schema, first.bare = second.bare →
      (∀ remark ∈ first.remarks ++ second.remarks, '\n' ∉ remark.toList) →
      codeLines (script style first) = codeLines (script style second) := by
  refine ⟨codeLines_script_bare_iff style, fun first second same single => ?_⟩
  have stays {schema : Schema} (part : ∀ remark ∈ schema.remarks, '\n' ∉ remark.toList) :=
    (codeLines_script_bare_iff style schema).mpr fun remark member =>
      spill_eq_nil (part remark member)
  rw [stays fun remark member => single remark (List.mem_append_left _ member),
    stays fun remark member => single remark (List.mem_append_right _ member), same]

/-- Whether a table is described in one line, and what the schema is called, is nothing to the lines
that are no comments. -/
theorem remarks_stay_comments_users :
    let users (name : String) (description : Option String) : Schema :=
      { name, tables := [{
          name := "users", description, columns := [{ name := "id", type := ⟨"UUID"⟩ }] }] }
    (users "Shop" (some "Accounts; DROP TABLE users;")).bare = (users "" none).bare ∧
    codeLines (script ⟨.mysql, true, "SchemaCraft"⟩
      (users "Shop" (some "Accounts; DROP TABLE users;"))) =
      codeLines (script ⟨.mysql, true, "SchemaCraft"⟩ (users "" none)) := by
  intro users
  refine ⟨rfl, (remarks_stay_comments _).2 _ _ rfl ?_⟩
  decide +kernel

/-- A description of two lines leaves its second line outside comments, where it may be any
statement. So descriptive parts are not kept out of what a script does. -/
theorem remarks_spill :
    ¬ ∀ (dialect : Dialect) (settings : Settings) (first second : Schema),
      first.bare = second.bare →
        codeLines (script (.ofSettings dialect settings) first) =
          codeLines (script (.ofSettings dialect settings) second) := by
  intro always
  let users : Schema :=
    { name := "App",
      tables := [{
        name := "users", description := some "Accounts\nDROP TABLE users;",
        columns := [{ name := "id", type := ⟨"UUID"⟩ }] }] }
  have same := always .postgres {} users users.bare rfl
  have stays := (codeLines_script_bare_iff _ users).mp same
  have spilt : spill "Accounts\nDROP TABLE users;" = [] := stays _ (by simp [users, Schema.remarks])
  exact absurd spilt (by decide +kernel)

end Sql

end SchemaPress
