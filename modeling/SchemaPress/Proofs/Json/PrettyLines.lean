import Mathlib.Tactic.SplitIfs
import SchemaPress.Proofs.Text.LineFeeds
import SchemaPress.Schema.Canonical

/-!
# How many lines a printed value takes

In the pretty text of a value a line ends only where the layout ends it, because a line feed in a
string is written behind a backslash (`feeds_quoted`). So the lines are counted from the lists and
records of the value alone (`Value.lineCount_pretty`): a list or record takes the lines of its parts
and two more for its brackets, or a single line if it has no parts. For a schema that count comes
down to the lengths of its lists and to which of its optional parts there are
(`Schema.lineCount_canonical`).
-/

set_option autoImplicit false

namespace SchemaPress

namespace Json

open Text

/-- A character is escaped without a line feed. -/
theorem lineFeed_not_mem_escapedChar (c : Char) : '\n' ∉ escapedChar c := by
  have hexadecimal : ∀ code < 32, '\n' ∉ Text.hexadecimal code := by decide
  unfold escapedChar
  split_ifs with special _ _ _ _ _ small control
  · rcases special with rfl | rfl
    · decide
    · decide
  · decide
  · decide
  · decide
  · decide
  · decide
  · have digits := hexadecimal c.toNat (by omega)
    simpa using digits
  · have digits := hexadecimal c.toNat control
    simpa using digits
  · rw [List.mem_singleton]
    rintro rfl
    contradiction

/-- Every line feed of a text is escaped in its quoted form. -/
@[simp]
theorem feeds_quoted (text : String) : feeds (quoted text) = 0 := by
  rw [feeds_eq_zero_iff, quoted, String.toList_ofList]
  intro member
  simp only [List.cons_append, List.mem_cons, List.mem_append, List.mem_flatMap, List.not_mem_nil,
    or_false] at member
  rcases member with quote | ⟨c, -, inside⟩ | quote
  · exact absurd quote (by decide)
  · exact lineFeed_not_mem_escapedChar c inside
  · exact absurd quote (by decide)

namespace Value

/-- The number of lines between two brackets and of the brackets. -/
def bracketLines (sizes : List Nat) : Nat :=
  if sizes = [] then 1 else 2 + sizes.sum

mutual

/-- The number of lines that a value takes when each of its parts has lines of its own. -/
def lines : Value → Nat
  | null => 1
  | flag _ => 1
  | number _ => 1
  | text _ => 1
  | list items => bracketLines (itemLines items)
  | record members => bracketLines (memberLines members)

/-- The number of lines of each item of a list. -/
def itemLines : List Value → List Nat
  | [] => []
  | item :: items => lines item :: itemLines items

/-- The number of lines of each member of a record. -/
def memberLines : List (String × Value) → List Nat
  | [] => []
  | (_, value) :: members => lines value :: memberLines members

end

/-- Items are counted one by one. -/
theorem itemLines_eq (items : List Value) : itemLines items = items.map lines := by
  induction items with
  | nil => rfl
  | cons item items ih => rw [itemLines, ih, List.map_cons]

/-- Members are counted by their values. -/
theorem memberLines_eq (members : List (String × Value)) :
    memberLines members = members.map fun member => member.2.lines := by
  induction members with
  | nil => rfl
  | cons member members ih => rw [memberLines, ih, List.map_cons]

/-- A new line has one line feed, however deep it is set in. -/
theorem feeds_newLine (depth : Nat) : feeds (newLine depth) = 1 := by
  simp [feeds, newLine, List.count_replicate]

/-- Parts between brackets have their own lines and those of the brackets. -/
theorem lineCount_bracketed {opening closing : String} (opened : feeds opening = 0)
    (closed : feeds closing = 0) (depth : Nat) (parts : List String) :
    lineCount (bracketed opening closing depth parts) = bracketLines (parts.map lineCount) := by
  cases parts with
  | nil =>
    have empty : bracketed opening closing depth [] = opening ++ closing := rfl
    rw [empty, lineCount_eq, feeds_append, opened, closed]
    rfl
  | cons part parts =>
    have between : feeds ("," ++ newLine (depth + 1)) = 1 := by
      rw [feeds_append, feeds_newLine]
      rfl
    have inside := lineCount_joined between (List.cons_ne_nil part parts)
    rw [lineCount_eq] at inside
    have lines : bracketed opening closing depth (part :: parts) =
        opening ++ newLine (depth + 1) ++ joined ("," ++ newLine (depth + 1)) (part :: parts)
          ++ newLine depth ++ closing := rfl
    have some : (part :: parts).map lineCount ≠ [] := List.cons_ne_nil _ _
    rw [lines, lineCount_eq, bracketLines, if_neg some, ← inside]
    simp only [feeds_append, feeds_newLine, opened, closed]
    omega

-- The depth only adds blanks behind the line feeds, so each call is counted alike at all depths.
mutual

/-- The pretty text of a value has the lines that its lists and records ask for, at any depth. -/
theorem lineCount_prettyAt (depth : Nat) : (value : Value) →
    lineCount (prettyAt depth value) = value.lines
  | null => by
    rw [prettyAt]
    rfl
  | flag value => by
    rw [prettyAt]
    cases value <;> rfl
  | number value => by
    rw [prettyAt, lineCount_eq, Nat.toString_eq_repr, feeds_repr]
    rfl
  | text value => by
    rw [prettyAt, lineCount_eq, feeds_quoted]
    rfl
  | list items => by
    rw [prettyAt, lineCount_bracketed rfl rfl, lineCount_prettyItems depth items, lines]
  | record members => by
    rw [prettyAt, lineCount_bracketed rfl rfl, lineCount_prettyMembers depth members, lines]

/-- The items of a list have the lines that are counted for them. -/
theorem lineCount_prettyItems (depth : Nat) : (items : List Value) →
    (prettyItems depth items).map lineCount = itemLines items
  | [] => rfl
  | item :: items => by
    rw [prettyItems, List.map_cons, lineCount_prettyAt (depth + 1) item,
      lineCount_prettyItems depth items, itemLines]

/-- So have the members of a record. -/
theorem lineCount_prettyMembers (depth : Nat) : (members : List (String × Value)) →
    (prettyMembers depth members).map lineCount = memberLines members
  | [] => rfl
  | (key, value) :: members => by
    have here : lineCount (quoted key ++ ": " ++ prettyAt (depth + 1) value) = value.lines := by
      have colon : feeds ": " = 0 := rfl
      rw [← lineCount_prettyAt (depth + 1) value, lineCount_eq, lineCount_eq, feeds_append,
        feeds_append, feeds_quoted, colon, Nat.zero_add]
    rw [prettyMembers, List.map_cons, here, lineCount_prettyMembers depth members, memberLines]

end

/-- A printed value has as many lines as are counted for it. -/
theorem lineCount_pretty (value : Value) : lineCount value.pretty = value.lines :=
  lineCount_prettyAt 0 value

/-! ## Lists and records -/

/-- The lines of a list that is made from some items. -/
theorem lines_list_map {α : Type} {part : α → Value} {size : α → Nat}
    (each : ∀ item, (part item).lines = size item) (items : List α) :
    (list (items.map part)).lines = bracketLines (items.map size) := by
  rw [lines, itemLines_eq, List.map_map]
  exact congrArg (fun size => bracketLines (items.map size)) (funext each)

/-- A record that is not empty has two lines beside those of its members. -/
theorem lines_record {members : List (String × Value)} (some : members ≠ []) :
    (record members).lines = 2 + (members.map fun member => member.2.lines).sum := by
  have parts : members.map (fun member => member.2.lines) ≠ [] := by simpa using some
  rw [lines, memberLines_eq, bracketLines, if_neg parts]

/-- A member that may be absent takes one line if it is there, provided that it is a text. -/
theorem sum_member? {α : Type} {part : α → Value} (each : ∀ item, (part item).lines = 1)
    (key : String) (item : Option α) :
    ((member? key (item.map part)).map fun member => member.2.lines).sum = item.toList.length := by
  cases item with
  | none => rfl
  | some item => exact each item

/-- A text takes one line, whatever it holds. -/
theorem lines_text (string : String) : (text string).lines = 1 :=
  rfl

/-- So does a flag. -/
theorem lines_flag (value : Bool) : (flag value).lines = 1 :=
  rfl

end Value

end Json

/-! ## Schemas -/

open Json.Value

/-- The number of lines of an index in JSON. -/
def Index.jsonLines (index : Index) : Nat :=
  4 + bracketLines (index.columns.map fun _ => 1)

/-- The number of lines of a column in JSON. -/
def Column.jsonLines (column : Column) : Nat :=
  7 + column.default.toList.length + column.description.toList.length
    + column.timestamp.toList.length

/-- The number of lines of a table in JSON. -/
def Table.jsonLines (table : Table) : Nat :=
  3 + table.description.toList.length + bracketLines (table.columns.map Column.jsonLines)
    + bracketLines (table.indexes.map Index.jsonLines)

/-- The number of lines of a relationship in JSON. -/
def Relationship.jsonLines (relationship : Relationship) : Nat :=
  7 + relationship.onDelete.toList.length

/-- The number of lines of a schema in JSON. The strings of the schema have no part in it. -/
def Schema.jsonLines (schema : Schema) : Nat :=
  3 + schema.description.toList.length + bracketLines (schema.tables.map Table.jsonLines)
    + bracketLines (schema.relationships.map Relationship.jsonLines)
    + bracketLines (schema.suggestions.map fun _ => 1)

/-- The lines of an index in its canonical form. -/
theorem Index.lines_toJson (index : Index) : index.toJson.lines = index.jsonLines := by
  have columns := lines_list_map lines_text index.columns
  rw [toJson, lines_record (List.cons_ne_nil _ _)]
  simp only [List.map_cons, List.map_nil, List.sum_cons, List.sum_nil, lines_text, lines_flag,
    columns, jsonLines]
  omega

/-- The lines of a column in its canonical form. -/
theorem Column.lines_toJson (column : Column) : column.toJson.lines = column.jsonLines := by
  have default := sum_member? lines_text "default" column.default
  have description := sum_member? lines_text "description" column.description
  have role := sum_member? (fun role => lines_text (TimestampRole.word role)) "temporal"
    column.timestamp
  rw [toJson, lines_record (by simp)]
  simp only [List.map_append, List.sum_append, List.map_cons, List.map_nil, List.sum_cons,
    List.sum_nil, lines_text, lines_flag, default, description, role, jsonLines]
  omega

/-- The lines of a table in its canonical form. -/
theorem Table.lines_toJson (table : Table) : table.toJson.lines = table.jsonLines := by
  have description := sum_member? lines_text "description" table.description
  have columns := lines_list_map Column.lines_toJson table.columns
  have indexes := lines_list_map Index.lines_toJson table.indexes
  rw [toJson, lines_record (by simp)]
  simp only [List.map_append, List.sum_append, List.map_cons, List.map_nil, List.sum_cons,
    List.sum_nil, lines_text, description, columns, indexes, jsonLines]
  omega

/-- The lines of a relationship in its canonical form. -/
theorem Relationship.lines_toJson (relationship : Relationship) :
    relationship.toJson.lines = relationship.jsonLines := by
  have action := sum_member? (fun action => lines_text (ReferenceAction.sql action)) "on_delete"
    relationship.onDelete
  rw [toJson, lines_record (by simp)]
  simp only [List.map_append, List.sum_append, List.map_cons, List.map_nil, List.sum_cons,
    List.sum_nil, lines_text, action, jsonLines]
  omega

/-- The lines of a schema in its canonical form. -/
theorem Schema.lines_toJson (schema : Schema) : schema.toJson.lines = schema.jsonLines := by
  have description := sum_member? lines_text "description" schema.description
  have tables := lines_list_map Table.lines_toJson schema.tables
  have relationships := lines_list_map Relationship.lines_toJson schema.relationships
  have suggestions := lines_list_map lines_text schema.suggestions
  rw [toJson, lines_record (by simp)]
  simp only [List.map_append, List.sum_append, List.map_cons, List.map_nil, List.sum_cons,
    List.sum_nil, lines_text, description, tables, relationships, suggestions, jsonLines]
  omega

/-- The number of lines of the canonical form depends on the shape of the schema only. -/
theorem Schema.lineCount_canonical (schema : Schema) :
    Text.lineCount schema.canonical = schema.jsonLines := by
  rw [canonical, lineCount_pretty, lines_toJson]

end SchemaPress
