import SchemaPress.Proofs.Sql.Identifiers

/-!
# Quoted statements are read in one way only

Where identifiers are quoted, the text of a statement says what the statement is about, whatever
characters the names are made of. Two statements about indexes are the same text only if table and
index are the same, two statements about foreign keys only if both ends and the action are the same,
and no statement about an index is one about a foreign key (`statements_eq_iff`).

A statement is taken apart from its front: a keyword is the same in all statements of its kind, and
an identifier ends at the first quote that stands alone, because in every statement some other
character follows it. Without quotes this fails, for a name may hold a keyword
(`statements_eq_iff_keyword`).
-/

set_option autoImplicit false

namespace SchemaPress.Sql

/-- The statement that adds a foreign key, as one text. -/
def foreignKeyText (style : Style) (relationship : Relationship) : String :=
  Text.joined "\n" (addForeignKey style relationship)

/-! ## Lists of columns -/

/-- Columns of an index, each with the separator before it. -/
def laterColumns (style : Style) (columns : List String) : List Char :=
  columns.flatMap fun column => ", ".toList ++ (style.identifier column).toList

/-- A list of columns is written as if all of them were later ones, less the first separator. -/
theorem laterColumns_cons (style : Style) (column : String) (columns : List String) :
    laterColumns style (column :: columns) =
      ", ".toList ++ (Text.joined ", " ((column :: columns).map style.identifier)).toList := by
  induction columns generalizing column with
  | nil => simp [Text.joined, laterColumns]
  | cons next columns ih =>
    have front : laterColumns style (column :: next :: columns) =
        ", ".toList ++ (style.identifier column).toList ++
          laterColumns style (next :: columns) := rfl
    have split : Text.joined ", " ((column :: next :: columns).map style.identifier) =
        style.identifier column ++ ", " ++
          Text.joined ", " ((next :: columns).map style.identifier) := rfl
    rw [front, split, ih next]
    simp only [String.toList_append, List.append_assoc]

/-- Behind a column stands a comma or the closing parenthesis. -/
theorem head?_laterColumns_ne_quote (style : Style) (columns : List String) (rest : List Char) :
    (laterColumns style columns ++ ')' :: rest).head? ≠ some style.dialect.quote := by
  cases columns with
  | nil =>
    have closing := @head?_word_append style.dialect ")" rfl rest
    exact closing
  | cons column columns =>
    rw [laterColumns_cons, List.append_assoc]
    exact head?_word_append style.dialect rfl _

/-- The columns behind the first one are told apart, whatever follows their parenthesis. -/
theorem laterColumns_append_inj {style : Style} (quoted : style.quoted = true)
    {columns columns' : List String} {rest rest' : List Char}
    (same : laterColumns style columns ++ ')' :: rest =
      laterColumns style columns' ++ ')' :: rest') : columns = columns' ∧ rest = rest' := by
  induction columns generalizing columns' with
  | nil =>
    cases columns' with
    | nil => simpa [laterColumns] using same
    | cons column' columns' => simp [laterColumns] at same
  | cons column columns ih =>
    cases columns' with
    | nil => simp [laterColumns] at same
    | cons column' columns' =>
      have behind :
          (style.identifier column).toList ++ (laterColumns style columns ++ ')' :: rest) =
            (style.identifier column').toList ++ (laterColumns style columns' ++ ')' :: rest') := by
        simpa [laterColumns] using same
      obtain ⟨name, others⟩ := identifier_append_inj quoted
        (head?_laterColumns_ne_quote style columns rest)
        (head?_laterColumns_ne_quote style columns' rest') behind
      obtain ⟨later, rests⟩ := ih others
      exact ⟨by rw [name, later], rests⟩

/-- Columns before a closing parenthesis end at that parenthesis. No column at all is not one column
without a name, which has its quotes. -/
theorem columns_append_inj {style : Style} (quoted : style.quoted = true)
    {columns columns' : List String} {rest rest' : List Char}
    (same : (Text.joined ", " (columns.map style.identifier)).toList ++ ')' :: rest =
      (Text.joined ", " (columns'.map style.identifier)).toList ++ ')' :: rest') :
    columns = columns' ∧ rest = rest' := by
  have opening (column : String) (columns : List String) (rest : List Char) :
      ((Text.joined ", " ((column :: columns).map style.identifier)).toList ++ rest).head? =
        some style.dialect.quote := by
    cases columns <;>
      simp [Text.joined, identifier_toList quoted, Text.Doubled.encode]
  have closing (rest : List Char) : (')' :: rest).head? ≠ some style.dialect.quote :=
    head?_laterColumns_ne_quote style [] rest
  cases columns with
  | nil =>
    cases columns' with
    | nil => simpa [Text.joined] using same
    | cons column' columns' =>
      refine absurd ?_ (closing rest)
      rw [← opening column' columns' (')' :: rest'), ← same]
      rfl
  | cons column columns =>
    cases columns' with
    | nil =>
      refine absurd ?_ (closing rest')
      rw [← opening column columns (')' :: rest), same]
      rfl
    | cons column' columns' =>
      have later : laterColumns style (column :: columns) ++ ')' :: rest =
          laterColumns style (column' :: columns') ++ ')' :: rest' := by
        rw [laterColumns_cons, laterColumns_cons, List.append_assoc, List.append_assoc, same]
      exact laterColumns_append_inj quoted later

/-! ## Statements -/

/-- The statement of an index names the index, its table and its columns, and says whether it is
unique. -/
theorem createIndex_inj {style : Style} (quoted : style.quoted = true) {table table' : Table}
    {index index' : Index}
    (same : createIndex style table index = createIndex style table' index') :
    table.name = table'.name ∧ index = index' := by
  have chars := congrArg String.toList same
  unfold createIndex at chars
  simp only [String.toList_append, List.append_assoc, List.append_cancel_left_eq] at chars
  -- Both keywords stand before the name, so they are compared first.
  have unique : index.unique = index'.unique := by
    cases first : index.unique <;> cases second : index'.unique <;>
      simp [first, second] at chars ⊢
  rw [unique, List.append_cancel_left_eq, List.append_cancel_left_eq] at chars
  obtain ⟨name, chars⟩ := identifier_word_inj quoted rfl chars
  obtain ⟨on, chars⟩ := identifier_word_inj quoted rfl chars
  obtain ⟨columns, -⟩ := columns_append_inj quoted chars
  cases index
  cases index'
  simp_all

/-- The statement of a foreign key names both of its ends and its action. The name of the constraint
plays no part: that it joins two names without a quote between them does no harm. -/
theorem foreignKeyText_inj {style : Style} (quoted : style.quoted = true)
    {relationship relationship' : Relationship}
    (same : foreignKeyText style relationship = foreignKeyText style relationship') :
    relationship.fromTable = relationship'.fromTable ∧
    relationship.fromColumn = relationship'.fromColumn ∧
    relationship.toTable = relationship'.toTable ∧
    relationship.toColumn = relationship'.toColumn ∧
    relationship.onDeleteOrCascade.sql = relationship'.onDeleteOrCascade.sql := by
  have chars := congrArg String.toList same
  simp only [foreignKeyText, addForeignKey, Text.joined, String.toList_append, List.append_assoc,
    List.append_cancel_left_eq] at chars
  obtain ⟨fromTable, chars⟩ := identifier_word_inj quoted rfl chars
  simp only [List.append_cancel_left_eq] at chars
  obtain ⟨-, chars⟩ := identifier_word_inj quoted rfl chars
  simp only [List.append_cancel_left_eq] at chars
  obtain ⟨fromColumn, chars⟩ := identifier_word_inj quoted rfl chars
  simp only [List.append_cancel_left_eq] at chars
  obtain ⟨toTable, chars⟩ := identifier_word_inj quoted rfl chars
  obtain ⟨toColumn, chars⟩ := identifier_word_inj quoted rfl chars
  -- The action is not quoted, but the end of the text is that of the statement.
  simp only [List.append_cancel_left_eq, List.append_cancel_right_eq] at chars
  exact ⟨fromTable, fromColumn, toTable, toColumn, String.toList_inj.mp chars⟩

/-- Where identifiers are quoted, the texts of two statements are the same exactly where the
statements say the same: for indexes the same table and the same index, for foreign keys the same
ends and the same action. A statement about an index is never one about a foreign key. -/
theorem statements_eq_iff {style : Style} (quoted : style.quoted = true) :
    (∀ (table table' : Table) (index index' : Index),
      createIndex style table index = createIndex style table' index' ↔
        table.name = table'.name ∧ index.name = index'.name ∧ index.unique = index'.unique ∧
          index.columns = index'.columns) ∧
    (∀ relationship relationship' : Relationship,
      foreignKeyText style relationship = foreignKeyText style relationship' ↔
        relationship.fromTable = relationship'.fromTable ∧
        relationship.fromColumn = relationship'.fromColumn ∧
        relationship.toTable = relationship'.toTable ∧
        relationship.toColumn = relationship'.toColumn ∧
        relationship.onDeleteOrCascade.sql = relationship'.onDeleteOrCascade.sql) ∧
    ∀ (table : Table) (index : Index) (relationship : Relationship),
      createIndex style table index ≠ foreignKeyText style relationship := by
  refine ⟨fun table table' index index' => ⟨fun same => ?_, ?_⟩,
    fun relationship relationship' => ⟨foreignKeyText_inj quoted, ?_⟩,
    fun table index relationship same => ?_⟩
  · obtain ⟨on, rfl⟩ := createIndex_inj quoted same
    exact ⟨on, rfl, rfl, rfl⟩
  · rintro ⟨on, name, unique, columns⟩
    unfold createIndex
    rw [on, name, unique, columns]
  · rintro ⟨fromTable, fromColumn, toTable, toColumn, action⟩
    simp only [foreignKeyText, addForeignKey, fromTable, fromColumn, toTable, toColumn, action]
  · have chars := congrArg String.toList same
    unfold createIndex at chars
    simp [foreignKeyText, addForeignKey, Text.joined] at chars

/-- Between quotes a name may hold a keyword. The index `a` on the table `b ON c` and the index
`a ON b` on the table `c` have different statements, while without quotes both statements are one
text. -/
theorem statements_eq_iff_keyword :
    let style (quoted : Bool) : Style := { dialect := .postgres, quoted }
    let statement (quoted : Bool) (index table : String) : String :=
      createIndex (style quoted) { name := table, columns := [] }
        { name := index, columns := ["x"] }
    statement true "a" "b ON c" ≠ statement true "a ON b" "c" ∧
    statement false "a" "b ON c" = statement false "a ON b" "c" := by
  intro style statement
  have quoted := (@statements_eq_iff (style true) rfl).1 { name := "b ON c", columns := [] }
    { name := "c", columns := [] } { name := "a", columns := ["x"] }
    { name := "a ON b", columns := ["x"] }
  refine ⟨fun same => ?_, rfl⟩
  obtain ⟨on, -⟩ := quoted.mp same
  exact absurd on (by decide)

end SchemaPress.Sql
