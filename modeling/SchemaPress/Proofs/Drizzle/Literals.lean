import SchemaPress.Proofs.Drizzle.Calls

/-!
# Names in calls are read back

A Drizzle module hands the names of tables, columns and indexes to the functions that it calls, as
literals between single quotes. A literal ends at the first quote without a backslash before it, so
whatever a name holds, its literal is read up to its own end and stands for that name
(`decode?_literal_append`).

A call is read from its function on: the function's name up to the parenthesis, then the literal.
The calls of a module, read in this way, are those of the tables, columns and indexes of its schema
under their own names (`map_readName?_called`). So modules with the same calls are about the same
names (`literals_keep_names`).
-/

set_option autoImplicit false

namespace SchemaPress.Drizzle

/-! ## Calls -/

/-- Reads a call: its function, the text of the literal that it is handed first, and what follows
this literal. -/
def readCall? (call : List Char) : Option (String × String × List Char) :=
  match call.dropWhile (· ≠ '(') with
  | [] => none
  | _ :: behind => (Text.Escaped.decode? '\'' behind).map fun (argument, rest) =>
      (String.ofList (call.takeWhile (· ≠ '(')), String.ofList argument, rest)

/-- A call is read up to the end of the literal that it is handed first. -/
theorem readCall?_literal {function : String} (word : '(' ∉ function.toList) (text behind : String)
    (rest : List Char) :
    readCall? ((function ++ ("(" ++ (literal text ++ behind))).toList ++ rest) =
      some (function, text, behind.toList ++ rest) := by
  let argument := (literal text).toList ++ (behind.toList ++ rest)
  have chars : (function ++ ("(" ++ (literal text ++ behind))).toList ++ rest =
      function.toList ++ '(' :: argument := by
    simp [argument]
  have letters : ∀ c ∈ function.toList, decide (c ≠ '(') = true := by
    intro c member
    rw [decide_eq_true_iff]
    intro parenthesis
    exact word (parenthesis ▸ member)
  have stops : ∀ c ∈ ('(' :: argument).head?, decide (c ≠ '(') = false := by
    intro c first
    obtain rfl := Option.some.inj first
    rfl
  have split := Text.takeWhile_dropWhile_append letters stops
  rw [chars, readCall?, split.1, split.2]
  simp only [argument, decode?_literal_append, Option.map_some, String.ofList_toList]

/-- The names of the functions of a module are words. -/
theorem not_mem_of_mem_imports {function : String} (imported : function ∈ imports) :
    '(' ∉ function.toList := by
  have all : ∀ name ∈ imports, '(' ∉ name.toList := by decide
  exact all function imported

namespace Line

/-- The part of a line from the function that it calls on. -/
def called? : Line → Option String
  | call _ function behind => some (function ++ "(" ++ behind)
  | plain _ => none

end Line

/-- The calls that a module makes for a schema: their functions and the names handed to these. -/
def namedCalls (schema : Schema) : List (String × String) :=
  schema.tables.flatMap fun table =>
    ("pgTable", table.name)
      :: table.columns.map (fun column => ((Chain.ofColumn column).builder.word, column.name))
      ++ table.indexes.map fun index => (indexBuilder index, index.name)

/-- The function and the first argument of a call, whatever follows the call. -/
def readName? (rest : List Char) (call : String) : Option (String × String) :=
  (readCall? (call.toList ++ rest)).map fun (function, name, _) => (function, name)

section

variable (rest : List Char)

/-- So the function and the name of a call are read. -/
theorem readName?_literal {function : String} (imported : function ∈ imports)
    (name behind : String) :
    readName? rest (function ++ ("(" ++ (literal name ++ behind))) = some (function, name) := by
  rw [readName?, readCall?_literal (not_mem_of_mem_imports imported)]
  rfl

/-- The line of a column calls its builder with its name. -/
theorem called?_ofColumn (column : Column) :
    (Line.ofColumn column).called?.map (readName? rest) =
      some (some ((Chain.ofColumn column).builder.word, column.name)) := by
  simp only [Line.ofColumn, Line.called?, Option.map_some, String.append_assoc,
    readName?_literal rest (Builder.word_mem_imports _)]

/-- The line of an index calls its builder with its name. -/
theorem called?_ofIndex (index : Index) :
    (Line.ofIndex index).called?.map (readName? rest) =
      some (some (indexBuilder index, index.name)) := by
  have imported : indexBuilder index ∈ imports := Line.isClosed_ofIndex index
  simp only [Line.ofIndex, Line.called?, Option.map_some, String.append_assoc,
    readName?_literal rest imported]

/-- The lines behind the columns of a table call what its indexes are called by. -/
theorem called?_closing (indexes : List Index) :
    ((Line.closing indexes).filterMap Line.called?).map (readName? rest) =
      indexes.map fun index => some (indexBuilder index, index.name) := by
  have calls : (indexes.map Line.ofIndex).filterMap
      (fun line => line.called?.map (readName? rest)) =
        indexes.map fun index => some (indexBuilder index, index.name) := by
    rw [List.filterMap_map]
    simp only [Function.comp_def, called?_ofIndex, List.filterMap_eq_map']
  rw [List.map_filterMap, Line.closing]
  cases indexes with
  | nil => rfl
  | cons index indexes =>
    rw [if_neg (by simp), List.cons_append, List.filterMap_cons_none rfl, List.filterMap_append,
      calls]
    simp [Line.called?]

/-- The lines of a table call for it, for its columns and for its indexes, in this order. -/
theorem called?_ofTable (table : Table) :
    ((Line.ofTable table).filterMap Line.called?).map (readName? rest) =
      some ("pgTable", table.name)
        :: table.columns.map (fun column =>
          some ((Chain.ofColumn column).builder.word, column.name))
        ++ table.indexes.map fun index => some (indexBuilder index, index.name) := by
  have opening : readName? rest ("pgTable" ++ "(" ++ (literal table.name ++ ", \x7b")) =
      some ("pgTable", table.name) := by
    rw [String.append_assoc, readName?_literal rest (by decide)]
  have columns : ((table.columns.map Line.ofColumn).filterMap Line.called?).map (readName? rest) =
      table.columns.map fun column =>
        some ((Chain.ofColumn column).builder.word, column.name) := by
    rw [List.map_filterMap, List.filterMap_map]
    simp only [Function.comp_def, called?_ofColumn, List.filterMap_eq_map']
  rw [Line.ofTable]
  simp only [List.cons_append, List.filterMap_cons, List.filterMap_append, List.map_append,
    Line.called?, List.map_cons, columns, called?_closing, opening]
  simp

/-- The calls of the lines of a schema are read as what they are, whatever follows them. -/
theorem map_readName?_called (schema : Schema) :
    ((tableLines schema).filterMap Line.called?).map (readName? rest) =
      (namedCalls schema).map some := by
  rw [tableLines, namedCalls, List.filterMap_flatMap, List.map_flatMap, List.map_flatMap]
  congr 1
  funext table
  rw [called?_ofTable]
  simp only [List.map_cons, List.map_append, List.map_map, Function.comp_def]

/-- Calls that are the same texts are calls of the same functions with the same names. -/
theorem namedCalls_eq_of_called {first second : Schema}
    (same : (tableLines first).filterMap Line.called? =
      (tableLines second).filterMap Line.called?) : namedCalls first = namedCalls second := by
  have read := map_readName?_called [] first
  rw [same, map_readName?_called] at read
  exact (List.map_inj_right fun _ _ => Option.some.inj).mp read.symm

end

/-- A literal is read up to its closing quote as the text that it is made of, whatever the text
holds and whatever follows. It is made by putting a backslash before each backslash and then before
each quote. In a module the names of tables, columns and indexes are read from the calls as they
are, and two modules with the same calls have the same names in them. -/
theorem literals_keep_names :
    (∀ (text : String) (rest : List Char),
      Text.Escaped.decode? '\'' ((literal text).toList ++ rest) = some (text.toList, rest)) ∧
    (∀ text : String, (literal text).toList = '\'' ::
      Text.replaced '\'' ['\\', '\''] (Text.replaced '\\' ['\\', '\\'] text.toList) ++ ['\'']) ∧
    Function.Injective literal ∧
    (∀ (settings : Settings) (schema : Schema) (rest : List Char),
      moduleText settings schema =
        Text.joined "\n" (preamble settings ++ (tableLines schema).map Line.text) ∧
      ((tableLines schema).filterMap Line.called?).map (readName? rest) =
        (namedCalls schema).map some) ∧
    ∀ first second : Schema,
      (tableLines first).filterMap Line.called? = (tableLines second).filterMap Line.called? →
        namedCalls first = namedCalls second := by
  exact ⟨decode?_literal_append, literal_toList_replaced, literal_injective,
    fun settings schema rest => ⟨moduleText_eq settings schema, map_readName?_called rest schema⟩,
    fun first second => namedCalls_eq_of_called⟩

/-- A name may end in a backslash or look like the end of its literal. Were the backslashes put in
before quotes first, such a name would not be read back. -/
theorem literals_keep_names_swapped :
    let name := "a\\'), text('b"
    let swapped : List Char := '\'' :: Text.replaced '\\' ['\\', '\\']
      (Text.replaced '\'' ['\\', '\''] name.toList) ++ ['\'']
    let keys (name : String) : Schema :=
      { name := "keys", tables := [{ name, columns := [{ name, type := ⟨"UUID"⟩ }] }] }
    (tableLines (keys name)).filterMap Line.called? =
      (tableLines { keys name with suggestions := ["none"] }).filterMap Line.called? ∧
    namedCalls (keys name) = [("pgTable", name), ("uuid", name)] ∧
    namedCalls (keys name) = namedCalls { keys name with suggestions := ["none"] } ∧
    Text.Escaped.decode? '\'' ((literal name).toList ++ "\\'".toList) =
      some (name.toList, "\\'".toList) ∧
    Text.Escaped.decode? '\'' swapped ≠ some (name.toList, []) := by
  intro name swapped keys
  have read := literals_keep_names.1 name "\\'".toList
  have same := literals_keep_names.2.2.2.2 (keys name)
    { keys name with suggestions := ["none"] } rfl
  exact ⟨rfl, by decide +kernel, same, read, by decide +kernel⟩

end SchemaPress.Drizzle
