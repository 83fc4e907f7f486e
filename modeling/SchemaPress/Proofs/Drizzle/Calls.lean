import Mathlib.Data.List.Basic
import Mathlib.Data.List.Count
import Mathlib.Tactic.SplitIfs
import SchemaPress.Drizzle.Module
import SchemaPress.Proofs.ColumnConstraints
import SchemaPress.Proofs.Text.Escaped

/-!
# The calls of a module

A column is built by a call that is handed the literal of its name (`literal_toList_replaced`). The
calls in the chain behind it are those of one fixed order that the column asks for
(`Chain.calls_eq_filter`). How often a call comes, beside which others and where is read off that
order (`Chain.isChainOf_calls`).

Below its imports a module is made of lines that call one function each, for every table, column
and index, and of lines that end something (`moduleText_eq`). The functions are all imported
(`isClosed_tableLines`). The base types with a builder are those with a scalar (`lookup_isSome`), so
neither target falls back on a text for a type that the other knows.
-/

set_option autoImplicit false

namespace SchemaPress

/-- A part is found in a text where it stands from some place on. -/
theorem Text.holds_iff {part cs : List Char} : holds part cs = true ↔ part <:+: cs := by
  induction cs with
  | nil => simp [holds, List.infix_nil]
  | cons c cs ih => simp [holds, ih, List.infix_cons_iff]

namespace Drizzle

/-! ## Literals -/

/-- A literal is its text in the escaped form. -/
theorem literal_toList (text : String) :
    (literal text).toList = Text.Escaped.encode '\'' text.toList := by
  rw [literal, String.toList_ofList]

/-- A literal is made by putting a backslash before each backslash and then before each quote. -/
theorem literal_toList_replaced (text : String) :
    (literal text).toList = '\'' ::
      Text.replaced '\'' ['\\', '\''] (Text.replaced '\\' ['\\', '\\'] text.toList) ++ ['\''] := by
  rw [literal_toList, Text.Escaped.encode, Text.Escaped.body_eq_replaced (by decide)]

/-- A literal is read up to its own end as the text that it is made of, whatever follows. -/
theorem decode?_literal_append (text : String) (rest : List Char) :
    Text.Escaped.decode? '\'' ((literal text).toList ++ rest) = some (text.toList, rest) := by
  rw [literal_toList]
  exact Text.Escaped.decode?_encode_append (by decide) text.toList rest

/-- No two texts have the same literal. -/
theorem literal_injective : Function.Injective literal := by
  intro text other same
  have chars := congrArg String.toList same
  rw [literal_toList, literal_toList] at chars
  exact String.toList_injective (Text.Escaped.encode_injective (by decide) chars)

/-! ## Options -/

namespace Options

/-- The fifth character of options, which tells a length from a precision. -/
def fifth : Options → Option Char
  | none => Option.none
  | length _ => some 'l'
  | precision _ _ => some 'p'

/-- The fifth character of the options as they are written. -/
theorem fifth_code (options : Options) : options.code.toList[4]? = options.fifth := by
  cases options with
  | none => rfl
  | length n =>
    show (", \x7b length: " ++ toString n ++ " \x7d").toList[4]? = some 'l'
    rw [String.append_assoc, String.toList_append]
    rfl
  | precision p s =>
    show (", \x7b precision: " ++ toString p ++ ", scale: " ++ toString s ++ " \x7d").toList[4]? =
      some 'p'
    simp only [String.append_assoc, String.toList_append]
    rfl

/-- No two options are written alike. -/
theorem code_injective : Function.Injective code := by
  intro options other same
  have fifths : options.fifth = other.fifth := by rw [← fifth_code, ← fifth_code, same]
  cases options <;> cases other <;> try cases fifths
  case none.none => rfl
  case length.length n m =>
    rw [Text.numeral_between_inj (by decide) same]
  case precision.precision p s p' s' =>
    obtain ⟨rfl, rfl⟩ := Text.numerals_between_inj (by decide) (by decide) same
    rfl

end Options

namespace Chain

/-- The options of a column are those of its type. -/
theorem options_ofColumn (column : Column) :
    (ofColumn column).options = optionsOf column.type := by
  rw [ofColumn]

/-- A length is an option of a `VARCHAR`, which has one in any case. -/
theorem optionsOf_eq_length_iff {tag : TypeTag} {n : Nat} :
    optionsOf tag = .length n ↔ tag.base = "VARCHAR" ∧ tag.length?.getD standardLength = n := by
  unfold optionsOf
  split_ifs with varchar decimal
  · simp [varchar]
  · cases tag.precisionScale? <;> simp [varchar]
  · simp [varchar]

/-- A precision and a scale are options of a `DECIMAL` that has them. -/
theorem optionsOf_eq_precision_iff {tag : TypeTag} {p s : Nat} :
    optionsOf tag = .precision p s ↔
      tag.base = "DECIMAL" ∧ tag.precisionScale? = some (p, s) := by
  unfold optionsOf
  split_ifs with varchar decimal
  · simp [varchar]
  · cases tag.precisionScale? <;> simp [decimal, Prod.ext_iff]
  · simp [decimal]

/-- Options are written for a `VARCHAR`, and for a `DECIMAL` with a precision. -/
theorem optionsOf_code_ne_empty_iff (tag : TypeTag) :
    (optionsOf tag).code ≠ "" ↔
      tag.base = "VARCHAR" ∨ tag.base = "DECIMAL" ∧ tag.precisionScale?.isSome = true := by
  have none : (optionsOf tag).code = "" ↔ optionsOf tag = .none :=
    ⟨fun empty => Options.code_injective empty, fun none => by rw [none]; rfl⟩
  rw [ne_eq, none]
  unfold optionsOf
  split_ifs with varchar decimal
  · simp [varchar]
  · cases tag.precisionScale? <;> simp [decimal]
  · simp [varchar, decimal]

end Chain

/-! ## Chains -/

namespace Call

/-- All calls, in the order in which they are chained. -/
def order : List Call :=
  [defaultNow, primaryKey, defaultRandom, generatedAlwaysAsIdentity, notNull, unique]

/-- Says whether a column asks for a call. -/
def isAsked (column : Column) : Call → Bool
  | defaultNow => column.type.base = "TIMESTAMP" && column.default.any mentionsNow
  | primaryKey => column.primaryKey
  | defaultRandom => column.type.base = "UUID" && column.primaryKey
  | generatedAlwaysAsIdentity => column.type.base = "SERIAL" && column.primaryKey
  | notNull => column.needsNotNull
  | unique => column.needsUnique

/-- Says whether a call supplies a default. -/
def isDefault : Call → Bool
  | defaultNow | defaultRandom | generatedAlwaysAsIdentity => true
  | primaryKey | notNull | unique => false

end Call

/-- A default is the current time exactly if it has the word in it. -/
theorem any_mentionsNow_iff (default : Option String) :
    default.any mentionsNow = true ↔
      ∃ text, default = some text ∧ "NOW".toList <:+: text.toList := by
  rw [Option.any_eq_true]
  simp only [mentionsNow, Text.holds_iff]

namespace Chain

/-- The calls for the key and the default are those of the fixed order that are asked for. -/
theorem keyCalls_eq_filter (column : Column) : keyCalls column =
    [.defaultNow, .primaryKey, .defaultRandom, .generatedAlwaysAsIdentity].filter
      (Call.isAsked column) := by
  unfold keyCalls keyCalls.nowCalls
  split_ifs with key uuid serial now now
  · simp [Call.isAsked, key, uuid]
  · simp [Call.isAsked, key, serial]
  · simp [Call.isAsked, key, uuid, serial, now]
  · simp [Call.isAsked, key, uuid, serial, now]
  · simp [Call.isAsked, key, now]
  · simp [Call.isAsked, key, now]

/-- The chain of a column has the calls that the column asks for, each in its place. -/
theorem calls_eq_filter (column : Column) :
    (ofColumn column).calls = Call.order.filter (Call.isAsked column) := by
  have order : Call.order =
      [.defaultNow, .primaryKey, .defaultRandom, .generatedAlwaysAsIdentity] ++
        [.notNull, .unique] := rfl
  have last : (if column.needsNotNull then [Call.notNull] else []) ++
      (if column.needsUnique then [.unique] else []) =
        [.notNull, .unique].filter (Call.isAsked column) := by
    cases notNull : column.needsNotNull <;> cases unique : column.needsUnique <;>
      simp [Call.isAsked, notNull, unique]
  unfold ofColumn
  rw [List.append_assoc, keyCalls_eq_filter, last, order, List.filter_append]

/-- A call is written exactly if the column asks for it. -/
theorem mem_words_iff (column : Column) (call : Call) :
    call.code ∈ (ofColumn column).calls.map Call.code ↔ call.isAsked column = true := by
  have listed : call ∈ Call.order := by cases call <;> decide
  rw [List.mem_map_of_injective Call.code_injective, calls_eq_filter, List.mem_filter]
  exact and_iff_right listed

/-- A chain has one default at most, since each of them is for a base type of its own. -/
theorem countP_isDefault (column : Column) :
    (ofColumn column).calls.countP Call.isDefault ≤ 1 := by
  have asked : (ofColumn column).calls.countP Call.isDefault =
      [column.type.base = "TIMESTAMP" && column.default.any mentionsNow,
        column.type.base = "UUID" && column.primaryKey,
        column.type.base = "SERIAL" && column.primaryKey].countP id := by
    rw [calls_eq_filter]
    simp [List.countP_filter, Call.order, List.countP_cons, Call.isDefault, Call.isAsked]
  rw [asked]
  by_cases timestamp : column.type.base = "TIMESTAMP"
  · cases column.default.any mentionsNow <;> simp [timestamp]
  · by_cases uuid : column.type.base = "UUID"
    · cases column.primaryKey <;> simp [uuid]
    · cases column.primaryKey <;> by_cases serial : column.type.base = "SERIAL" <;>
        simp [timestamp, uuid, serial]

end Chain

/-- Says that words are a chain behind the builder call of a column. -/
structure IsChainOf (column : Column) (words : List String) : Prop where
  order : words.Sublist [".defaultNow()", ".primaryKey()", ".defaultRandom()",
    ".generatedAlwaysAsIdentity()", ".notNull()", ".unique()"]
  primaryKey : words.count ".primaryKey()" = if column.primaryKey then 1 else 0
  oneDefault : words.countP
    (· ∈ [".defaultRandom()", ".generatedAlwaysAsIdentity()", ".defaultNow()"]) ≤ 1
  random : ".defaultRandom()" ∈ words ↔ column.type.base = "UUID" ∧ column.primaryKey = true
  identity : ".generatedAlwaysAsIdentity()" ∈ words ↔
    column.type.base = "SERIAL" ∧ column.primaryKey = true
  now : ".defaultNow()" ∈ words ↔ column.type.base = "TIMESTAMP" ∧
    ∃ text, column.default = some text ∧ "NOW".toList <:+: text.toList
  notNull : ".notNull()" ∈ words ↔ column.nullable = false ∧ column.primaryKey = false
  unique : ".unique()" ∈ words ↔ column.unique = true ∧ column.primaryKey = false
  /-- The key comes first, except behind the current time. -/
  front : (".defaultRandom()" ∈ words → [".primaryKey()", ".defaultRandom()"] <+: words) ∧
    (".generatedAlwaysAsIdentity()" ∈ words →
      [".primaryKey()", ".generatedAlwaysAsIdentity()"] <+: words) ∧
    (".defaultNow()" ∈ words → [".defaultNow()"] <+: words)

namespace Chain

/-- The calls of a column are a chain behind its builder. -/
theorem isChainOf_calls (column : Column) :
    IsChainOf column ((ofColumn column).calls.map Call.code) := by
  have random := mem_words_iff column .defaultRandom
  have identity := mem_words_iff column .generatedAlwaysAsIdentity
  have now := mem_words_iff column .defaultNow
  have notNull := mem_words_iff column .notNull
  have unique := mem_words_iff column .unique
  simp only [Call.isAsked, Bool.and_eq_true, decide_eq_true_eq, any_mentionsNow_iff,
    Column.needsNotNull, Column.needsUnique,
    Bool.not_eq_true'] at random identity now notNull unique
  constructor
  case order =>
    rw [calls_eq_filter]
    exact List.filter_sublist.map Call.code
  case primaryKey =>
    exact count_codes column .primaryKey
  case oneDefault =>
    rw [List.countP_map]
    refine le_of_eq_of_le (List.countP_congr fun call _ => ?_) (countP_isDefault column)
    cases call <;> decide
  case random => exact random
  case identity => exact identity
  case now => exact now
  case notNull => exact notNull
  case unique => exact unique
  case front =>
    refine ⟨fun member => ?_, fun member => ?_, fun member => ?_⟩
    · obtain ⟨uuid, key⟩ := random.mp member
      have asked : [.primaryKey, .defaultRandom] <+: (ofColumn column).calls := by
        simp [calls_eq_filter, Call.order, Call.isAsked, uuid, key]
      exact asked.map Call.code
    · obtain ⟨serial, key⟩ := identity.mp member
      have asked : [.primaryKey, .generatedAlwaysAsIdentity] <+: (ofColumn column).calls := by
        simp [calls_eq_filter, Call.order, Call.isAsked, serial, key]
      exact asked.map Call.code
    · obtain ⟨timestamp, mentioned⟩ := now.mp member
      have asked : [.defaultNow] <+: (ofColumn column).calls := by
        simp [calls_eq_filter, Call.order, Call.isAsked, timestamp,
          (any_mentionsNow_iff column.default).mpr mentioned]
      exact asked.map Call.code

end Chain

/-! ## The functions of a module -/

/-- Every builder is imported. -/
theorem Builder.word_mem_imports (builder : Builder) : builder.word ∈ imports := by
  cases builder <;> decide

/-- A line of a module below its imports. A line that calls a function has something before the
function's name and behind the parenthesis. -/
inductive Line where
  | call (before function behind : String)
  | plain (text : String)
  deriving DecidableEq, Repr

namespace Line

/-- A line as it is written. -/
def text : Line → String
  | call before function behind => before ++ function ++ "(" ++ behind
  | plain text => text

/-- The function that a line calls. -/
def function? : Line → Option String
  | call _ function _ => some function
  | plain _ => none

/-- The text of a line that calls nothing. -/
def plain? : Line → Option String
  | call _ _ _ => none
  | plain text => some text

/-- The line of a column. -/
def ofColumn (column : Column) : Line :=
  let chain := Chain.ofColumn column
  call ("  " ++ column.name ++ ": ") chain.builder.word
    (literal column.name ++ chain.options.code ++ ")"
      ++ Text.concatenated (chain.calls.map Call.code) ++ ",")

/-- The line of an index. -/
def ofIndex (index : Index) : Line :=
  call "  " (indexBuilder index)
    (literal index.name ++ ").on(" ++ Text.joined ", " (index.columns.map ("table." ++ ·)) ++ "),")

/-- The lines behind the columns of a table. -/
def closing (indexes : List Index) : List Line :=
  if indexes.isEmpty then [plain "\x7d);"]
  else plain "\x7d, (table) => [" :: indexes.map ofIndex ++ [plain "]);"]

/-- The lines of a table. -/
def ofTable (table : Table) : List Line :=
  call ("export const " ++ table.name ++ " = ") "pgTable" (literal table.name ++ ", \x7b")
    :: table.columns.map ofColumn ++ closing table.indexes ++ [plain ""]

/-- The line of a column is written as in the module. -/
theorem text_ofColumn (column : Column) : (ofColumn column).text = columnLine column := by
  simp only [columnLine, Chain.code, text, ofColumn, String.append_assoc]
  rfl

/-- So is the line of an index. -/
theorem text_ofIndex (index : Index) : (ofIndex index).text = indexLine index := by
  simp only [indexLine, text, ofIndex, String.append_assoc]

/-- So are the lines behind the columns of a table. -/
theorem map_text_closing (indexes : List Index) :
    (closing indexes).map text = Drizzle.closing indexes := by
  unfold closing Drizzle.closing
  split_ifs
  · rfl
  · simp only [List.map_cons, List.map_append, List.map_map, Function.comp_def, text_ofIndex]
    rfl

/-- So are all lines of a table. -/
theorem map_text_ofTable (table : Table) :
    (ofTable table).map text = Drizzle.table table := by
  have opening : "export const " ++ table.name ++ " = " ++ "pgTable" ++ "("
      ++ (literal table.name ++ ", \x7b") =
        "export const " ++ table.name ++ " = pgTable(" ++ literal table.name ++ ", \x7b" := by
    simp only [String.append_assoc]
    rfl
  simp only [ofTable, List.map_cons, List.map_append, List.map_map, Function.comp_def,
    text_ofColumn, map_text_closing, List.map_nil]
  rw [Drizzle.table, ← opening]
  rfl

/-- Says that a line calls an imported function, or that it calls none and ends something. -/
def IsClosed : Line → Prop
  | call _ function _ => function ∈ imports
  | plain text => text ∈ ["\x7d);", "\x7d, (table) => [", "]);", ""]

/-- The line of a column calls an imported function. -/
theorem isClosed_ofColumn (column : Column) : (ofColumn column).IsClosed :=
  Builder.word_mem_imports (Chain.ofColumn column).builder

/-- So does the line of an index. -/
theorem isClosed_ofIndex (index : Index) : (ofIndex index).IsClosed := by
  show indexBuilder index ∈ imports
  unfold indexBuilder
  split_ifs <;> decide

/-- The lines behind the columns call imported functions or end something. -/
theorem isClosed_closing {indexes : List Index} {line : Line} (member : line ∈ closing indexes) :
    line.IsClosed := by
  have plains (text : String) (listed : text ∈ ["\x7d);", "\x7d, (table) => [", "]);"]) :
      (plain text).IsClosed :=
    List.mem_append_left [""] listed
  unfold closing at member
  split_ifs at member
  · obtain rfl := List.mem_singleton.mp member
    exact plains _ (by decide)
  · rcases List.mem_cons.mp member with rfl | member
    · exact plains _ (by decide)
    · rcases List.mem_append.mp member with member | member
      · obtain ⟨index, -, rfl⟩ := List.mem_map.mp member
        exact isClosed_ofIndex index
      · obtain rfl := List.mem_singleton.mp member
        exact plains _ (by decide)

/-- So do all lines of a table. -/
theorem isClosed_ofTable {table : Table} {line : Line} (member : line ∈ ofTable table) :
    line.IsClosed := by
  simp only [ofTable, List.mem_append, List.mem_cons, List.mem_map, List.not_mem_nil,
    or_false] at member
  rcases member with ((rfl | ⟨column, -, rfl⟩) | ends) | rfl
  · show "pgTable" ∈ imports
    decide
  · exact isClosed_ofColumn column
  · exact isClosed_closing ends
  · show "" ∈ _
    decide

end Line

/-- The lines of a module below its imports. -/
def tableLines (schema : Schema) : List Line :=
  schema.tables.flatMap Line.ofTable

/-- A module is its preamble and then the lines of its tables. -/
theorem moduleText_eq (settings : Settings) (schema : Schema) :
    moduleText settings schema =
      Text.joined "\n" (preamble settings ++ (tableLines schema).map Line.text) := by
  rw [moduleText, lines, tableLines, List.map_flatMap, funext Line.map_text_ofTable]

/-- All lines below the preamble call imported functions or end something. -/
theorem isClosed_tableLines {schema : Schema} {line : Line} (member : line ∈ tableLines schema) :
    line.IsClosed := by
  obtain ⟨table, -, inside⟩ := List.mem_flatMap.mp member
  exact Line.isClosed_ofTable inside

/-! ## Known base types -/

/-- The base types that have a builder are those that have a scalar. -/
theorem lookup_isSome (base : String) :
    (Builder.table.lookup base).isSome = (Prisma.Scalar.table.lookup base).isSome := by
  have keys : (Builder.table.map Prod.fst).Perm (Prisma.Scalar.table.map Prod.fst) := by decide
  have known {α : Type} (table : List (String × α)) :
      (table.lookup base).isSome = true ↔ base ∈ table.map Prod.fst := by
    simp [List.lookup_isSome_iff]
  rw [Bool.eq_iff_iff, known, known, keys.mem_iff]

/-- What every column becomes is a call of an imported builder with the literal of its name, which
is the name between quotes with what would end it escaped, and a chain behind it. In every module
the functions called are imported, and a base type has a builder exactly if it has a scalar. -/
theorem calls_wellFormed (settings : Settings) :
    (∀ column : Column,
      let chain := Chain.ofColumn column
      chain.code = chain.builder.word ++ "(" ++ literal column.name ++ chain.options.code ++ ")"
        ++ Text.concatenated (chain.calls.map Call.code) ∧
      (literal column.name).toList = '\'' :: Text.replaced '\'' ['\\', '\'']
        (Text.replaced '\\' ['\\', '\\'] column.name.toList) ++ ['\''] ∧
      chain.builder.word ∈ imports ∧
      (chain.options.code ≠ "" ↔ column.type.base = "VARCHAR" ∨
        column.type.base = "DECIMAL" ∧ column.type.precisionScale?.isSome = true) ∧
      IsChainOf column (chain.calls.map Call.code)) ∧
    (∀ schema,
      moduleText settings schema =
        Text.joined "\n" (preamble settings ++ (tableLines schema).map Line.text) ∧
      (tableLines schema).filterMap Line.function? ⊆ imports ∧
      (tableLines schema).filterMap Line.plain? ⊆
        ["\x7d);", "\x7d, (table) => [", "]);", ""] ∧
      imports.map (fun name => "  " ++ name ++ ",") <:+: preamble settings) ∧
    ∀ tag : TypeTag,
      (Builder.table.lookup tag.base).isSome = (Prisma.Scalar.table.lookup tag.base).isSome := by
  refine ⟨fun column => ⟨rfl, literal_toList_replaced column.name, Builder.word_mem_imports _,
      ?options, Chain.isChainOf_calls column⟩,
    fun schema => ⟨moduleText_eq settings schema, fun function called => ?called,
      fun text ends => ?ends, ?imported⟩, fun tag => lookup_isSome tag.base⟩
  case options =>
    rw [Chain.options_ofColumn]
    exact Chain.optionsOf_code_ne_empty_iff column.type
  case called =>
    obtain ⟨line, member, calls⟩ := List.mem_filterMap.mp called
    have closed := isClosed_tableLines member
    cases line with
    | call before name behind =>
      obtain rfl := Option.some.inj calls
      exact closed
    | plain text => cases calls
  case ends =>
    obtain ⟨line, member, ended⟩ := List.mem_filterMap.mp ends
    have closed := isClosed_tableLines member
    cases line with
    | call before name behind => cases ended
    | plain text =>
      obtain rfl := Option.some.inj ended
      exact closed
  case imported =>
    exact ⟨_, _, rfl⟩

example :
    let column : Column := { name := "it's", type := ⟨" Serial(3)"⟩ }
    (Chain.ofColumn column).code = "integer('it\\'s')" ∧
    (Chain.ofColumn { column with primaryKey := true }).code =
      "integer('it\\'s').primaryKey().generatedAlwaysAsIdentity()" := by
  decide +kernel

end Drizzle

end SchemaPress
