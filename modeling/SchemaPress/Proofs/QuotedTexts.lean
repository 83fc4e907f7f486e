import Mathlib.Data.List.Flatten
import SchemaPress.Proofs.Drizzle.Literals
import SchemaPress.Proofs.Prisma.Existence

/-!
# Texts between quotes

Prisma files and Drizzle modules hold texts of their schema and settings between quotes. A reader
takes such a text for a literal, with backslash escapes, that ends on its line. The names in a
Drizzle module are escaped. The names of indexes in a Prisma file, the provider and the environment
variable of its data source, and the module that a Drizzle module imports from, are written as they
are.

What a reader gets is the text that was given exactly if the text has no line feed and, where it is
written as it is, no quote and no backslash either (`QuotedText.isRead_iff`). `quotedTexts_read`
says that of all these texts, with the lines of the outputs on which they stand. So the name of an
index in a Prisma file is not read as it was given if it has a quote in it (`quotedTexts_unread`).
-/

set_option autoImplicit false

namespace SchemaPress

/-- A text between quotes on a line of an output. -/
structure QuotedText where
  /-- The line up to the opening quote. -/
  before : String
  quote : Char
  given : String
  /-- Whether a backslash stands before each quote and each backslash of the text. -/
  escaped : Bool
  /-- The line behind the closing quote. -/
  behind : String
  isQuote : quote = '"' ∨ quote = '\''

namespace QuotedText

/-- What stands between the quotes. -/
def written (text : QuotedText) : List Char :=
  if text.escaped then Text.Escaped.body text.quote text.given.toList else text.given.toList

/-- The line from the opening quote on. -/
def opened (text : QuotedText) : List Char :=
  text.quote :: text.written ++ text.quote :: text.behind.toList

/-- The whole line. -/
def line (text : QuotedText) : String :=
  text.before ++ String.ofList text.opened

/-- Says that a reader of the line gets the text that was given and what stands behind its closing
quote. The line ends at the first line feed, which may come with what follows. -/
def IsRead (text : QuotedText) (later : List Char) : Prop :=
  Text.Escaped.decode? text.quote ((text.opened ++ later).takeWhile (· ≠ '\n')) =
    some (text.given.toList, (text.behind.toList ++ later).takeWhile (· ≠ '\n'))

variable (text : QuotedText)

/-- No quote is a backslash. -/
theorem quote_ne_backslash : text.quote ≠ '\\' := by
  rcases text.isQuote with double | single
  · rw [double]
    decide
  · rw [single]
    decide

/-- No quote is a line feed. -/
theorem quote_ne_lineFeed : text.quote ≠ '\n' := by
  rcases text.isQuote with double | single
  · rw [double]
    decide
  · rw [single]
    decide

/-- Escapes neither put in line feeds nor take them out. -/
theorem lineFeed_mem_written : '\n' ∈ text.written ↔ '\n' ∈ text.given.toList := by
  unfold written
  split_ifs
  · have count : (Text.Escaped.body text.quote text.given.toList).count '\n' =
        text.given.toList.count '\n' :=
      Text.Escaped.count_body (by decide) text.given.toList
    rw [← List.count_pos_iff, count, List.count_pos_iff]
  · exact Iff.rfl

variable (later : List Char)

/-- A text without line feeds stands on one line with both of its quotes. -/
theorem takeWhile_opened {text : QuotedText} (single : '\n' ∉ text.written) (later : List Char) :
    (text.opened ++ later).takeWhile (· ≠ '\n') =
      text.quote :: text.written ++
        text.quote :: (text.behind.toList ++ later).takeWhile (· ≠ '\n') := by
  have inside : ∀ c ∈ text.quote :: text.written ++ [text.quote], decide (c ≠ '\n') = true := by
    intro c member
    rw [decide_eq_true_iff]
    simp only [List.cons_append, List.mem_cons, List.mem_append, List.not_mem_nil,
      or_false] at member
    rcases member with rfl | written | rfl
    · exact text.quote_ne_lineFeed
    · exact fun lineFeed => single (lineFeed ▸ written)
    · exact text.quote_ne_lineFeed
  have split : text.opened ++ later =
      (text.quote :: text.written ++ [text.quote]) ++ (text.behind.toList ++ later) := by
    simp [opened]
  rw [split, List.takeWhile_append_of_pos inside]
  simp

/-- What is read on a line has no line feed. -/
theorem lineFeed_not_mem_of_isRead {text : QuotedText} {later : List Char}
    (read : text.IsRead later) : '\n' ∉ text.given.toList := by
  intro member
  have subset := Text.Escaped.subset_of_decode? read
  have inside := List.mem_takeWhile_imp (subset member)
  simp at inside

/-- A text is read back if it is one line and, where nothing is escaped, needs no escape. -/
theorem isRead_iff : text.IsRead later ↔
    '\n' ∉ text.given.toList ∧
      (text.escaped = false → text.quote ∉ text.given.toList ∧ '\\' ∉ text.given.toList) := by
  by_cases broken : '\n' ∈ text.given.toList
  · have unread : ¬ text.IsRead later := fun read => lineFeed_not_mem_of_isRead read broken
    simp [broken, unread]
  · have single : '\n' ∉ text.written := mt text.lineFeed_mem_written.mp broken
    rw [IsRead, takeWhile_opened single]
    cases escaped : text.escaped with
    | true =>
      have written : text.quote :: text.written = text.quote :: Text.Escaped.body text.quote
          text.given.toList := by
        rw [QuotedText.written, if_pos escaped]
      have read := Text.Escaped.decode?_encode_append text.quote_ne_backslash text.given.toList
        ((text.behind.toList ++ later).takeWhile (· ≠ '\n'))
      rw [Text.Escaped.encode, List.append_assoc] at read
      rw [written]
      simp only [broken, not_false_eq_true, true_and]
      exact iff_of_true read (fun impossible => by cases impossible)
    | false =>
      have written : text.written = text.given.toList := by
        rw [QuotedText.written, if_neg (by simp [escaped])]
      rw [written, Text.Escaped.decode?_raw_iff text.quote_ne_backslash]
      simp [broken]

end QuotedText

/-! ## Prisma files -/

namespace Prisma

/-- The provider in the preamble of a Prisma file. -/
def providerText (settings : Settings) : QuotedText where
  before := "  provider = "
  quote := '"'
  given := settings.prisma.provider
  escaped := false
  behind := ""
  isQuote := .inl rfl

/-- The name of the variable for the address of the database. -/
def urlText (settings : Settings) : QuotedText where
  before := "  url      = env("
  quote := '"'
  given := settings.prisma.urlEnv
  escaped := false
  behind := ")"
  isQuote := .inl rfl

/-- The name of an index in a Prisma file. -/
def indexText (index : Index) : QuotedText where
  before := "  " ++ (if index.unique then "@@unique" else "@@index") ++ "(["
    ++ Text.joined ", " index.columns ++ "], map: "
  quote := '"'
  given := index.name
  escaped := false
  behind := ")"
  isQuote := .inl rfl

/-- The texts that a Prisma file has between quotes. -/
def quotedTexts (settings : Settings) (schema : Schema) : List QuotedText :=
  [providerText settings, urlText settings]
    ++ schema.tables.flatMap fun table => table.indexes.map indexText

/-- The line of an index in a Prisma file is that of its name. -/
theorem line_indexText (index : Index) : (indexText index).line = indexLine index := by
  apply String.toList_injective
  simp [QuotedText.line, QuotedText.opened, QuotedText.written, indexText, indexLine]

/-- The provider and the variable stand in the preamble. -/
theorem lines_preamble (settings : Settings) :
    ([providerText settings, urlText settings].map QuotedText.line).Sublist
      (preamble settings) := by
  have provider : (providerText settings).line =
      "  provider = \"" ++ settings.prisma.provider ++ "\"" := by
    apply String.toList_injective
    simp [QuotedText.line, QuotedText.opened, QuotedText.written, providerText]
  have url : (urlText settings).line =
      "  url      = env(\"" ++ settings.prisma.urlEnv ++ "\")" := by
    apply String.toList_injective
    simp [QuotedText.line, QuotedText.opened, QuotedText.written, urlText]
  have inside : [(providerText settings).line, (urlText settings).line] <:+: preamble settings := by
    rw [provider, url]
    exact ⟨["// Schema generated by " ++ settings.generator, "", "generator client \x7b",
      "  provider = \"prisma-client-js\"", "\x7d", "", "datasource db \x7b"], ["\x7d", ""], rfl⟩
  exact inside.sublist

/-- The names of the indexes stand in the model of their table. -/
theorem lines_model (settings : Settings) (table : Table) :
    ((table.indexes.map indexText).map QuotedText.line).Sublist
      (modelOf (fieldLine settings) table) := by
  have indexes : (table.indexes.map indexText).map QuotedText.line =
      table.indexes.map indexLine := by
    rw [List.map_map]
    exact congrArg (table.indexes.map ·) (funext line_indexText)
  have inside : (table.indexes.map indexLine).Sublist (indexLines table.indexes) := by
    unfold indexLines
    cases table.indexes with
    | nil => exact .slnil
    | cons index indexes => exact List.sublist_cons_self _ _
  rw [indexes, modelOf]
  exact (inside.trans (List.sublist_append_right _ _)).trans (List.sublist_append_left _ _)

/-- The texts between quotes stand on lines of the file, in their order. -/
theorem lines_quotedTexts {settings : Settings} {schema : Schema} {lines : List String}
    (made : lines? settings schema = some lines) :
    ((quotedTexts settings schema).map QuotedText.line).Sublist lines := by
  rw [lines?_eq] at made
  split_ifs at made
  obtain rfl := Option.some.inj made
  rw [quotedTexts, List.map_append, List.map_flatMap, models, ← List.flatMap_def]
  apply (lines_preamble settings).append
  exact .flatMap_right schema.tables fun table _ => lines_model settings table

end Prisma

/-! ## Drizzle modules -/

namespace Drizzle

/-- The name of the module that a Drizzle module imports from. -/
def moduleNameText (settings : Settings) : QuotedText where
  before := "\x7d from "
  quote := '\''
  given := settings.drizzle.moduleName
  escaped := false
  behind := ";"
  isQuote := .inr rfl

/-- The name of a table in a Drizzle module. -/
def tableText (table : Table) : QuotedText where
  before := "export const " ++ table.name ++ " = pgTable("
  quote := '\''
  given := table.name
  escaped := true
  behind := ", \x7b"
  isQuote := .inr rfl

/-- The name of an index in a Drizzle module. -/
def indexText (index : Index) : QuotedText where
  before := "  " ++ indexBuilder index ++ "("
  quote := '\''
  given := index.name
  escaped := true
  behind := ").on(" ++ Text.joined ", " (index.columns.map ("table." ++ ·)) ++ "),"
  isQuote := .inr rfl

/-- The texts that a Drizzle module has between quotes, other than the names of columns. -/
def quotedTexts (settings : Settings) (schema : Schema) : List QuotedText :=
  moduleNameText settings
    :: schema.tables.flatMap fun table => tableText table :: table.indexes.map indexText

/-- The last line of the imports is that of the module's name. -/
theorem line_moduleNameText (settings : Settings) :
    (moduleNameText settings).line = "\x7d from '" ++ settings.drizzle.moduleName ++ "';" := by
  apply String.toList_injective
  simp [QuotedText.line, QuotedText.opened, QuotedText.written, moduleNameText]

/-- The first line of a table is that of its name. -/
theorem line_tableText (table : Table) :
    (tableText table).line =
      "export const " ++ table.name ++ " = pgTable(" ++ literal table.name ++ ", \x7b" := by
  apply String.toList_injective
  simp [QuotedText.line, QuotedText.opened, QuotedText.written, tableText, literal,
    Text.Escaped.encode]

/-- So it is in a Drizzle module. -/
theorem line_indexText (index : Index) : (indexText index).line = indexLine index := by
  apply String.toList_injective
  simp [QuotedText.line, QuotedText.opened, QuotedText.written, indexText, indexLine, literal,
    Text.Escaped.encode]

/-- The names of a table and of its indexes stand in the lines of the table. -/
theorem lines_table (table : SchemaPress.Table) :
    ((tableText table :: table.indexes.map indexText).map QuotedText.line).Sublist
      (Drizzle.table table) := by
  have indexes : (table.indexes.map indexText).map QuotedText.line =
      table.indexes.map indexLine := by
    rw [List.map_map]
    exact congrArg (table.indexes.map ·) (funext line_indexText)
  have inside : (table.indexes.map indexLine).Sublist (closing table.indexes) := by
    unfold closing
    cases table.indexes with
    | nil => exact List.nil_sublist _
    | cons index indexes =>
      exact (List.sublist_append_left _ _).trans (List.sublist_cons_self _ _)
  rw [List.map_cons, indexes, line_tableText, ← List.singleton_append, Drizzle.table]
  apply List.Sublist.trans _ (List.sublist_append_left _ _)
  apply List.Sublist.append _ inside
  exact List.sublist_append_left _ _

/-- The texts between quotes stand on lines of the module, in their order. -/
theorem lines_quotedTexts (settings : Settings) (schema : Schema) :
    ((quotedTexts settings schema).map QuotedText.line).Sublist (lines settings schema) := by
  have imported : [(moduleNameText settings).line].Sublist (preamble settings) := by
    rw [line_moduleNameText, List.singleton_sublist]
    simp [preamble]
  rw [quotedTexts, List.map_cons, List.map_flatMap, ← List.singleton_append, lines]
  apply imported.append
  exact .flatMap_right schema.tables fun table _ => lines_table table

end Drizzle

/-! ## What is read of them -/

/-- Every text of a schema and its settings that a Prisma file or a Drizzle module has between
quotes stands on a line of that output. It is read as what was given, and up to its own closing
quote, exactly if it has no line feed and, unless it is the name of a table or of an index in a
Drizzle module, no quote and no backslash. -/
theorem quotedTexts_read (settings : Settings) (schema : Schema) :
    (∀ lines, Prisma.lines? settings schema = some lines →
      Prisma.file? settings schema = some (Text.joined "\n" lines) ∧
      ((Prisma.quotedTexts settings schema).map QuotedText.line).Sublist lines) ∧
    ((Drizzle.quotedTexts settings schema).map QuotedText.line).Sublist
      (Drizzle.lines settings schema) ∧
    (∀ text ∈ Prisma.quotedTexts settings schema ++ [Drizzle.moduleNameText settings], ∀ later,
      text.IsRead later ↔ '\n' ∉ text.given.toList ∧ text.quote ∉ text.given.toList ∧
        '\\' ∉ text.given.toList) ∧
    ∀ table ∈ schema.tables,
      ∀ text ∈ Drizzle.tableText table :: table.indexes.map Drizzle.indexText, ∀ later,
        text.IsRead later ↔ '\n' ∉ text.given.toList := by
  refine ⟨fun lines made => ⟨?_, Prisma.lines_quotedTexts made⟩,
    Drizzle.lines_quotedTexts settings schema, fun text member later => ?_,
    fun table _ text member later => ?_⟩
  · rw [Prisma.file?, made]
    rfl
  · have raw : text.escaped = false := by
      simp only [Prisma.quotedTexts, List.mem_append, List.mem_cons, List.not_mem_nil, or_false,
        List.mem_flatMap, List.mem_map] at member
      rcases member with ((rfl | rfl) | ⟨_, _, _, _, rfl⟩) | rfl
      · rfl
      · rfl
      · rfl
      · rfl
    rw [text.isRead_iff]
    simp [raw]
  · have escaped : text.escaped = true := by
      rcases List.mem_cons.mp member with rfl | member
      · rfl
      · obtain ⟨index, -, rfl⟩ := List.mem_map.mp member
        rfl
    rw [text.isRead_iff]
    simp [escaped]

/-- The same name of an index is read in a Drizzle module and not in a Prisma file. -/
theorem quotedTexts_read_orders :
    let byDay : Index := { name := "by\"day", columns := ["day"] }
    let orders : Table :=
      { name := "it's", columns := [{ name := "day", type := ⟨"DATE"⟩ }], indexes := [byDay] }
    let shop : Schema := { name := "shop", tables := [orders] }
    (∃ lines, Prisma.lines? {} shop = some lines ∧
      Prisma.file? {} shop = some (Text.joined "\n" lines) ∧
      ((Prisma.quotedTexts {} shop).map QuotedText.line).Sublist lines) ∧
    (Prisma.indexText byDay ∈ Prisma.quotedTexts {} shop ++ [Drizzle.moduleNameText {}] ∧
      ∀ later, ¬ (Prisma.indexText byDay).IsRead later) ∧
    (orders ∈ shop.tables ∧
      Drizzle.indexText byDay ∈ Drizzle.tableText orders :: orders.indexes.map Drizzle.indexText ∧
      ∀ later, (Drizzle.indexText byDay).IsRead later) := by
  intro byDay orders shop
  obtain ⟨prisma, -, raw, escaped⟩ := quotedTexts_read {} shop
  have made : ∃ lines, Prisma.lines? {} shop = some lines := by
    have narrow : ({} : Settings).prisma.fieldWidth ≤ Naming.maxWidth := by decide
    rw [Prisma.lines?_eq, if_pos (.inl narrow)]
    exact ⟨_, rfl⟩
  obtain ⟨lines, made⟩ := made
  have inFile : Prisma.indexText byDay ∈
      Prisma.quotedTexts {} shop ++ [Drizzle.moduleNameText {}] := by
    simp [Prisma.quotedTexts, shop, orders]
  have inModule : Drizzle.indexText byDay ∈
      Drizzle.tableText orders :: orders.indexes.map Drizzle.indexText := by
    simp [orders]
  have inSchema : orders ∈ shop.tables := List.mem_singleton.mpr rfl
  refine ⟨⟨lines, made, prisma lines made⟩, ⟨inFile, fun later read => ?_⟩,
    inSchema, inModule, fun later => ?_⟩
  · have free := ((raw _ inFile later).mp read).2.1
    exact absurd free (by decide)
  · rw [escaped orders inSchema _ inModule later]
    decide

/-- A text with a quote in it is written into a Prisma file as it is. So not every text between
quotes is read as what was given. -/
theorem quotedTexts_unread :
    ¬ ∀ (settings : Settings) (schema : Schema),
      ∀ text ∈ Prisma.quotedTexts settings schema ++ [Drizzle.moduleNameText settings],
        ∀ later, text.IsRead later := by
  intro always
  let byDay : Index := { name := "by\"day", columns := ["day"] }
  let shop : Schema :=
    { name := "shop",
      tables := [{
        name := "orders", columns := [{ name := "day", type := ⟨"DATE"⟩ }], indexes := [byDay] }] }
  have inFile : Prisma.indexText byDay ∈
      Prisma.quotedTexts {} shop ++ [Drizzle.moduleNameText {}] := by
    simp [Prisma.quotedTexts, shop]
  have read := always {} shop _ inFile []
  have free := ((Prisma.indexText byDay).isRead_iff []).mp read
  exact absurd (free.2 rfl).1 (by decide)

end SchemaPress
