import SchemaPress.Proofs.Settings.Records

/-!
# Settings with gaps

Settings are read from their JSON as they were written, and every key may be left out of it
(`ofJson_gaps`): the field of a key that is missing has its standard value, all others are kept,
whatever order the keys are in and whatever other keys stand between them. A section that is
missing, one without any key and one with standard values are the same.

Each of the four records is read by the law of records with gaps, the sections first: what a section
is read as is the value of its key in the whole record.
-/

set_option autoImplicit false

namespace SchemaPress

open Document Document.Shape Json

/-- The standard value in place of one that has been removed. -/
def Settings.reset {α : Type} (removed : Bool) (standard value : α) : α :=
  if removed then standard else value

open Settings (Record reset)

/-- A value that is the standard one stays the same when it is reset. -/
theorem Settings.reset_eq {α : Type} {removed : Bool} {standard value : α}
    (same : value = standard) : reset removed standard value = standard := by
  rw [reset, same, ite_self]

/-- A value that can be reset to a standard one fills the gap that it leaves. -/
theorem Settings.fills_reset {δ α β : Type} {shape : Shape Written Option δ α}
    {removed : String → Bool} {name : String} (print : β → Written) {standard : β} (value : β)
    (isStandard : shape.IsStandard name (print standard)) :
    shape.Fills removed (name, print value)
      (name, print (reset (removed name) standard value)) := by
  refine ⟨rfl, fun kept => ?_, fun gone => ?_⟩
  · rw [reset, if_neg (Bool.eq_false_iff.mp kept)]
  · rw [reset, if_pos gone]
    exact isStandard

open Settings (fills_reset reset_eq)

variable {removed : String → Bool} {form : Written}

/-! ## The sections -/

namespace SqlSettings

/-- The fields of the SQL settings, with their values. -/
def values (settings : SqlSettings) : List (String × Written) :=
  [("quoteIdentifiers", (Value.flag settings.quoteIdentifiers).written)]

/-- SQL settings in which the fields of removed keys are standard. -/
def without (settings : SqlSettings) (removed : String → Bool) : SqlSettings :=
  let standard : SqlSettings := {}
  { quoteIdentifiers :=
      reset (removed "quoteIdentifiers") standard.quoteIdentifiers settings.quoteIdentifiers }

/-- The settings for SQL are read from all their values. -/
theorem read_values (settings : SqlSettings) :
    SqlSettings.shape.read (Written.record (spelled settings.values)) = some settings := by
  rw [read_spelled]
  simp [values, takeSpelled?, field?, shape, Field.of]
  rfl

/-- The standard values of the settings for SQL. -/
theorem isStandard :
    Record.sql.shape.IsStandard "quoteIdentifiers" (Value.flag false).written :=
  .of rfl rfl fun draft unset => by
    obtain rfl : draft = none := unset
    rfl

/-- The settings for SQL are read with standard values for the keys that are removed. -/
theorem read_gapped {settings : SqlSettings}
    (gapped : IsGapped Record.sql.known removed settings.values form) :
    SqlSettings.shape.read form = some (settings.without removed) := by
  have fills : List.Forall₂ (Record.sql.shape.Fills removed) settings.values
      (settings.without removed).values :=
    .cons (fills_reset (fun value => (Value.flag value).written) _ isStandard) .nil
  rw [← read_values]
  exact Record.sql.read_gapped gapped fills (by simp [values])

/-- Without all their keys, the settings for SQL are the standard ones. -/
theorem without_all {settings : SqlSettings}
    (gone : ∀ key ∈ Record.sql.known, removed key = true) : settings.without removed = {} := by
  simp only [Record.known, List.forall_mem_cons] at gone
  simp [without, reset, gone]

/-- The standard settings for SQL stay the same whichever keys are removed. -/
theorem without_standard (removed : String → Bool) :
    ({} : SqlSettings).without removed = {} := by
  simp [without, reset_eq]

/-- An empty record is read as the standard section. -/
theorem read_empty : SqlSettings.shape.read (Written.record []) = some {} :=
  read_record _ []

end SqlSettings

namespace PrismaSettings

/-- The fields of the Prisma settings, with their values. -/
def values (settings : PrismaSettings) : List (String × Written) :=
  [("provider", (Value.text settings.provider).written),
    ("urlEnv", (Value.text settings.urlEnv).written),
    ("fieldWidth", (Value.number settings.fieldWidth).written)]

/-- Prisma settings in which the fields of removed keys are standard. -/
def without (settings : PrismaSettings) (removed : String → Bool) : PrismaSettings :=
  let standard : PrismaSettings := {}
  { provider := reset (removed "provider") standard.provider settings.provider
    urlEnv := reset (removed "urlEnv") standard.urlEnv settings.urlEnv
    fieldWidth := reset (removed "fieldWidth") standard.fieldWidth settings.fieldWidth }

/-- The settings for Prisma are read from all their values, if their width is one of 64 bits. -/
theorem read_values {settings : PrismaSettings}
    (bounded : settings.fieldWidth < Numeral.wholeBound) :
    PrismaSettings.shape.read (Written.record (spelled settings.values)) = some settings := by
  rw [read_spelled]
  simp [values, takeSpelled?, field?, shape, Field.of,
    Value.count_written bounded]
  rfl

/-- The standard width is one of 64 bits as well. -/
theorem bounded_without {settings : PrismaSettings}
    (bounded : settings.fieldWidth < Numeral.wholeBound) (removed : String → Bool) :
    (settings.without removed).fieldWidth < Numeral.wholeBound := by
  change reset (removed "fieldWidth") 20 settings.fieldWidth < _
  rw [reset]
  split
  · decide
  · exact bounded

/-- The standard values of the settings for Prisma. -/
theorem isStandard :
    Record.prisma.shape.IsStandard "provider" (Value.text "postgresql").written ∧
    Record.prisma.shape.IsStandard "urlEnv" (Value.text "DATABASE_URL").written ∧
    Record.prisma.shape.IsStandard "fieldWidth" (Value.number 20).written := by
  refine ⟨.of rfl (Value.text_written _) fun draft unset => ?_,
    .of rfl (Value.text_written _) fun draft unset => ?_,
    .of rfl (Value.count_written (by decide)) fun draft unset => ?_⟩
  all_goals simp [Record.shape, shape, unset]

/-- So are those for Prisma. -/
theorem read_gapped {settings : PrismaSettings}
    (bounded : settings.fieldWidth < Numeral.wholeBound)
    (gapped : IsGapped Record.prisma.known removed settings.values form) :
    PrismaSettings.shape.read form = some (settings.without removed) := by
  obtain ⟨provider, urlEnv, fieldWidth⟩ := isStandard
  have fills : List.Forall₂ (Record.prisma.shape.Fills removed) settings.values
      (settings.without removed).values :=
    .cons (fills_reset (fun value => (Value.text value).written) _ provider) <|
    .cons (fills_reset (fun value => (Value.text value).written) _ urlEnv) <|
    .cons (fills_reset (fun value => (Value.number value).written) _ fieldWidth) .nil
  rw [← read_values (bounded_without bounded removed)]
  exact Record.prisma.read_gapped gapped fills (by simp [values])

/-- So are those for Prisma. -/
theorem without_all {settings : PrismaSettings}
    (gone : ∀ key ∈ Record.prisma.known, removed key = true) : settings.without removed = {} := by
  simp only [Record.known, List.forall_mem_cons] at gone
  simp [without, reset, gone]

/-- So do those for Prisma. -/
theorem without_standard (removed : String → Bool) :
    ({} : PrismaSettings).without removed = {} := by
  simp [without, reset_eq]

/-- An empty record is read as the standard section. -/
theorem read_empty : PrismaSettings.shape.read (Written.record []) = some {} :=
  read_record _ []

end PrismaSettings

namespace DrizzleSettings

/-- The fields of the Drizzle settings, with their values. -/
def values (settings : DrizzleSettings) : List (String × Written) :=
  [("module", (Value.text settings.moduleName).written)]

/-- Drizzle settings in which the fields of removed keys are standard. -/
def without (settings : DrizzleSettings) (removed : String → Bool) : DrizzleSettings :=
  let standard : DrizzleSettings := {}
  { moduleName := reset (removed "module") standard.moduleName settings.moduleName }

/-- The settings for Drizzle are read from all their values. -/
theorem read_values (settings : DrizzleSettings) :
    DrizzleSettings.shape.read (Written.record (spelled settings.values)) = some settings := by
  rw [read_spelled]
  simp [values, takeSpelled?, field?, shape, Field.of]
  rfl

/-- The standard values of the settings for Drizzle. -/
theorem isStandard :
    Record.drizzle.shape.IsStandard "module" (Value.text "drizzle-orm/pg-core").written :=
  .of rfl (Value.text_written _) fun draft unset => by
    obtain rfl : draft = none := unset
    rfl

/-- So are those for Drizzle. -/
theorem read_gapped {settings : DrizzleSettings}
    (gapped : IsGapped Record.drizzle.known removed settings.values form) :
    DrizzleSettings.shape.read form = some (settings.without removed) := by
  have fills : List.Forall₂ (Record.drizzle.shape.Fills removed) settings.values
      (settings.without removed).values :=
    .cons (fills_reset (fun value => (Value.text value).written) _ isStandard) .nil
  rw [← read_values]
  exact Record.drizzle.read_gapped gapped fills (by simp [values])

/-- So are those for Drizzle. -/
theorem without_all {settings : DrizzleSettings}
    (gone : ∀ key ∈ Record.drizzle.known, removed key = true) : settings.without removed = {} := by
  simp only [Record.known, List.forall_mem_cons] at gone
  simp [without, reset, gone]

/-- So do those for Drizzle. -/
theorem without_standard (removed : String → Bool) :
    ({} : DrizzleSettings).without removed = {} := by
  simp [without, reset_eq]

/-- An empty record is read as the standard section. -/
theorem read_empty : DrizzleSettings.shape.read (Written.record []) = some {} :=
  read_record _ []

end DrizzleSettings

namespace Settings

/-! ## The whole -/

/-- The fields of settings, with their values; the sections may be written in any way. -/
def values (settings : Settings) (sql prisma drizzle : Written) : List (String × Written) :=
  [("generator", (Value.text settings.generator).written),
    ("defaultFormat", (Value.text settings.defaultFormat.word).written),
    ("sql", sql), ("prisma", prisma), ("drizzle", drizzle)]

/-- Settings in which the fields of removed keys are standard, in the whole and in the sections. -/
def without (settings : Settings) (removed : Record → String → Bool) : Settings :=
  let standard : Settings := {}
  { generator := reset (removed .whole "generator") standard.generator settings.generator
    defaultFormat :=
      reset (removed .whole "defaultFormat") standard.defaultFormat settings.defaultFormat
    sql := reset (removed .whole "sql") standard.sql (settings.sql.without (removed .sql))
    prisma :=
      reset (removed .whole "prisma") standard.prisma (settings.prisma.without (removed .prisma))
    drizzle :=
      reset (removed .whole "drizzle") standard.drizzle
        (settings.drizzle.without (removed .drizzle)) }

/-- Says that a record holds settings but those of the removed keys, in the whole and in the
sections, in any order and among other keys. -/
def IsForm (settings : Settings) (removed : Record → String → Bool) (form : Written) : Prop :=
  ∃ sql prisma drizzle,
    IsGapped Record.sql.known (removed .sql) settings.sql.values sql ∧
    IsGapped Record.prisma.known (removed .prisma) settings.prisma.values prisma ∧
    IsGapped Record.drizzle.known (removed .drizzle) settings.drizzle.values drizzle ∧
    IsGapped Record.whole.known (removed .whole) (settings.values sql prisma drizzle) form

/-- The word of a format is read as that format. -/
theorem lookup_words (format : Format) : Format.words.lookup format.word = some format := by
  cases format <;> rfl

/-- Settings are read from all their values, if each section is. -/
theorem read_values {settings : Settings} {sql prisma drizzle : Written}
    (readSql : SqlSettings.shape.read sql = some settings.sql)
    (readPrisma : PrismaSettings.shape.read prisma = some settings.prisma)
    (readDrizzle : DrizzleSettings.shape.read drizzle = some settings.drizzle) :
    Settings.read (Written.record (spelled (settings.values sql prisma drizzle))) =
      some settings := by
  unfold read
  rw [read_spelled]
  simp [values, takeSpelled?, field?, shape, Field.of,
    Value.oneOf_written, lookup_words, readSql, readPrisma, readDrizzle]
  rfl

/-- The standard values of all settings; a section without keys is a standard one. -/
theorem isStandard_whole :
    Record.whole.shape.IsStandard "generator" (Value.text "SchemaCraft").written ∧
    Record.whole.shape.IsStandard "defaultFormat" (Value.text Format.standard.word).written ∧
    Record.whole.shape.IsStandard "sql" (.record []) ∧
    Record.whole.shape.IsStandard "prisma" (.record []) ∧
    Record.whole.shape.IsStandard "drizzle" (.record []) := by
  refine ⟨.of rfl (Value.text_written _) fun draft unset => ?_,
    .of rfl ((Value.oneOf_written _ _).trans (lookup_words _)) fun draft unset => ?_,
    .of rfl SqlSettings.read_empty fun draft unset => ?_,
    .of rfl PrismaSettings.read_empty fun draft unset => ?_,
    .of rfl DrizzleSettings.read_empty fun draft unset => ?_⟩
  all_goals simp [Record.shape, shape, unset]

/-- Where a section is removed, an empty record is read as the standard section. -/
theorem read_reset {δ α : Type} {shape : Shape Written Option δ α} {value standard : α}
    (gone : Bool) (read : shape.read form = some value)
    (empty : shape.read (.record []) = some standard) :
    shape.read (reset gone (.record []) form) = some (reset gone standard value) := by
  cases gone with
  | true => exact empty
  | false => exact read

/-- Settings with gaps are read with standard values in the gaps. -/
theorem read_form {settings : Settings} {removed : Record → String → Bool}
    (bounded : settings.prisma.fieldWidth < Numeral.wholeBound)
    (isForm : settings.IsForm removed form) :
    Settings.read form = some (settings.without removed) := by
  obtain ⟨sql, prisma, drizzle, sqlGapped, prismaGapped, drizzleGapped, gapped⟩ := isForm
  obtain ⟨generator, defaultFormat, noSql, noPrisma, noDrizzle⟩ := isStandard_whole
  have fills : List.Forall₂ (Record.whole.shape.Fills (removed .whole))
      (settings.values sql prisma drizzle)
      ((settings.without removed).values (reset (removed .whole "sql") (.record []) sql)
        (reset (removed .whole "prisma") (.record []) prisma)
        (reset (removed .whole "drizzle") (.record []) drizzle)) :=
    .cons (fills_reset (fun value => (Value.text value).written) _ generator) <|
    .cons (fills_reset (fun format : Format => (Value.text format.word).written) _ defaultFormat) <|
    .cons (fills_reset id _ noSql) <|
    .cons (fills_reset id _ noPrisma) <|
    .cons (fills_reset id _ noDrizzle) .nil
  -- What is left has no gaps, but its sections may: one that was removed is now an empty record.
  have filled := Record.whole.read_gapped gapped fills (by simp [values])
  refine filled.trans (read_values ?_ ?_ ?_)
  · exact read_reset _ (SqlSettings.read_gapped sqlGapped) SqlSettings.read_empty
  · exact read_reset _ (PrismaSettings.read_gapped bounded prismaGapped) PrismaSettings.read_empty
  · exact read_reset _ (DrizzleSettings.read_gapped drizzleGapped) DrizzleSettings.read_empty

/-! ## What is written and read again -/

/-- The JSON of settings holds them without gaps. -/
theorem isForm_toJson (settings : Settings) :
    settings.IsForm (fun _ _ => false) settings.toJson.written :=
  ⟨_, _, _, isGapped_none _ settings.sql.values, isGapped_none _ settings.prisma.values,
    isGapped_none _ settings.drizzle.values, isGapped_none _ _⟩

/-- Settings are read from their own JSON. -/
theorem read_toJson {settings : Settings}
    (bounded : settings.prisma.fieldWidth < Numeral.wholeBound) :
    Settings.read settings.toJson.written = some settings :=
  read_form bounded settings.isForm_toJson

/-- They are read from its pretty text. -/
theorem ofJson_pretty {settings : Settings}
    (bounded : settings.prisma.fieldWidth < Numeral.wholeBound) :
    Settings.ofJson settings.toJson.pretty = .ok settings :=
  ofJson_laid settings.toJson.laid_pretty (read_toJson bounded)

/-- They are read from its compact text as well. -/
theorem ofJson_compact {settings : Settings}
    (bounded : settings.prisma.fieldWidth < Numeral.wholeBound) :
    Settings.ofJson settings.toJson.compact = .ok settings :=
  ofJson_laid settings.toJson.laid_compact (read_toJson bounded)

/-- Says what is read of the JSON of settings, without gaps and with any. -/
structure ReadsGaps (settings : Settings) : Prop where
  /-- The pretty text and the compact text hold the settings. -/
  pretty : ofJson settings.toJson.pretty = .ok settings
  compact : ofJson settings.toJson.compact = .ok settings
  /-- Both are layouts of the form without gaps. -/
  whole : settings.IsForm (fun _ _ => false) settings.toJson.written ∧
    Laid settings.toJson.written.lexemes settings.toJson.pretty.toList ∧
    Laid settings.toJson.written.lexemes settings.toJson.compact.toList
  /-- Every text of a form with gaps holds the settings with standard values in the gaps. -/
  gaps : ∀ removed form (text : String), settings.IsForm removed form →
    Laid form.lexemes text.toList → ofJson text = .ok (settings.without removed)
  /-- A section that is removed, one all of whose keys are, and one that is standard are the same.
  -/
  sql : ∀ removed : Record → String → Bool, removed .whole "sql" = true ∨
    (∀ key ∈ Record.sql.known, removed .sql key = true) ∨ settings.sql = {} →
    (settings.without removed).sql = {}
  prisma : ∀ removed : Record → String → Bool, removed .whole "prisma" = true ∨
    (∀ key ∈ Record.prisma.known, removed .prisma key = true) ∨ settings.prisma = {} →
    (settings.without removed).prisma = {}
  drizzle : ∀ removed : Record → String → Bool, removed .whole "drizzle" = true ∨
    (∀ key ∈ Record.drizzle.known, removed .drizzle key = true) ∨ settings.drizzle = {} →
    (settings.without removed).drizzle = {}

/-- The JSON of settings whose width fits 64 bits is read as these settings; and whatever keys are
removed from it, whatever order the others are in and whatever unknown keys are put between them, it
is read as the settings with standard values for the removed keys. -/
theorem ofJson_gaps {settings : Settings} (bounded : settings.prisma.fieldWidth < Nat.pow 2 64) :
    settings.ReadsGaps where
  pretty := ofJson_pretty bounded
  compact := ofJson_compact bounded
  whole := ⟨settings.isForm_toJson, settings.toJson.laid_pretty, settings.toJson.laid_compact⟩
  gaps := fun removed form text isForm laid => ofJson_laid laid (read_form bounded isForm)
  sql := by
    rintro removed (gone | gone | standard)
    · exact if_pos gone
    · exact reset_eq (SqlSettings.without_all gone)
    · exact reset_eq (standard ▸ SqlSettings.without_standard _)
  prisma := by
    rintro removed (gone | gone | standard)
    · exact if_pos gone
    · exact reset_eq (PrismaSettings.without_all gone)
    · exact reset_eq (standard ▸ PrismaSettings.without_standard _)
  drizzle := by
    rintro removed (gone | gone | standard)
    · exact if_pos gone
    · exact reset_eq (DrizzleSettings.without_all gone)
    · exact reset_eq (standard ▸ DrizzleSettings.without_standard _)

/-- Settings without the section of SQL and without the width of fields, with an unknown key in
front and the keys of a section in another order. -/
theorem ofJson_gaps_schema_key :
    let settings : Settings :=
      { generator := "Acme", prisma := { urlEnv := "DB", fieldWidth := 12 } }
    ofJson (Value.record [
      ("$schema", .text "settings"),
      ("generator", .text "Acme"),
      ("defaultFormat", .text "postgresql"),
      ("prisma", .record [("urlEnv", .text "DB"), ("provider", .text "postgresql")]),
      ("drizzle", .record [("module", .text "drizzle-orm/pg-core")])]).pretty =
      .ok { settings with prisma := { settings.prisma with fieldWidth := 20 } } := by
  intro settings
  let removed : Record → String → Bool
    | .whole, key => key == "sql"
    | .prisma, key => key == "fieldWidth"
    | _, _ => false
  have reads : settings.ReadsGaps := ofJson_gaps (by decide)
  have prisma : IsGapped Record.prisma.known (removed .prisma) settings.prisma.values
      (Value.record [("urlEnv", .text "DB"), ("provider", .text "postgresql")]).written :=
    ⟨_, [], rfl, .swap _ _ _, List.forall_mem_nil _⟩
  have drizzle : IsGapped Record.drizzle.known (removed .drizzle) settings.drizzle.values
      (Value.record [("module", .text "drizzle-orm/pg-core")]).written :=
    isGapped_none _ _
  refine reads.gaps removed _ _ ⟨_, _, _, isGapped_none _ _, prisma, drizzle, ?_⟩
    (Value.laid_pretty _)
  refine ⟨_, [("$schema".toList.map Glyph.ofChar, (Value.text "settings").written)], rfl,
    @List.perm_append_comm _ [_] _, ?_⟩
  rw [List.forall_mem_singleton]
  exact ⟨"$schema", Glyph.text?_ofChars _, by decide⟩

end Settings

end SchemaPress
