import SchemaPress.Proofs.Prisma.Existence
import SchemaPress.Proofs.Text.Joining

/-!
# Every schema can be exported

Whatever a schema holds, it is written in every format, and what is written is not empty. The only
exception is known beforehand: a Prisma file cannot be written under a field width above the
greatest one if some table has a column. An export by name fails besides where no format has the
name, and then the failure carries the name (`exportAs_total`).
-/

set_option autoImplicit false

namespace SchemaPress

/-- A script has its header at least. -/
theorem Sql.script_ne_empty (style : Style) (schema : Schema) : script style schema ≠ "" := by
  refine Text.joined_ne_empty ?_ _
  intro empty
  have hyphens := (String.append_eq_empty_iff.mp empty).1
  exact absurd hyphens (by decide)

/-- A module has its imports at least. -/
theorem Drizzle.moduleText_ne_empty (settings : Settings) (schema : Schema) :
    moduleText settings schema ≠ "" := by
  refine Text.joined_ne_empty ?_ _
  intro empty
  have slashes := (String.append_eq_empty_iff.mp empty).1
  exact absurd slashes (by decide)

/-- The canonical form is a record, so it is not empty. -/
theorem Schema.canonical_ne_empty (schema : Schema) : schema.canonical ≠ "" := by
  have opened : schema.canonical.toList.head? = some '\x7b' := by
    obtain ⟨name, _, _, _, _⟩ := schema
    simp [Schema.canonical, Schema.toJson, Json.Value.pretty, Json.Value.prettyAt,
      Json.Value.bracketed, Json.Value.prettyMembers]
  intro empty
  rw [empty] at opened
  cases opened

/-- Says that a Prisma file cannot be written: the field width is too large, and there is a field to
be padded. -/
def Schema.IsTooWide (settings : Settings) (schema : Schema) : Prop :=
  65535 < settings.prisma.fieldWidth ∧ ∃ table ∈ schema.tables, table.columns ≠ []

instance (settings : Settings) (schema : Schema) : Decidable (schema.IsTooWide settings) :=
  inferInstanceAs (Decidable (65535 < settings.prisma.fieldWidth ∧
    ∃ table ∈ schema.tables, table.columns ≠ []))

/-- There is a Prisma file, and it is not empty, unless the schema is too wide. -/
theorem Prisma.file?_eq (settings : Settings) (schema : Schema) :
    (schema.IsTooWide settings ∧ file? settings schema = none) ∨
      (¬ schema.IsTooWide settings ∧ ∃ text, file? settings schema = some text ∧ text ≠ "") := by
  have reached : (settings.prisma.fieldWidth ≤ Naming.maxWidth ∨
      ∀ table ∈ schema.tables, table.columns = []) ↔ ¬ schema.IsTooWide settings := by
    rw [Schema.IsTooWide, not_and_or, Nat.not_lt, not_exists]
    simp only [not_and, not_not]
    exact Iff.rfl
  rw [file?, lines?_eq]
  by_cases wide : schema.IsTooWide settings
  · rw [if_neg (mt reached.mp (not_not_intro wide))]
    exact .inl ⟨wide, rfl⟩
  · rw [if_pos (reached.mpr wide)]
    refine .inr ⟨wide, _, rfl, Text.joined_ne_empty ?_ _⟩
    intro empty
    have slashes := (String.append_eq_empty_iff.mp empty).1
    exact absurd slashes (by decide)

namespace Schema

/-- Giving columns the roles of their names takes no column away. -/
theorem isTooWide_prepared (settings : Settings) (schema : Schema) (format : Format) :
    (schema.prepared format).IsTooWide settings ↔ schema.IsTooWide settings := by
  unfold prepared
  split
  · exact Iff.rfl
  · unfold IsTooWide withTimestampsByName
    simp only [List.mem_map, exists_exists_and_eq_and, Table.withTimestampsByName, ne_eq,
      List.map_eq_nil_iff]

/-- What is rendered is exported with its lines counted, under the label of its format. -/
theorem exportAs_of_render {settings : Settings} {schema : Schema} {format : Format} {text : String}
    (rendered : (Target.ofFormat format).render settings (schema.prepared format) = .ok text) :
    schema.exportAs settings format =
      .ok { format, text, lineCount := Text.lineCount text, label := format.label } := by
  rw [exportAs, rendered]
  rfl

/-- Says that a schema is exported in a format as some text that is not empty. -/
def IsExported (settings : Settings) (schema : Schema) (format : Format) : Prop :=
  ∃ result, schema.exportAs settings format = .ok result ∧ result.format = format ∧
    result.text ≠ ""

/-- A schema that is too wide for a Prisma file is refused as one, and any other is exported. -/
theorem exportAs_prisma (settings : Settings) (schema : Schema) :
    if schema.IsTooWide settings then
      schema.exportAs settings .prisma = .error (.fieldTooWide settings.prisma.fieldWidth)
    else schema.IsExported settings .prisma := by
  have roles := isTooWide_prepared settings schema .prisma
  rcases Prisma.file?_eq settings (schema.prepared .prisma) with ⟨wide, file⟩ | ⟨narrow, file⟩
  · rw [if_pos (roles.mp wide)]
    have rendered : (Target.ofFormat .prisma).render settings (schema.prepared .prisma) =
        .error (.fieldTooWide settings.prisma.fieldWidth) := by
      rw [Target.ofFormat, Target.render, file]
    rw [exportAs, rendered]
    rfl
  · rw [if_neg (mt roles.mpr narrow)]
    obtain ⟨text, made, some⟩ := file
    have rendered : (Target.ofFormat .prisma).render settings (schema.prepared .prisma) =
        .ok text := by
      rw [Target.ofFormat, Target.render, made]
    exact ⟨_, exportAs_of_render rendered, rfl, some⟩

/-- In the other formats every schema is exported. -/
theorem isExported_of_ne_prisma (settings : Settings) (schema : Schema) {format : Format}
    (other : format ≠ .prisma) : schema.IsExported settings format := by
  cases format with
  | prisma => exact absurd rfl other
  | postgresql => exact ⟨_, exportAs_of_render rfl, rfl, Sql.script_ne_empty _ _⟩
  | mysql => exact ⟨_, exportAs_of_render rfl, rfl, Sql.script_ne_empty _ _⟩
  | drizzle => exact ⟨_, exportAs_of_render rfl, rfl, Drizzle.moduleText_ne_empty _ _⟩
  | json => exact ⟨_, exportAs_of_render rfl, rfl, canonical_ne_empty _⟩

/-- Every schema is exported in every format under all settings, and its text is not empty. Only for
a Prisma file a field width above 65535 is refused, if some table has a column. By name a schema is
exported in the format of that name, and an unknown name is refused as it was given. -/
theorem exportAs_total (settings : Settings) (schema : Schema) :
    (∀ format,
      if format = .prisma ∧ 65535 < settings.prisma.fieldWidth ∧
          ∃ table ∈ schema.tables, table.columns ≠ [] then
        schema.exportAs settings format = .error (.fieldTooWide settings.prisma.fieldWidth)
      else ∃ result, schema.exportAs settings format = .ok result ∧ result.format = format ∧
        result.text ≠ "") ∧
    ∀ name,
      (∀ given, schema.exportByName settings name = .error (.unsupportedFormat given) ↔
        Format.ofName? name = none ∧ given = name) ∧
      ∀ format, Format.ofName? name = some format →
        schema.exportByName settings name = schema.exportAs settings format := by
  have total (format : Format) :
      if format = .prisma ∧ schema.IsTooWide settings then
        schema.exportAs settings format = .error (.fieldTooWide settings.prisma.fieldWidth)
      else schema.IsExported settings format := by
    by_cases prisma : format = .prisma
    · subst prisma
      simpa only [true_and] using exportAs_prisma settings schema
    · rw [if_neg fun both => prisma both.1]
      exact isExported_of_ne_prisma settings schema prisma
  refine ⟨total, fun name => ?_⟩
  unfold exportByName
  cases known : Format.ofName? name with
  | none =>
    refine ⟨fun given => ?_, fun format other => by cases other⟩
    simp [eq_comm]
  | some format =>
    refine ⟨fun given => ?_, fun other same => by rw [Option.some.inj same]⟩
    have fits := total format
    split at fits
    · simp [fits]
    · obtain ⟨result, made, -⟩ := fits
      simp [made]

/-- A width just above the greatest one is refused, unless no table has a column. -/
theorem exportAs_total_wide :
    let settings : Settings := { prisma := { fieldWidth := 65536 } }
    let shop (columns : List Column) : Schema :=
      { name := "shop", tables := [{ name := "orders", columns }] }
    let overflowing : Column := { name := "code", type := ⟨"VARCHAR(99999999999)"⟩ }
    (shop [overflowing]).exportAs settings .prisma = .error (.fieldTooWide 65536) ∧
    (∃ result, (shop []).exportAs settings .prisma = .ok result ∧ result.format = .prisma ∧
      result.text ≠ "") ∧
    Format.ofName? " Prisma-Style " = some .prisma ∧
    (shop [overflowing]).exportByName settings " Prisma-Style " =
      (shop [overflowing]).exportAs settings .prisma ∧
    (shop []).exportByName settings "prism" = .error (.unsupportedFormat "prism") := by
  intro settings shop overflowing
  have known : Format.ofName? " Prisma-Style " = some .prisma := by decide +kernel
  have unknown : Format.ofName? "prism" = none := by decide +kernel
  have wide := (exportAs_total settings (shop [overflowing])).1 .prisma
  have narrow := (exportAs_total settings (shop [])).1 .prisma
  rw [if_pos (by decide)] at wide
  rw [if_neg (by decide)] at narrow
  exact ⟨wide, narrow, known, ((exportAs_total settings (shop [overflowing])).2 _).2 _ known,
    (((exportAs_total settings (shop [])).2 "prism").1 "prism").mpr ⟨unknown, rfl⟩⟩

end Schema

end SchemaPress
