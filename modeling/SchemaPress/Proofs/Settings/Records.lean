import SchemaPress.Proofs.Json.RecordGaps
import SchemaPress.Settings.Json

/-!
# The records of settings

Settings are a record with three records in it, their sections. The readings of all four agree on
nodes and on written values, and their shapes are lawful, so the laws of records hold of them.
-/

set_option autoImplicit false

namespace SchemaPress

open Document Document.Shape Json

/-! ## Readings of nodes and of written values -/

/-- The settings for SQL are read alike with places and without. -/
theorem SqlSettings.agree_read : Agree SqlSettings.shape.read SqlSettings.shape.read :=
  ShapesAgree.read {
    fields := .cons (.of _ _ _ Agree.flag) .nil
    empty := rfl
    finish := rfl }

/-- So are those for Prisma. -/
theorem PrismaSettings.agree_read : Agree PrismaSettings.shape.read PrismaSettings.shape.read :=
  ShapesAgree.read {
    fields :=
      .cons (.of _ _ _ Agree.text) <|
      .cons (.of _ _ _ Agree.text) <|
      .cons (.of _ _ _ Agree.count) .nil
    empty := rfl
    finish := rfl }

/-- So are those for Drizzle. -/
theorem DrizzleSettings.agree_read : Agree DrizzleSettings.shape.read DrizzleSettings.shape.read :=
  ShapesAgree.read {
    fields := .cons (.of _ _ _ Agree.text) .nil
    empty := rfl
    finish := rfl }

/-- So are all settings, section by section. -/
theorem Settings.agree_read : Agree Settings.read Settings.read :=
  ShapesAgree.read {
    fields :=
      .cons (.of _ _ _ Agree.text) <|
      .cons (.of _ _ _ (Agree.oneOf Format.words)) <|
      .cons (.of _ _ _ SqlSettings.agree_read) <|
      .cons (.of _ _ _ PrismaSettings.agree_read) <|
      .cons (.of _ _ _ DrizzleSettings.agree_read) .nil
    empty := rfl
    finish := rfl }

/-- A text in which a value is laid out holds the settings that the value is read as. -/
theorem Settings.ofJson_laid {written : Written} {text : String} {settings : Settings}
    (laid : Laid written.lexemes text.toList) (read : Settings.read written = some settings) :
    Settings.ofJson text = .ok settings :=
  eq_ok_of_toOption ((read_laid Settings.agree_read laid).trans read)

namespace Settings

/-! ## The four records -/

/-- A record in the text of settings: the whole of it, or one of its sections. -/
inductive Record where
  | whole
  | sql
  | prisma
  | drizzle
  deriving DecidableEq, Repr

namespace Record

/-- The names of the fields of a record. -/
def known : Record → List String
  | whole => ["generator", "defaultFormat", "sql", "prisma", "drizzle"]
  | sql => ["quoteIdentifiers"]
  | prisma => ["provider", "urlEnv", "fieldWidth"]
  | drizzle => ["module"]

/-- What a record is read as. -/
abbrev Value : Record → Type
  | whole => Settings
  | sql => SqlSettings
  | prisma => PrismaSettings
  | drizzle => DrizzleSettings

/-- A record of which some fields have been read. -/
abbrev Draft : Record → Type
  | whole => Settings.Draft
  | sql => Option Bool
  | prisma => PrismaSettings.Draft
  | drizzle => Option String

/-- The shape of a record. -/
def shape : (record : Record) → Shape Written Option record.Draft record.Value
  | whole => Settings.shape
  | sql => SqlSettings.shape
  | prisma => PrismaSettings.shape
  | drizzle => DrizzleSettings.shape

/-- The fields of a record are among its known keys. -/
theorem names_subset (record : Record) : record.shape.fields.map (·.name) ⊆ record.known := by
  cases record <;> exact List.Subset.refl _

/-- The fields of every record have different names and are kept apart in its drafts. -/
theorem lawful (record : Record) : record.shape.Lawful where
  names := by cases record <;> decide
  blank := by
    cases record <;>
      simp [shape, Settings.shape, SqlSettings.shape, PrismaSettings.shape, DrizzleSettings.shape,
        Field.of]
  -- Each field has a part of the draft to itself, as in the records of a schema.
  sets := by
    cases record <;>
      simp only [shape, Settings.shape, SqlSettings.shape, PrismaSettings.shape,
        DrizzleSettings.shape, List.forall_mem_cons] <;>
      and_intros
    all_goals first
      | exact Field.isSet_of_read fun _ _ => rfl
      | exact fun _ mem => absurd mem List.not_mem_nil
  apart := by
    cases record <;>
      simp only [shape, Settings.shape, SqlSettings.shape, PrismaSettings.shape,
        DrizzleSettings.shape, List.pairwise_cons, List.forall_mem_cons] <;>
      and_intros
    all_goals first
      | exact Field.Apart.of (fun _ _ => rfl) (fun _ _ => rfl) (fun _ _ _ => rfl)
      | exact fun _ mem => absurd mem List.not_mem_nil
      | exact List.Pairwise.nil

/-- A record with gaps is read as if they had been filled. -/
theorem read_gapped (record : Record) {removed : String → Bool}
    {values filled : List (String × Written)} {form : Written}
    (gapped : IsGapped record.known removed values form)
    (fills : List.Forall₂ (record.shape.Fills removed) values filled)
    (distinct : (values.map Prod.fst).Nodup) :
    record.shape.read form = record.shape.read (.record (spelled filled)) :=
  record.lawful.read_gapped record.names_subset gapped fills distinct

end Record

end Settings

end SchemaPress
