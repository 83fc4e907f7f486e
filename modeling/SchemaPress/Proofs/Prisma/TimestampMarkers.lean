import SchemaPress.Proofs.Drizzle.Calls
import SchemaPress.Proofs.Prisma.Existence
import SchemaPress.Proofs.Schema.TakingRoles
import SchemaPress.Proofs.Text.Cutting

/-!
# Which fields are marked with a time

A field keeps a time by itself if `@default(now())` or `@updatedAt` is a word of its text. These
words are there just for the attributes that they write (`mem_words_text_iff`), and in an exported
file the attributes come from the names and the defaults of the columns, never from their types. So
a column named `created_at` that counts something is marked as well (`marked_beside_int`), and all
marked fields hold times exactly if the columns with these names and a default are of a type that
does (`marked_by_name`). Drizzle looks at the type itself.
-/

set_option autoImplicit false

namespace SchemaPress.Prisma

/-- The words of a text, between its blanks. -/
def words (text : String) : List String :=
  (Text.cutAt ' ' text.toList).map String.ofList

/-! ## The words of a field -/

/-- At a blank the words of a text are those before and those behind. -/
theorem words_append (front back : String) :
    words (front ++ " " ++ back) = words front ++ words back := by
  have layout : (front ++ " " ++ back).toList = front.toList ++ ' ' :: back.toList := by simp
  rw [words, layout, Text.cutAt_append, List.map_append]
  rfl

/-- A text without blanks is one word. -/
theorem words_eq_single {text : String} (whole : ' ' ∉ text.toList) : words text = [text] := by
  rw [words, Text.cutAt_eq_single whole]
  simp

/-- Texts with a blank before each of them bring their own words. -/
theorem words_append_concatenated (front : String) (texts : List String) :
    words (front ++ Text.concatenated (texts.map fun text => " " ++ text)) =
      words front ++ texts.flatMap words := by
  induction texts generalizing front with
  | nil => simp [Text.concatenated]
  | cons text texts ih =>
    have split : front ++ Text.concatenated ((text :: texts).map fun text => " " ++ text) =
        front ++ " " ++ (text ++ Text.concatenated (texts.map fun text => " " ++ text)) := by
      simp only [List.map_cons, Text.concatenated, String.append_assoc]
    rw [split, words_append, ih, List.flatMap_cons]

namespace Attribute

/-- The text of an attribute for a decimal type is two words. -/
theorem words_decimal (precision scale : Nat) :
    words (Attribute.decimal precision scale).text =
      ["@db.Decimal(" ++ toString precision ++ ",", toString scale ++ ")"] := by
  have split : (Attribute.decimal precision scale).text =
      ("@db.Decimal(" ++ toString precision ++ ",") ++ " " ++ (toString scale ++ ")") := by
    show "@db.Decimal(" ++ toString precision ++ ", " ++ toString scale ++ ")" = _
    have comma : ", " = "," ++ " " := by decide
    simp only [comma, String.append_assoc]
  have front : ' ' ∉ ("@db.Decimal(" ++ toString precision ++ ",").toList := by
    simp [Text.not_mem_numeral]
  have back : ' ' ∉ (toString scale ++ ")").toList := by
    simp [Text.not_mem_numeral]
  rw [split, words_append, words_eq_single front, words_eq_single back, List.singleton_append]

/-- Any other attribute is one word. -/
theorem words_text {mark : Attribute} (single : ∀ p s, mark ≠ .decimal p s) :
    words mark.text = [mark.text] := by
  apply words_eq_single
  cases mark with
  | decimal p s => exact absurd rfl (single p s)
  | varChar n =>
    show ' ' ∉ ("@db.VarChar(" ++ toString n ++ ")").toList
    simp [Text.not_mem_numeral]
  | _ => decide

/-- Every attribute begins with the same sign. -/
theorem head?_text (mark : Attribute) : mark.text.toList.head? = some '@' := by
  cases mark with
  | varChar n =>
    show ("@db.VarChar(" ++ toString n ++ ")").toList.head? = some '@'
    rw [String.append_assoc, String.toList_append]
    rfl
  | decimal p s =>
    show ("@db.Decimal(" ++ toString p ++ ", " ++ toString s ++ ")").toList.head? = some '@'
    simp only [String.append_assoc, String.toList_append]
    rfl
  | _ => rfl

/-- An attribute that is one word is a word of no other attribute. -/
theorem mem_words_iff {mark other : Attribute} (single : ∀ p s, mark ≠ .decimal p s) :
    mark.text ∈ words other.text ↔ mark = other := by
  by_cases pair : ∃ p s, other = .decimal p s
  · obtain ⟨p, s, rfl⟩ := pair
    have notFront : mark.text ≠ "@db.Decimal(" ++ toString p ++ "," := by
      intro same
      have fifths : mark.fifth = some 'D' := by
        rw [← fifth_text, same, String.append_assoc, String.toList_append]
        rfl
      cases mark with
      | decimal p s => exact single p s rfl
      | _ => cases fifths
    have notBack : mark.text ≠ toString s ++ ")" := by
      intro same
      have inside : '@' ∈ (toString s ++ ")").toList := by
        rw [← same]
        exact List.mem_of_mem_head? (head?_text mark)
      simp [Text.not_mem_numeral] at inside
    rw [words_decimal, List.mem_cons, List.mem_singleton]
    exact iff_of_false (not_or.mpr ⟨notFront, notBack⟩) (single p s)
  · rw [not_exists] at pair
    have alone : ∀ p s, other ≠ .decimal p s := fun p s same => pair p ⟨s, same⟩
    rw [words_text alone, List.mem_singleton]
    exact text_injective.eq_iff

end Attribute

namespace Field

variable (field : Field)

/-- The word for the type of a field. -/
def typeWord : String :=
  field.scalar.word ++ if field.optional then "?" else ""

/-- The words of a field are its type and the words of its attributes. -/
theorem words_text :
    words field.text = field.typeWord :: field.attributes.flatMap fun mark => words mark.text := by
  have whole : ' ' ∉ field.typeWord.toList := by
    unfold typeWord
    cases field.scalar <;> cases field.optional <;> decide
  have split : field.text = field.typeWord ++
      Text.concatenated ((field.attributes.map Attribute.text).map fun text => " " ++ text) := by
    rw [List.map_map]
    rfl
  rw [split, words_append_concatenated, words_eq_single whole, List.flatMap_map,
    List.singleton_append]

/-- An attribute of one word is a word of the text of a field exactly if the field has it. -/
theorem mem_words_text_iff {mark : Attribute} (single : ∀ p s, mark ≠ .decimal p s) :
    mark.text ∈ words field.text ↔ mark ∈ field.attributes := by
  have notType : mark.text ≠ field.typeWord := by
    intro same
    have first := mark.head?_text
    rw [same] at first
    revert first
    unfold typeWord
    cases field.scalar <;> cases field.optional <;> decide
  rw [words_text, List.mem_cons, or_iff_right notType, List.mem_flatMap]
  constructor
  · rintro ⟨other, member, word⟩
    rw [(Attribute.mem_words_iff single).mp word]
    exact member
  · intro member
    exact ⟨mark, member, (Attribute.mem_words_iff single).mpr rfl⟩

/-- Under the scalars, just that for times is a `DateTime`. -/
theorem typeWord_isTime_iff :
    field.typeWord ∈ ["DateTime", "DateTime?"] ↔ field.scalar = .dateTime := by
  unfold typeWord
  cases field.scalar <;> cases field.optional <;> decide

end Field

/-- Two base types have the scalar of times. -/
theorem Scalar.ofBase_eq_dateTime_iff (base : String) :
    Scalar.ofBase base = .dateTime ↔ base = "TIMESTAMP" ∨ base = "DATE" := by
  constructor
  · intro time
    have found : table.lookup base = some .dateTime := by
      unfold ofBase at time
      cases known : table.lookup base with
      | none =>
        rw [known] at time
        cases time
      | some scalar =>
        rw [known] at time
        rw [show scalar = .dateTime from time]
    obtain ⟨front, back, split, -⟩ := List.lookup_eq_some_iff.mp found
    have member : (base, Scalar.dateTime) ∈ table := by simp [split]
    simpa [table] using member
  · rintro (rfl | rfl) <;> decide

/-! ## Marked fields -/

/-- Says that the database makes up the default of a column. -/
def IsMade (column : Column) : Prop :=
  column.type.base = "SERIAL" ∨ column.type.base = "UUID" ∧ column.primaryKey = true

/-- No default is made up unless the column is one whose values are made. -/
theorem madeDefault?_eq_none_iff (column : Column) :
    Field.madeDefault? column = none ↔ ¬ IsMade column := by
  unfold Field.madeDefault? IsMade
  split
  · rename_i key
    simp_all
  · rename_i notKey
    by_cases serial : column.type.base = "SERIAL" <;> simp_all

/-- Says that the words of a field mark it with a time. -/
def IsMarked (words : List String) : Prop :=
  "@default(now())" ∈ words ∨ "@updatedAt" ∈ words

/-- Says that the first of the words of a field is the type of times. -/
def HoldsTime (words : List String) : Prop :=
  ∃ word ∈ words.head?, word ∈ ["DateTime", "DateTime?"]

/-- Says that a column is due to be marked by its name: it takes a role from its name, and for a
time of creation the database makes up no other default. -/
def IsDue (column : Column) : Prop :=
  (column.Takes .onCreate ∧ ¬ IsMade column) ∨ column.Takes .onUpdate

/-- Says that the words of a field mark it by the name and the default of its column, whatever type
the field has. -/
structure MarkedByName (column : Column) (words : List String) : Prop where
  now : "@default(now())" ∈ words ↔ column.Takes .onCreate ∧ ¬ IsMade column
  updatedAt : "@updatedAt" ∈ words ↔ column.Takes .onUpdate
  time : HoldsTime words ↔ column.type.base = "TIMESTAMP" ∨ column.type.base = "DATE"

/-- A field has a marker exactly if its column is due one. -/
theorem MarkedByName.isMarked_iff {column : Column} {words : List String}
    (byName : MarkedByName column words) : IsMarked words ↔ IsDue column :=
  or_congr byName.now byName.updatedAt

/-- A column without a role of its own is marked by its name. -/
theorem markedByName (provider : String) {column : Column} (untagged : column.timestamp = none) :
    MarkedByName column
      (words (Field.ofColumn provider column.withTimestampByName).text) := by
  have role (given : TimestampRole) :
      column.withTimestampByName.timestamp = some given ↔ column.Takes given := by
    rw [column.timestamp_withTimestampByName, untagged]
    simp
  have made : Field.madeDefault? column.withTimestampByName = Field.madeDefault? column := by
    rw [column.withTimestampByName_eq]
    rfl
  have written (mark : Attribute) (single : ∀ p s, mark ≠ .decimal p s) :
      mark.text ∈ words (Field.ofColumn provider column.withTimestampByName).text ↔
        Field.IsGiven provider column.withTimestampByName mark :=
    (Field.mem_words_text_iff _ single).trans Field.mem_attributes
  constructor
  case now =>
    rw [← madeDefault?_eq_none_iff, ← role, ← made, ← Field.timestamp?_eq_defaultNow_iff]
    exact written .defaultNow fun _ _ => nofun
  case updatedAt =>
    rw [← role, ← Field.timestamp?_eq_updatedAt_iff]
    exact written .updatedAt fun _ _ => nofun
  case time =>
    have scalar : (Field.ofColumn provider column.withTimestampByName).scalar =
        Scalar.ofBase column.type.base := by
      rw [column.withTimestampByName_eq, Field.ofColumn]
    rw [HoldsTime, Field.words_text, List.head?_cons, ← Scalar.ofBase_eq_dateTime_iff, ← scalar,
      ← Field.typeWord_isTime_iff]
    simp

/-- Under all settings with a field width that is not too large, in the Prisma file exported from a
schema without roles of its own, the markers of times stand on the fields of just those columns that
are due by name and default. So all marked fields hold times exactly if all these columns are of a
type for times. A Drizzle module calls for the current time only in columns of such a type. -/
theorem marked_by_name {settings : Settings} {schema : Schema}
    (narrow : settings.prisma.fieldWidth ≤ 65535)
    (untagged : ∀ table ∈ schema.tables, ∀ column ∈ table.columns, column.timestamp = none) :
    let text (column : Column) : String :=
      (Field.ofColumn settings.prisma.provider column.withTimestampByName).text
    (schema.exportAs settings .prisma).map Export.text =
      .ok (fileOf settings schema.tables fun column =>
        "  " ++ Text.padRight settings.prisma.fieldWidth column.name ++ " " ++ text column) ∧
    (∀ table ∈ schema.tables, ∀ column ∈ table.columns,
      MarkedByName column (words (text column))) ∧
    ((∀ table ∈ schema.tables, ∀ column ∈ table.columns,
        IsMarked (words (text column)) → HoldsTime (words (text column))) ↔
      ∀ table ∈ schema.tables, ∀ column ∈ table.columns,
        IsDue column → column.type.base = "TIMESTAMP" ∨ column.type.base = "DATE") ∧
    (schema.exportAs settings .drizzle).map Export.text =
      .ok (Drizzle.moduleText settings schema) ∧
    ∀ column : Column,
      ".defaultNow()" ∈ (Drizzle.Chain.ofColumn column).calls.map Drizzle.Call.code →
      column.type.base = "TIMESTAMP" := by
  intro text
  have byName : ∀ table ∈ schema.tables, ∀ column ∈ table.columns,
      MarkedByName column (words (text column)) :=
    fun table here column there =>
      markedByName settings.prisma.provider (untagged table here column there)
  refine ⟨?file, byName, ?times, ?module, fun column call => ?call⟩
  case file =>
    have lines (column : Column) :
        fieldLine? settings column = some (fieldLine settings column) := by
      rw [fieldLine?_eq, if_pos (show settings.prisma.fieldWidth ≤ Naming.maxWidth from narrow)]
    have grown : fieldLine settings ∘ Column.withTimestampByName = fun column =>
        "  " ++ Text.padRight settings.prisma.fieldWidth column.name ++ " " ++ text column := by
      funext column
      rw [Function.comp_apply, fieldLine, column.name_withTimestampByName]
    have rendered : Target.prisma.render settings schema.withTimestampsByName =
        .ok (fileOf settings schema.withTimestampsByName.tables (fieldLine settings)) := by
      rw [Target.render, file?_eq_fileOf lines]
    rw [← grown, ← fileOf_withTimestampsByName, ← rendered]
    exact schema.exportAs_text settings .prisma
  case times =>
    constructor
    · intro held table here column there due
      have marks := byName table here column there
      exact marks.time.mp (held table here column there (marks.isMarked_iff.mpr due))
    · intro typed table here column there marked
      have marks := byName table here column there
      exact marks.time.mpr (typed table here column there (marks.isMarked_iff.mp marked))
  case module =>
    rw [schema.exportAs_text settings .drizzle]
    exact congrArg Except.ok (Drizzle.moduleText_withTimestampsByName settings schema)
  case call =>
    exact ((Drizzle.Chain.isChainOf_calls column).now.mp call).1

/-- A time of creation is marked where it has a default, and a time without one is not. -/
theorem marked_by_name_orders :
    let created : Column :=
      { name := "created_at", type := ⟨"timestamp (6)"⟩, default := some "NOW()" }
    let updated : Column := { name := "updated_at", type := ⟨"TIMESTAMP"⟩ }
    let schema : Schema :=
      { name := "shop", tables := [{ name := "orders", columns := [created, updated] }] }
    let text (column : Column) : String :=
      (Field.ofColumn "postgresql" column.withTimestampByName).text
    text created = "DateTime? @default(now())" ∧ text updated = "DateTime?" ∧
    (({} : Settings).prisma.fieldWidth ≤ 65535) ∧
    (∀ table ∈ schema.tables, ∀ column ∈ table.columns, column.timestamp = none) ∧
    ∀ table ∈ schema.tables, ∀ column ∈ table.columns,
      IsMarked (words (text column)) → HoldsTime (words (text column)) := by
  intro created updated schema text
  have narrow : ({} : Settings).prisma.fieldWidth ≤ 65535 := by decide
  have untagged : ∀ table ∈ schema.tables, ∀ column ∈ table.columns, column.timestamp = none := by
    decide
  have typed : ∀ table ∈ schema.tables, ∀ column ∈ table.columns,
      column.type.base = "TIMESTAMP" ∨ column.type.base = "DATE" := by
    decide +kernel
  have written : text created = "DateTime? @default(now())" ∧ text updated = "DateTime?" := by
    decide +kernel
  exact ⟨written.1, written.2, narrow, untagged, (marked_by_name narrow untagged).2.2.1.mpr
    fun table here column there _ => typed table here column there⟩

/-- A column that counts something is marked with a time if it is named for one. -/
theorem marked_beside_int :
    let created : Column := { name := "created_at", type := ⟨"INT"⟩, default := some "0" }
    let schema : Schema :=
      { name := "shop", tables := [{ name := "orders", columns := [created] }] }
    let text := (Field.ofColumn "postgresql" created.withTimestampByName).text
    created.timestamp = none ∧
    (schema.exportAs {} .prisma).map Export.text = .ok (Text.joined "\n" (preamble {} ++
      ["model Orders \x7b", "  created_at           Int? @default(now())", "\x7d", ""])) ∧
    text = "Int? @default(now())" ∧ IsMarked (words text) ∧ ¬ HoldsTime (words text) := by
  intro created schema text
  have written : text = "Int? @default(now())" := by decide +kernel
  have parts : words text = ["Int?", "@default(now())"] := by
    rw [written]
    decide +kernel
  have exported : (schema.exportAs {} .prisma).map Export.text =
      .ok (Text.joined "\n" (preamble {} ++
        ["model Orders \x7b", "  created_at           Int? @default(now())", "\x7d", ""])) := by
    decide +kernel
  refine ⟨rfl, exported, written, ?_, ?_⟩
  · simp [IsMarked, parts]
  · simp [HoldsTime, parts]

end SchemaPress.Prisma
