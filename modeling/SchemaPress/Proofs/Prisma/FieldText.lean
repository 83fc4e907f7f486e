import SchemaPress.Proofs.Prisma.Attributes
import SchemaPress.Proofs.Schema.ParameterGrammar

/-!
# The text of a field

The text of a field is made of seven parts in a fixed order. Each of them is one of a few words or
is missing, and the only part that is not a fixed word has numerals of 32 bits in it
(`Parts.WellFormed`). So whatever a column holds, its text gets no further into the field than by
the choice of these words and by those numerals, and its name, its default and its description do
not get into it at all (`fieldText_wellFormed`). The words say what the type tag, the flags and the
role of the column say (`Parts.Describes`).
-/

set_option autoImplicit false

namespace SchemaPress.Prisma

/-- The parts of the text of a field in the order in which they are written. An attribute has the
blank before it, and a part that is missing is empty. -/
structure Parts where
  scalar : String
  optional : String
  key : String
  made : String
  unique : String
  native : String
  role : String

/-- Says that a part is an attribute for a native type. -/
inductive IsNativeType : String → Prop where
  | varChar (n : Nat) (fits : n < 2 ^ 32) : IsNativeType (" @db.VarChar(" ++ toString n ++ ")")
  | decimal (p s : Nat) (fits : p < 2 ^ 32) (fits' : s < 2 ^ 32) :
    IsNativeType (" @db.Decimal(" ++ toString p ++ ", " ++ toString s ++ ")")

namespace Parts

/-- The parts one behind another. -/
def text (parts : Parts) : String :=
  parts.scalar ++ parts.optional ++ parts.key ++ parts.made ++ parts.unique ++ parts.native
    ++ parts.role

/-- Says that parts make a field under a provider: each is one of its words or missing, and they go
together. -/
structure WellFormed (provider : String) (parts : Parts) : Prop where
  scalar : parts.scalar ∈ ["String", "Int", "Boolean", "DateTime", "Decimal", "Json"]
  optional : parts.optional ∈ ["", "?"]
  key : parts.key ∈ ["", " @id"]
  made : parts.made ∈ ["", " @default(uuid())", " @default(autoincrement())"]
  unique : parts.unique ∈ ["", " @unique"]
  native : parts.native = "" ∨ IsNativeType parts.native
  role : parts.role ∈ ["", " @default(now())", " @updatedAt"]
  oneDefault : parts.made = "" ∨ parts.role ≠ " @default(now())"
  keyAlone : parts.key = "" ∨ parts.optional = "" ∧ parts.unique = ""
  uuidKey : parts.made = " @default(uuid())" → parts.key = " @id"
  plain : provider = "sqlite" ∨ provider = "mongodb" → parts.native = ""

/-- Says that parts say of a column what they are there to say under a provider. -/
structure Describes (provider : String) (column : Column) (parts : Parts) : Prop where
  scalar : parts.scalar = (Scalar.ofBase column.type.base).word
  optional : parts.optional = "?" ↔ column.nullable = true ∧ column.primaryKey = false
  key : parts.key = " @id" ↔ column.primaryKey = true
  uuid : parts.made = " @default(uuid())" ↔
    column.type.base = "UUID" ∧ column.primaryKey = true
  autoincrement : parts.made = " @default(autoincrement())" ↔ column.type.base = "SERIAL"
  unique : parts.unique = " @unique" ↔ column.unique = true ∧ column.primaryKey = false
  varChar : ∀ n, parts.native = " @db.VarChar(" ++ toString n ++ ")" ↔
    provider ∉ ["sqlite", "mongodb"] ∧ column.type.base = "VARCHAR" ∧ column.type.length? = some n
  decimal : ∀ p s, parts.native = " @db.Decimal(" ++ toString p ++ ", " ++ toString s ++ ")" ↔
    provider ∉ ["sqlite", "mongodb"] ∧ column.type.base = "DECIMAL" ∧
      column.type.precisionScale? = some (p, s)
  now : parts.role = " @default(now())" ↔
    column.timestamp = some .onCreate ∧ parts.made = ""
  updatedAt : parts.role = " @updatedAt" ↔ column.timestamp = some .onUpdate

end Parts

namespace Field

/-- The part of an attribute that may be missing. -/
def part (mark : Option Attribute) : String :=
  mark.elim "" fun mark => " " ++ mark.text

/-- The parts of the field of a column. -/
def partsOf (provider : String) (column : Column) : Parts where
  scalar := (Scalar.ofBase column.type.base).word
  optional := if column.isOptional then "?" else ""
  key := if column.primaryKey then " @id" else ""
  made := part (madeDefault? column)
  unique := if column.needsUnique then " @unique" else ""
  native := part (nativeType? provider column.type)
  role := part (timestamp? column)

/-- The text of a field is made of its parts. -/
theorem text_eq_parts (provider : String) (column : Column) :
    (ofColumn provider column).text = (partsOf provider column).text := by
  have single (mark : Option Attribute) :
      Text.concatenated (mark.toList.map fun mark => " " ++ mark.text) = part mark := by
    cases mark with
    | none => rfl
    | some mark => simp [Text.concatenated, part]
  have flag (given : Bool) (mark : Attribute) :
      Text.concatenated ((if given then [mark] else []).map fun mark => " " ++ mark.text) =
        if given then " " ++ mark.text else "" := by
    cases given <;> simp [Text.concatenated]
  simp only [text, ofColumn, List.map_append, Text.concatenated_append, single, flag,
    Parts.text, partsOf, String.append_assoc]
  rfl

/-- An attribute is known from the part that it makes. -/
theorem part_eq_iff {mark : Option Attribute} {other : Attribute} :
    part mark = " " ++ other.text ↔ mark = some other := by
  cases mark with
  | none =>
    refine ⟨fun same => ?_, fun same => by cases same⟩
    exact absurd (String.append_eq_empty_iff.mp same.symm).1 (by decide)
  | some mark =>
    rw [Option.some.injEq, part, Option.elim_some, String.append_right_inj]
    exact ⟨fun same => Attribute.text_injective same, fun same => by rw [same]⟩

/-- A native type with a length. -/
theorem part_varChar (n : Nat) :
    " " ++ (Attribute.varChar n).text = " @db.VarChar(" ++ toString n ++ ")" := by
  show " " ++ ("@db.VarChar(" ++ toString n ++ ")") = _
  rw [← String.append_assoc, ← String.append_assoc]
  rfl

/-- A native type with a precision and a scale. -/
theorem part_decimal (p s : Nat) : " " ++ (Attribute.decimal p s).text =
    " @db.Decimal(" ++ toString p ++ ", " ++ toString s ++ ")" := by
  show " " ++ ("@db.Decimal(" ++ toString p ++ ", " ++ toString s ++ ")") = _
  rw [← String.append_assoc, ← String.append_assoc, ← String.append_assoc, ← String.append_assoc]
  rfl

/-- What the default that the database makes up is written as. -/
theorem part_madeDefault? (column : Column) :
    part (madeDefault? column) =
      if column.type.base = "UUID" ∧ column.primaryKey = true then " @default(uuid())"
      else if column.type.base = "SERIAL" then " @default(autoincrement())"
      else "" := by
  unfold madeDefault?
  simp only [Bool.and_eq_true, decide_eq_true_eq]
  split
  · rfl
  · split <;> rfl

/-- A role is written as nothing, as an update, or as a default where there is no other one. -/
theorem part_timestamp? (column : Column) :
    part (timestamp? column) = "" ∨ part (timestamp? column) = " @updatedAt" ∨
      part (timestamp? column) = " @default(now())" ∧ part (madeDefault? column) = "" := by
  unfold timestamp?
  split
  · split
    · rename_i made
      refine .inr (.inr ⟨rfl, ?_⟩)
      rw [Option.isNone_iff_eq_none.mp made]
      rfl
    · exact .inl rfl
  · exact .inr (.inl rfl)
  · exact .inl rfl

/-- A native type is written as nothing, or as one that the provider has. -/
theorem part_nativeType? (provider : String) (tag : TypeTag) :
    part (nativeType? provider tag) = "" ∨
      provider ∉ plainProviders ∧ IsNativeType (part (nativeType? provider tag)) := by
  cases native : nativeType? provider tag with
  | none => exact .inl rfl
  | some mark =>
    right
    rcases nativeType?_eq_some native with ⟨n, rfl⟩ | ⟨p, s, rfl⟩
    · obtain ⟨notPlain, -, length⟩ := nativeType?_eq_varChar_iff.mp native
      obtain ⟨_, -, -, -, fits⟩ := TypeTag.length?_eq_some_iff.mp length
      rw [part, Option.elim_some, part_varChar]
      exact ⟨notPlain, .varChar n (by omega)⟩
    · obtain ⟨notPlain, -, numbers⟩ := nativeType?_eq_decimal_iff.mp native
      obtain ⟨_, _, -, ⟨-, -, fits⟩, -, -, fits'⟩ := TypeTag.precisionScale?_eq_some_iff.mp numbers
      rw [part, Option.elim_some, part_decimal]
      exact ⟨notPlain, .decimal p s (by omega) (by omega)⟩

/-- The parts of every field are well-formed. -/
theorem wellFormed_partsOf (provider : String) (column : Column) :
    (partsOf provider column).WellFormed provider := by
  have made := part_madeDefault? column
  have role := part_timestamp? column
  have native := part_nativeType? provider column.type
  constructor <;> dsimp only [partsOf]
  case scalar =>
    cases Scalar.ofBase column.type.base <;> decide
  case optional =>
    cases column.isOptional <;> decide
  case key =>
    cases column.primaryKey <;> decide
  case made =>
    rw [made]
    split
    · decide
    · split <;> decide
  case unique =>
    cases column.needsUnique <;> decide
  case native =>
    rcases native with missing | ⟨-, native⟩
    · exact .inl missing
    · exact .inr native
  case role =>
    rcases role with missing | updated | ⟨now, -⟩
    · rw [missing]
      decide
    · rw [updated]
      decide
    · rw [now]
      decide
  case oneDefault =>
    rcases role with missing | updated | ⟨-, unmade⟩
    · right
      rw [missing]
      decide
    · right
      rw [updated]
      decide
    · exact .inl unmade
  case keyAlone =>
    by_cases key : column.primaryKey = true
    · simp [Column.isOptional, Column.needsUnique, key]
    · simp [key]
  case uuidKey =>
    intro uuid
    rw [made] at uuid
    by_cases key : column.type.base = "UUID" ∧ column.primaryKey = true
    · rw [if_pos key.2]
    · rw [if_neg key] at uuid
      split at uuid <;> exact absurd uuid (by decide)
  case plain =>
    intro plain
    rcases native with missing | ⟨notPlain, -⟩
    · exact missing
    · exact absurd (by simpa [plainProviders] using plain) notPlain

/-- They say what the column says. -/
theorem describes_partsOf (provider : String) (column : Column) :
    (partsOf provider column).Describes provider column := by
  have made := part_madeDefault? column
  have unmade : part (madeDefault? column) = "" ↔ madeDefault? column = none := by
    cases madeDefault? column <;> simp [part]
  have word (given : Bool) {text : String} (some : text ≠ "") :
      (if given then text else "") = text ↔ given = true := by
    cases given <;> simp [some.symm]
  constructor <;> dsimp only [partsOf]
  case optional =>
    rw [word _ (by decide), Column.isOptional]
    simp
  case key =>
    exact word _ (by decide)
  case unique =>
    rw [word _ (by decide), Column.needsUnique]
    simp
  case uuid =>
    rw [made]
    split_ifs with key serial
    · simp [key]
    · simp [key]
    · simp [key]
  case autoincrement =>
    rw [made]
    split_ifs with key serial
    · simp [key]
    · simp [serial]
    · simp [serial]
  case varChar =>
    intro n
    rw [← part_varChar, part_eq_iff]
    exact nativeType?_eq_varChar_iff
  case decimal =>
    intro p s
    rw [← part_decimal, part_eq_iff]
    exact nativeType?_eq_decimal_iff
  case now =>
    have role : part (timestamp? column) = " @default(now())" ↔
        timestamp? column = some .defaultNow :=
      @part_eq_iff _ .defaultNow
    rw [role, unmade, timestamp?_eq_defaultNow_iff]
  case updatedAt =>
    have role : part (timestamp? column) = " @updatedAt" ↔ timestamp? column = some .updatedAt :=
      @part_eq_iff _ .updatedAt
    rw [role, timestamp?_eq_updatedAt_iff]

end Field

/-- Under all settings the text of the field of every column is put together from well-formed parts
that describe the column, and no name, default or description of a column makes a difference to it.
-/
theorem fieldText_wellFormed (settings : Settings) (column : Column) :
    (∃ parts : Parts, parts.WellFormed settings.prisma.provider ∧
      parts.Describes settings.prisma.provider column ∧
      (Field.ofColumn settings.prisma.provider column).text = parts.text) ∧
    ∀ name default description,
      (Field.ofColumn settings.prisma.provider
        { column with name, default, description }).text =
        (Field.ofColumn settings.prisma.provider column).text :=
  ⟨⟨Field.partsOf settings.prisma.provider column, Field.wellFormed_partsOf _ column,
    Field.describes_partsOf _ column, Field.text_eq_parts _ column⟩, fun _ _ _ => rfl⟩

example :
    let column : Column :=
      { name := "id", type := ⟨" uuid (4)"⟩, unique := true, timestamp := some .onCreate }
    (Field.ofColumn "mysql" { column with primaryKey := true }).text =
      "String @id @default(uuid())" ∧
    (Field.ofColumn "mysql" column).text = "String? @unique @default(now())" := by
  decide +kernel

end SchemaPress.Prisma
