import SchemaPress.Proofs.Drizzle.Calls
import SchemaPress.Proofs.Prisma.FieldText

/-!
# Where the parameters of a type are placed

The parameters of a type tag are read by one grammar (`TypeTag.readsByGrammar`), and both targets
that write them place the same numbers. A field and a chain are written in different words, but no
two attributes and no two options are written alike, so it is enough to compare what is written:
`length_placed` for the length of a text and `precision_placed` for a decimal number.
-/

set_option autoImplicit false

namespace SchemaPress

namespace TypeTag

/-- Says that the parameters of a tag are read by the grammar: from the first parenthesis that opens
them and from no other, and from nothing before the suffix of the tag. -/
structure ReadsByGrammar (tag : TypeTag) : Prop where
  length : ∀ n, tag.length? = some n ↔
    ∃ digits, IsFirst OpensOne tag.text.toList digits ∧ Denotes digits n
  precisionScale : ∀ p s, tag.precisionScale? = some (p, s) ↔
    ∃ first second, IsFirst OpensTwo tag.text.toList (first, second) ∧
      Denotes first p ∧ Denotes second s
  noLaterLength : ∀ digits, IsFirst OpensOne tag.text.toList digits →
    (∀ n, ¬ Denotes digits n) → tag.length? = none
  noLaterPrecision : ∀ first second, IsFirst OpensTwo tag.text.toList (first, second) →
    (∀ n, ¬ Denotes first n) ∨ (∀ n, ¬ Denotes second n) → tag.precisionScale? = none
  suffix : ∀ other : TypeTag, other.suffix = tag.suffix →
    other.length? = tag.length? ∧ other.precisionScale? = tag.precisionScale?

/-- Every tag is read by the grammar. -/
theorem readsByGrammar (tag : TypeTag) : tag.ReadsByGrammar where
  length _ := length?_eq_some_iff
  precisionScale _ _ := precisionScale?_eq_some_iff
  noLaterLength _ isFirst unread := length?_eq_none isFirst unread
  noLaterPrecision _ _ isFirst unread := precisionScale?_eq_none isFirst unread
  suffix _ same := parameters_of_suffix same

end TypeTag

section

variable {provider : String} {column : Column}

/-- Prisma places the length of a `VARCHAR`, where the provider has native types. -/
theorem length_placed (native : provider ∉ Prisma.Field.plainProviders) (n : Nat) :
    .varChar n ∈ (Prisma.Field.ofColumn provider column).attributes ↔
      column.type.base = "VARCHAR" ∧ column.type.length? = some n := by
  rw [Prisma.Field.mem_attributes, Prisma.Field.IsGiven, Prisma.Field.nativeType?_eq_varChar_iff]
  exact and_iff_right native

/-- It places a precision and a scale exactly where Drizzle does. -/
theorem precision_placed (native : provider ∉ Prisma.Field.plainProviders) (p s : Nat) :
    .decimal p s ∈ (Prisma.Field.ofColumn provider column).attributes ↔
      (Drizzle.Chain.ofColumn column).options = .precision p s := by
  rw [Prisma.Field.mem_attributes, Prisma.Field.IsGiven, Prisma.Field.nativeType?_eq_decimal_iff,
    Drizzle.Chain.options_ofColumn, Drizzle.Chain.optionsOf_eq_precision_iff]
  exact and_iff_right native

end

/-- Says that attributes of a field and options of a chain have the parameters of one type. -/
structure ParametersAgree (tag : TypeTag) (attributes : List String) (options : String) : Prop where
  varChar : ∀ n : Nat, "@db.VarChar(" ++ toString n ++ ")" ∈ attributes ↔
    tag.base = "VARCHAR" ∧ tag.length? = some n
  length : ∀ n : Nat, "@db.VarChar(" ++ toString n ++ ")" ∈ attributes →
    options = ", \x7b length: " ++ toString n ++ " \x7d"
  standardLength : tag.base = "VARCHAR" →
    (∀ n : Nat, "@db.VarChar(" ++ toString n ++ ")" ∉ attributes) →
      options = ", \x7b length: 255 \x7d"
  decimal : ∀ p s : Nat,
    "@db.Decimal(" ++ toString p ++ ", " ++ toString s ++ ")" ∈ attributes ↔
      options = ", \x7b precision: " ++ toString p ++ ", scale: " ++ toString s ++ " \x7d"

/-- The two place the same parameters. -/
theorem parametersAgree {provider : String} (native : provider ∉ Prisma.Field.plainProviders)
    (column : Column) :
    ParametersAgree column.type
      ((Prisma.Field.ofColumn provider column).attributes.map Prisma.Attribute.text)
      (Drizzle.Chain.ofColumn column).options.code := by
  have written (mark : Prisma.Attribute) :
      mark.text ∈ (Prisma.Field.ofColumn provider column).attributes.map Prisma.Attribute.text ↔
        mark ∈ (Prisma.Field.ofColumn provider column).attributes :=
    List.mem_map_of_injective Prisma.Attribute.text_injective
  have optionsOf (options : Drizzle.Options) :
      (Drizzle.Chain.ofColumn column).options.code = options.code ↔
        (Drizzle.Chain.ofColumn column).options = options :=
    Drizzle.Options.code_injective.eq_iff
  have varChar (n : Nat) : "@db.VarChar(" ++ toString n ++ ")" ∈
      (Prisma.Field.ofColumn provider column).attributes.map Prisma.Attribute.text ↔
        column.type.base = "VARCHAR" ∧ column.type.length? = some n :=
    (written (.varChar n)).trans (length_placed native n)
  have lengthOf (n : Nat) (base : column.type.base = "VARCHAR")
      (length : column.type.length?.getD Drizzle.standardLength = n) :
      (Drizzle.Chain.ofColumn column).options.code =
        ", \x7b length: " ++ toString n ++ " \x7d" := by
    apply (optionsOf (.length n)).mpr
    rw [Drizzle.Chain.options_ofColumn, Drizzle.Chain.optionsOf_eq_length_iff]
    exact ⟨base, length⟩
  constructor
  case varChar => exact varChar
  case length =>
    intro n member
    obtain ⟨base, length⟩ := (varChar n).mp member
    apply lengthOf n base
    rw [length, Option.getD_some]
  case standardLength =>
    intro base missing
    have unread : column.type.length? = none := by
      rw [Option.eq_none_iff_forall_ne_some]
      intro n length
      exact missing n ((varChar n).mpr ⟨base, length⟩)
    apply lengthOf 255 base
    rw [unread]
    rfl
  case decimal =>
    intro p s
    exact (written (.decimal p s)).trans
      ((precision_placed native p s).trans (optionsOf (.precision p s)).symm)

/-- The parameters of every type are read by the grammar. Under all settings with a provider that
has native types, the field and the chain of every column have the same parameters of its type, at
the places where attributes and options are written. -/
theorem parameters_placed :
    (∀ tag : TypeTag, tag.ReadsByGrammar) ∧
    ∀ (settings : Settings) (column : Column),
      settings.prisma.provider ∉ ["sqlite", "mongodb"] →
      let field := Prisma.Field.ofColumn settings.prisma.provider column
      let chain := Drizzle.Chain.ofColumn column
      ParametersAgree column.type (field.attributes.map Prisma.Attribute.text)
        chain.options.code ∧
      field.text = field.scalar.word ++ (if field.optional then "?" else "")
        ++ Text.concatenated ((field.attributes.map Prisma.Attribute.text).map (" " ++ ·)) ∧
      chain.code = chain.builder.word ++ "(" ++ Drizzle.literal column.name ++ chain.options.code
        ++ ")" ++ Text.concatenated (chain.calls.map Drizzle.Call.code) := by
  refine ⟨TypeTag.readsByGrammar, fun settings column native => ⟨?_, ?_, rfl⟩⟩
  · exact parametersAgree native column
  · rw [List.map_map]
    rfl

/-- Of several parentheses the first that opens parameters counts, though it may open a number that
is too large. -/
theorem parameters_placed_reopened :
    let column (type : String) : Column := { name := "price", type := ⟨type⟩ }
    let attributes (type : String) :=
      (Prisma.Field.ofColumn "postgresql" (column type)).attributes.map Prisma.Attribute.text
    let options (type : String) := (Drizzle.Chain.ofColumn (column type)).options.code
    "postgresql" ∉ ["sqlite", "mongodb"] ∧
    "@db.Decimal(10, 2)" ∈ attributes "decimal((x)( 010 ,\t2)(3,4)" ∧
    options "decimal((x)( 010 ,\t2)(3,4)" = ", \x7b precision: 10, scale: 2 \x7d" ∧
    (∀ n : Nat, "@db.VarChar(" ++ toString n ++ ")" ∉ attributes "varchar((x)(4294967296)(7)") ∧
    options "varchar((x)(4294967296)(7)" = ", \x7b length: 255 \x7d" := by
  intro column attributes options
  have agree (type : String) : ParametersAgree ⟨type⟩ (attributes type) (options type) :=
    (parameters_placed.2 {} (column type) (by decide)).1
  have precision :
      options "decimal((x)( 010 ,\t2)(3,4)" = ", \x7b precision: 10, scale: 2 \x7d" := by
    decide +kernel
  have unread : TypeTag.length? ⟨"varchar((x)(4294967296)(7)"⟩ = none := by decide +kernel
  have missing (n : Nat) :
      "@db.VarChar(" ++ toString n ++ ")" ∉ attributes "varchar((x)(4294967296)(7)" := by
    intro member
    obtain ⟨-, length⟩ := ((agree _).varChar n).mp member
    rw [unread] at length
    cases length
  exact ⟨by decide, ((agree _).decimal 10 2).mpr precision, precision, missing,
    (agree _).standardLength (by decide +kernel) missing⟩

end SchemaPress
