import SchemaPress.Drizzle.Builder
import SchemaPress.Prisma.Field
import SchemaPress.Proofs.Schema.ParameterGrammar
import SchemaPress.Proofs.Text.Trimming
import SchemaPress.Sql.Script

/-!
# Spellings of a type

Two tags spell one type if they differ only before the first parenthesis, in the case of ASCII
letters and in the blanks around what stands there. That is so exactly if they have the same base
and the same suffix (`isVariant_iff`). The targets see no more of a tag than its base and what its
suffix determines, except where a dialect of SQL writes the tag itself; so all spellings of a type
mean the same (`spellings_agree`).
-/

set_option autoImplicit false

namespace SchemaPress

open Text

/-! ## Parentheses -/

namespace Text

/-- A parenthesis is the lower case of nothing else. -/
theorem toLower_eq_parenthesis {c : Char} : c.toLower = '(' ↔ c = '(' :=
  toLower_induction (P := fun c d => d = '(' ↔ c = '(') (by decide) (fun _ => Iff.rfl) c

/-- Nor is it the upper case of anything else. -/
theorem toUpper_eq_parenthesis {c : Char} : c.toUpper = '(' ↔ c = '(' := by
  constructor
  · intro upper
    rw [← toLower_eq_parenthesis, ← Char.toLower_toUpper_eq_toLower, upper]
    rfl
  · rintro rfl
    rfl

/-- A parenthesis is neither a blank nor a letter, so texts with the same word both have one. -/
theorem parenthesis_mem_iff {cs ds : List Char} (same : SameWord cs ds) : '(' ∈ cs ↔ '(' ∈ ds := by
  have inWord (cs : List Char) : '(' ∈ cs ↔ '(' ∈ (trim cs).map Char.toLower := by
    constructor
    · intro member
      obtain ⟨before, after, whole, blanks, blanks'⟩ := exists_trim cs
      rw [whole, List.mem_append, List.mem_append] at member
      rcases member with member | member | member
      · exact absurd (blanks _ member) (by decide)
      · exact List.mem_map.mpr ⟨'(', member, rfl⟩
      · exact absurd (blanks' _ member) (by decide)
    · intro member
      obtain ⟨c, member, lower⟩ := List.mem_map.mp member
      obtain rfl := toLower_eq_parenthesis.mp lower
      exact mem_of_mem_trim member
  rw [inWord, inWord ds, sameWord_iff.mp same]

end Text

namespace TypeTag

/-! ## The parts of a tag -/

/-- The stem and the suffix of a tag are its whole text. -/
theorem stem_append_suffix (tag : TypeTag) : tag.stem ++ tag.suffix.toList = tag.text.toList := by
  rw [suffix, String.toList_ofList]
  exact List.takeWhile_append_dropWhile

/-- The stem ends before the first parenthesis. -/
theorem parenthesis_notMem_stem (tag : TypeTag) : '(' ∉ tag.stem := by
  intro member
  have other := List.mem_takeWhile_imp member
  simp at other

/-- The suffix begins with it. -/
theorem head?_suffix (tag : TypeTag) : ∀ c ∈ tag.suffix.toList.head?, c = '(' := by
  intro c head
  have stops := List.head?_dropWhile_not (· != '(') tag.text.toList
  rw [suffix, String.toList_ofList, Option.mem_def] at head
  rw [head] at stops
  simpa using stops

/-- A tag has one stem and one suffix only. -/
theorem parts_unique {tag : TypeTag} {stem suffix : List Char}
    (whole : tag.text.toList = stem ++ suffix) (outside : '(' ∉ stem)
    (begins : ∀ c ∈ suffix.head?, c = '(') :
    tag.stem = stem ∧ tag.suffix = String.ofList suffix := by
  have before : ∀ c ∈ stem, (c != '(') = true := by
    intro c member
    rw [bne_iff_ne]
    rintro rfl
    exact outside member
  have behind : ∀ c ∈ suffix.head?, (c != '(') = false := by
    intro c head
    rw [begins c head]
    rfl
  have parts := takeWhile_dropWhile_append before behind
  rw [TypeTag.stem, TypeTag.suffix, whole]
  exact ⟨parts.1, congrArg String.ofList parts.2⟩

/-- The base is the stem without the blanks around it, in upper case. -/
theorem toList_base (tag : TypeTag) : tag.base.toList = (trim tag.stem).map Char.toUpper :=
  String.toList_ofList

/-- There are no blanks around a base. -/
theorem isTrimmed_base (tag : TypeTag) : IsTrimmed tag.base.toList := by
  rw [toList_base]
  exact isTrimmed_map isBlank_toUpper (isTrimmed_trim _)

/-- There is no parenthesis in a base. -/
theorem parenthesis_notMem_base (tag : TypeTag) : '(' ∉ tag.base.toList := by
  rw [toList_base, ← trim_map isBlank_toUpper]
  intro member
  have inside := List.mem_map.mp (mem_of_mem_trim member)
  obtain ⟨c, member, upper⟩ := inside
  rw [toUpper_eq_parenthesis] at upper
  subst upper
  exact parenthesis_notMem_stem tag member

/-! ## Spellings of one type -/

/-- Says that two tags differ only in the case of ASCII letters before the first parenthesis and in
the blanks around what stands before it. -/
def IsVariant (tag other : TypeTag) : Prop :=
  ∃ stem stem' suffix, tag.text.toList = stem ++ suffix ∧ other.text.toList = stem' ++ suffix ∧
    '(' ∉ stem ∧ (∀ c ∈ suffix.head?, c = '(') ∧ SameWord stem stem'

/-- Two tags have one base if their stems are the same word. -/
theorem base_eq_iff {tag other : TypeTag} :
    tag.base = other.base ↔ SameWord tag.stem other.stem := by
  rw [sameWord_iff, map_toLower_eq_iff, ← String.toList_inj, toList_base, toList_base]

/-- Two tags spell one type exactly if they have the same base and the same suffix. -/
theorem isVariant_iff {tag other : TypeTag} :
    tag.IsVariant other ↔ tag.base = other.base ∧ tag.suffix = other.suffix := by
  constructor
  · rintro ⟨stem, stem', suffix, whole, whole', outside, begins, same⟩
    have outside' : '(' ∉ stem' := fun member => outside ((parenthesis_mem_iff same).mpr member)
    obtain ⟨hstem, hsuffix⟩ := parts_unique whole outside begins
    obtain ⟨hstem', hsuffix'⟩ := parts_unique whole' outside' begins
    rw [base_eq_iff, hstem, hstem', hsuffix, hsuffix']
    exact ⟨same, rfl⟩
  · rintro ⟨base, suffix⟩
    refine ⟨tag.stem, other.stem, tag.suffix.toList, tag.stem_append_suffix.symm, ?_,
      tag.parenthesis_notMem_stem, tag.head?_suffix, base_eq_iff.mp base⟩
    rw [suffix, stem_append_suffix]

/-! ## What the targets make of a tag -/

section

variable {tag other : TypeTag} (variant : tag.IsVariant other)
include variant

/-- Spellings of one type give the same field. -/
theorem IsVariant.field_eq (provider : String) (column : Column) :
    Prisma.Field.ofColumn provider { column with type := tag } =
      Prisma.Field.ofColumn provider { column with type := other } := by
  obtain ⟨base, suffix⟩ := isVariant_iff.mp variant
  obtain ⟨length, precision⟩ := parameters_of_suffix suffix
  have made : Prisma.Field.madeDefault? { column with type := tag } =
      Prisma.Field.madeDefault? { column with type := other } := by
    simp only [Prisma.Field.madeDefault?, base]
  have native : Prisma.Field.nativeType? provider tag =
      Prisma.Field.nativeType? provider other := by
    simp only [Prisma.Field.nativeType?, base, length, precision]
  simp only [Prisma.Field.ofColumn, Prisma.Field.timestamp?, base, made, native]
  rfl

/-- They give the same calls. -/
theorem IsVariant.chain_eq (column : Column) :
    Drizzle.Chain.ofColumn { column with type := tag } =
      Drizzle.Chain.ofColumn { column with type := other } := by
  obtain ⟨base, suffix⟩ := isVariant_iff.mp variant
  obtain ⟨length, precision⟩ := parameters_of_suffix suffix
  have options : Drizzle.Chain.optionsOf tag = Drizzle.Chain.optionsOf other := by
    simp only [Drizzle.Chain.optionsOf, base, length, precision]
  have calls : Drizzle.Chain.keyCalls { column with type := tag } =
      Drizzle.Chain.keyCalls { column with type := other } := by
    simp only [Drizzle.Chain.keyCalls, Drizzle.Chain.keyCalls.nowCalls, base]
  simp only [Drizzle.Chain.ofColumn, base, options, calls]
  rfl

/-- They count by themselves alike. -/
theorem IsVariant.autoIncrement?_eq (dialect : Sql.Dialect) :
    dialect.autoIncrement? tag = dialect.autoIncrement? other := by
  obtain ⟨base, -⟩ := isVariant_iff.mp variant
  simp only [Sql.Dialect.autoIncrement?, base]

/-- They give the same modifiers. -/
theorem IsVariant.modifiers_eq (dialect : Sql.Dialect) (column : Column) :
    Sql.modifiers dialect { column with type := tag } =
      Sql.modifiers dialect { column with type := other } := by
  simp only [Sql.modifiers, variant.autoIncrement?_eq dialect]
  rfl

/-- A dialect that spells a type differently keeps nothing of the tag but its suffix. -/
theorem IsVariant.nativeType_eq (dialect : Sql.Dialect)
    (respelled : (dialect.respellings.lookup tag.base).isSome = true) :
    dialect.nativeType tag = dialect.nativeType other := by
  obtain ⟨base, suffix⟩ := isVariant_iff.mp variant
  obtain ⟨spelling, found⟩ := Option.isSome_iff_exists.mp respelled
  have found' : dialect.respellings.lookup other.base = some spelling := base ▸ found
  simp only [Sql.Dialect.nativeType, found, found', suffix]

end

/-- Says that two tags mean the same to all targets, but for a tag that a dialect of SQL writes as
it is. -/
structure MeanSame (tag other : TypeTag) : Prop where
  field : ∀ (settings : Settings) (column : Column),
    (Prisma.Field.ofColumn settings.prisma.provider { column with type := tag }).text =
      (Prisma.Field.ofColumn settings.prisma.provider { column with type := other }).text
  chain : ∀ column : Column, (Drizzle.Chain.ofColumn { column with type := tag }).code =
    (Drizzle.Chain.ofColumn { column with type := other }).code
  counting : ∀ (column : Column) (keyword : String),
    .autoIncrement keyword ∈ Sql.modifiers .mysql { column with type := tag } ↔
      .autoIncrement keyword ∈ Sql.modifiers .mysql { column with type := other }
  modifiers : ∀ (dialect : Sql.Dialect) (column : Column),
    Sql.modifiers dialect { column with type := tag } =
      Sql.modifiers dialect { column with type := other }
  respelled : (Sql.Dialect.mysql.respellings.lookup tag.base).isSome = true →
    Sql.Dialect.mysql.nativeType tag = Sql.Dialect.mysql.nativeType other

/-- Spellings of one type mean the same. -/
theorem IsVariant.meanSame {tag other : TypeTag} (variant : tag.IsVariant other) :
    MeanSame tag other where
  field settings column := congrArg _ (variant.field_eq settings.prisma.provider column)
  chain column := congrArg _ (variant.chain_eq column)
  counting column keyword := by rw [variant.modifiers_eq]
  modifiers := variant.modifiers_eq
  respelled := variant.nativeType_eq .mysql

end TypeTag

/-- All spellings of a type mean the same. A dialect that does not spell a type differently writes
its tag as it is. The base of a tag has no parenthesis and no blanks around it, and the suffix
begins with a parenthesis if there is one. -/
theorem spellings_agree :
    (∀ tag other : TypeTag, tag.IsVariant other → tag.MeanSame other) ∧
    (∀ (dialect : Sql.Dialect) (tag : TypeTag), dialect.respellings.lookup tag.base = none →
      dialect.nativeType tag = tag.text) ∧
    ∀ tag : TypeTag, '(' ∉ tag.base.toList ∧ IsTrimmed tag.base.toList ∧
      ∀ c ∈ tag.suffix.toList.head?, c = '(' := by
  refine ⟨fun tag other variant => variant.meanSame, fun dialect tag kept => ?_, fun tag =>
    ⟨tag.parenthesis_notMem_base, tag.isTrimmed_base, tag.head?_suffix⟩⟩
  rw [Sql.Dialect.nativeType, kept]

/-- The type `INET` with blanks around it, and a type that is unknown. -/
theorem spellings_agree_inet :
    TypeTag.IsVariant ⟨"\u2003Inet (4)"⟩ ⟨"INET(4)"⟩ ∧
    Sql.Dialect.mysql.nativeType ⟨"\u2003Inet (4)"⟩ = "VARCHAR(45)(4)" ∧
    (Drizzle.Chain.ofColumn { name := "address", type := ⟨"\u2003Inet (4)"⟩ }).code =
      "inet('address')" ∧
    Sql.Dialect.mysql.nativeType ⟨" CiText "⟩ = " CiText " := by
  obtain ⟨same, kept, -⟩ := spellings_agree
  have variant : TypeTag.IsVariant ⟨"\u2003Inet (4)"⟩ ⟨"INET(4)"⟩ := by
    rw [TypeTag.isVariant_iff]
    decide +kernel
  have meaning := same _ _ variant
  refine ⟨variant, ?_, ?_, kept .mysql ⟨" CiText "⟩ (by decide +kernel)⟩
  · rw [meaning.respelled (by decide +kernel)]
    decide +kernel
  · rw [meaning.chain { name := "address", type := ⟨""⟩ }]
    decide +kernel

end SchemaPress
