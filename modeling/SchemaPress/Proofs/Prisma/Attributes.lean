import SchemaPress.Prisma.Field
import SchemaPress.Proofs.Text.Joining

/-!
# The attributes of a field

No two attributes are written alike (`Attribute.text_injective`), so an attribute is known from its
text. The rest says where each attribute of a field comes from. The default that the database makes
up, the native type and the role of a column each give one attribute at most, and no two of them
give the same (`madeDefault?_eq_some`, `nativeType?_eq_some`, `timestamp?_eq_some`). So an attribute
tells what it was given for (`mem_attributes`).
-/

set_option autoImplicit false

namespace SchemaPress.Prisma

namespace Attribute

/-- The fifth character of the text of an attribute, which tells the native types apart from the
others and from each other. -/
def fifth : Attribute → Option Char
  | id => none
  | unique => some 'q'
  | varChar _ => some 'V'
  | decimal _ _ => some 'D'
  | _ => some 'a'

/-- The fifth character of an attribute's text. -/
theorem fifth_text (mark : Attribute) : mark.text.toList[4]? = mark.fifth := by
  cases mark with
  | varChar n =>
    show ("@db.VarChar(" ++ toString n ++ ")").toList[4]? = some 'V'
    rw [String.append_assoc, String.toList_append]
    rfl
  | decimal p s =>
    show ("@db.Decimal(" ++ toString p ++ ", " ++ toString s ++ ")").toList[4]? = some 'D'
    simp only [String.append_assoc, String.toList_append]
    rfl
  | _ => rfl

/-- No two attributes are written alike. -/
theorem text_injective : Function.Injective text := by
  intro mark other same
  have fifths : mark.fifth = other.fifth := by rw [← fifth_text, ← fifth_text, same]
  cases mark <;> cases other <;> try cases fifths
  case varChar.varChar n m =>
    rw [Text.numeral_between_inj (by decide) same]
  case decimal.decimal p s p' s' =>
    obtain ⟨rfl, rfl⟩ := Text.numerals_between_inj (by decide) (by decide) same
    rfl
  all_goals first | rfl | exact absurd same (by decide)

end Attribute

/-- A field is its type and the texts of its attributes, with blanks between them. -/
theorem Field.text_eq (field : Field) :
    field.text = " ".intercalate ((field.scalar.word ++ if field.optional then "?" else "")
      :: field.attributes.map Attribute.text) := by
  rw [text, ← Text.append_concatenated, List.map_map]
  rfl

namespace Field

/-- The default that the database makes up is a new number or a new identifier. -/
theorem madeDefault?_eq_some {column : Column} {mark : Attribute}
    (made : madeDefault? column = some mark) :
    mark = .defaultUuid ∨ mark = .defaultAutoincrement := by
  unfold madeDefault? at made
  split at made
  · exact .inl (Option.some.inj made).symm
  · split at made
    · exact .inr (Option.some.inj made).symm
    · cases made

/-- A native type is one with a length or one with a precision and a scale. -/
theorem nativeType?_eq_some {provider : String} {tag : TypeTag} {mark : Attribute}
    (native : nativeType? provider tag = some mark) :
    (∃ n, mark = .varChar n) ∨ ∃ p s, mark = .decimal p s := by
  unfold nativeType? at native
  split at native
  · cases native
  · split at native
    · obtain ⟨n, -, rfl⟩ := Option.map_eq_some_iff.mp native
      exact .inl ⟨n, rfl⟩
    · split at native
      · obtain ⟨⟨p, s⟩, -, rfl⟩ := Option.map_eq_some_iff.mp native
        exact .inr ⟨p, s, rfl⟩
      · cases native

/-- A native type with a length comes from a `VARCHAR` that has this length. -/
theorem nativeType?_eq_varChar_iff {provider : String} {tag : TypeTag} {n : Nat} :
    nativeType? provider tag = some (.varChar n) ↔
      provider ∉ plainProviders ∧ tag.base = "VARCHAR" ∧ tag.length? = some n := by
  unfold nativeType?
  simp only [List.contains_iff_mem]
  by_cases plain : provider ∈ plainProviders
  · simp [plain]
  · by_cases base : tag.base = "VARCHAR"
    · simp [plain, base]
    · by_cases base' : tag.base = "DECIMAL" <;> simp [plain, base, base']

/-- A native type with a precision comes from a `DECIMAL` that has this precision. -/
theorem nativeType?_eq_decimal_iff {provider : String} {tag : TypeTag} {p s : Nat} :
    nativeType? provider tag = some (.decimal p s) ↔
      provider ∉ plainProviders ∧ tag.base = "DECIMAL" ∧ tag.precisionScale? = some (p, s) := by
  unfold nativeType?
  simp only [List.contains_iff_mem]
  by_cases plain : provider ∈ plainProviders
  · simp [plain]
  · by_cases base : tag.base = "VARCHAR"
    · simp [plain, base]
    · by_cases base' : tag.base = "DECIMAL" <;> simp [plain, base, base']

/-- A role gives the time of creation or that of the last update. -/
theorem timestamp?_eq_some {column : Column} {mark : Attribute}
    (role : timestamp? column = some mark) : mark = .defaultNow ∨ mark = .updatedAt := by
  unfold timestamp? at role
  split at role
  · split at role
    · exact .inl (Option.some.inj role).symm
    · cases role
  · exact .inr (Option.some.inj role).symm
  · cases role

/-- The time of creation is a default, so it is left out beside one that the database makes up. -/
theorem timestamp?_eq_defaultNow_iff {column : Column} :
    timestamp? column = some .defaultNow ↔
      column.timestamp = some .onCreate ∧ madeDefault? column = none := by
  rw [timestamp?]
  cases column.timestamp with
  | none => simp
  | some role => cases role <;> simp

/-- The time of the last update stands beside any default. -/
theorem timestamp?_eq_updatedAt_iff {column : Column} :
    timestamp? column = some .updatedAt ↔ column.timestamp = some .onUpdate := by
  rw [timestamp?]
  cases column.timestamp with
  | none => simp
  | some role => cases role <;> simp

/-- Says that an attribute is given to a column by what it stands for. -/
def IsGiven (provider : String) (column : Column) (mark : Attribute) : Prop :=
  match mark with
  | .id => column.primaryKey = true
  | .defaultUuid | .defaultAutoincrement => madeDefault? column = some mark
  | .unique => column.needsUnique = true
  | .varChar _ | .decimal _ _ => nativeType? provider column.type = some mark
  | .defaultNow | .updatedAt => timestamp? column = some mark

/-- No source of attributes gives what another one stands for. -/
theorem mem_attributes {provider : String} {column : Column} {mark : Attribute} :
    mark ∈ (ofColumn provider column).attributes ↔ IsGiven provider column mark := by
  have made (here : madeDefault? column = some mark) :
      mark = .defaultUuid ∨ mark = .defaultAutoincrement :=
    madeDefault?_eq_some here
  have native (here : nativeType? provider column.type = some mark) :
      (∃ n, mark = .varChar n) ∨ ∃ p s, mark = .decimal p s :=
    nativeType?_eq_some here
  have role (here : timestamp? column = some mark) : mark = .defaultNow ∨ mark = .updatedAt :=
    timestamp?_eq_some here
  have sources : mark ∈ (ofColumn provider column).attributes ↔
      (column.primaryKey = true ∧ mark = .id) ∨ madeDefault? column = some mark ∨
        (column.needsUnique = true ∧ mark = .unique) ∨
        nativeType? provider column.type = some mark ∨ timestamp? column = some mark := by
    simp [ofColumn]
  rw [sources]
  cases mark <;> simp_all [IsGiven]

/-- The database makes up the default of a column exactly if the field has an attribute for that. -/
theorem madeDefault?_isSome_iff (provider : String) (column : Column) :
    (madeDefault? column).isSome = true ↔
      .defaultAutoincrement ∈ (ofColumn provider column).attributes ∨
        .defaultUuid ∈ (ofColumn provider column).attributes := by
  simp only [mem_attributes, IsGiven, Option.isSome_iff_exists]
  constructor
  · rintro ⟨mark, made⟩
    rcases madeDefault?_eq_some made with rfl | rfl
    · exact .inr made
    · exact .inl made
  · rintro (made | made)
    · exact ⟨_, made⟩
    · exact ⟨_, made⟩

end Field

end SchemaPress.Prisma
