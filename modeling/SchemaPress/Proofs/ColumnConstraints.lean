import Mathlib.Tactic.SplitIfs
import SchemaPress.Drizzle.Builder
import SchemaPress.Proofs.Prisma.Attributes
import SchemaPress.Proofs.Sql.Statements

/-!
# The targets agree on the constraints of a column

SQL, Prisma and Drizzle each mark a primary key, a column that is not null and a unique column in
their own way. What the markers of a target demand comes down to one list of constraints
(`constraints_modifiers`, `constraints_attributes`, `constraints_calls`), whatever the type, the
default and the role of the column add to the markers. PostgreSQL and Drizzle demand what the column
itself demands. So does Prisma, except that it says by the type of a field what may be null. MySQL
demands one thing more of a column that counts by itself outside the primary key.

A target demands nothing twice, so a marker is there once or not at all (`count_marker`). No other
word of a column is written like a marker, so the same holds of the words themselves
(`count_map_of_only`). So the words of every target say what the flags of the column say
(`readsFlags`), and markers that say the same agree (`ReadsFlags.agree`).
-/

set_option autoImplicit false

namespace SchemaPress

/-- What can be demanded of the values in a column. -/
inductive Constraint where
  | primaryKey
  | notNull
  | unique
  deriving DecidableEq, Repr

/-- All constraints, in the order in which they are written. -/
def Constraint.all : List Constraint := [primaryKey, notNull, unique]

/-- Says whether a column demands a constraint that its primary key does not imply. -/
def Column.demands (column : Column) : Constraint → Bool
  | .primaryKey => column.primaryKey
  | .notNull => column.needsNotNull
  | .unique => column.needsUnique

/-! ## Markers of constraints -/

section

variable {α : Type} [DecidableEq α] {constraint? : α → Option Constraint} {c : Constraint}
  {marker : α} {markers : List α} {demanded : Constraint → Bool}

/-- A constraint comes once in a part of the list of all constraints, or not at all. -/
theorem Constraint.count_filter_all (demanded : Constraint → Bool) (c : Constraint) :
    (all.filter demanded).count c = if demanded c then 1 else 0 := by
  have once : all.count c = 1 := by cases c <;> rfl
  by_cases here : demanded c = true
  · rw [List.count_filter here, once, if_pos here]
  · rw [if_neg here, List.count_eq_zero]
    intro member
    exact here (List.mem_filter.mp member).2

/-- A marker that alone demands a constraint is there once, or not at all if the constraint is not
demanded. -/
theorem count_marker (only : ∀ m, constraint? m = some c ↔ m = marker)
    (listed : markers.filterMap constraint? = Constraint.all.filter demanded) :
    markers.count marker = if demanded c then 1 else 0 := by
  have same (m : α) : (m == marker) = (constraint? m == some c) := by
    rw [Bool.eq_iff_iff, beq_iff_eq, beq_iff_eq, only m]
  rw [← Constraint.count_filter_all, ← listed, List.count_filterMap, List.count]
  simp only [same]

/-- Among written markers the writing of a marker is there as often as the marker itself, if nothing
else among them is written like it. -/
theorem count_map_of_only {f : α → String} (only : ∀ m ∈ markers, f m = f marker → m = marker) :
    (markers.map f).count (f marker) = markers.count marker := by
  rw [List.count, List.countP_map, List.count]
  apply List.countP_congr
  intro m member
  rw [Function.comp_apply, beq_iff_eq, beq_iff_eq]
  exact ⟨only m member, congrArg f⟩

/-- A marker that is there once or not at all is there exactly if it is demanded. -/
theorem mem_of_count {β : Type} [DecidableEq β] {word : β} {words : List β} {demanded : Bool}
    (count : words.count word = if demanded then 1 else 0) : word ∈ words ↔ demanded = true := by
  rw [← List.count_pos_iff, count]
  cases demanded <;> simp

end

namespace Sql

/-- The constraint that a modifier demands. -/
def Modifier.constraint? : Modifier → Option Constraint
  | primaryKey => some .primaryKey
  | notNull => some .notNull
  | unique => some .unique
  | _ => none

/-- The modifier for a constraint. -/
def marker : Constraint → Modifier
  | .primaryKey => .primaryKey
  | .notNull => .notNull
  | .unique => .unique

/-- Says whether a dialect demands a constraint of a column. A column that counts by itself has to
be a key. -/
def demands (dialect : Dialect) (column : Column) (c : Constraint) : Bool :=
  column.demands c ||
    (c == .unique && (dialect.autoIncrement? column.type).isSome && !column.primaryKey)

/-- The modifiers of a column demand what its dialect demands, each constraint once. -/
theorem constraints_modifiers (dialect : Dialect) (column : Column) :
    (modifiers dialect column).filterMap Modifier.constraint? =
      Constraint.all.filter (demands dialect column) := by
  unfold modifiers demands Column.demands Constraint.all
  cases dialect.autoIncrement? column.type <;> cases column.default? <;>
    cases column.primaryKey <;> cases column.needsNotNull <;> cases column.needsUnique <;> rfl

/-- The keyword of a column that counts by itself is no marker. -/
theorem words_keyword {dialect : Dialect} {column : Column} {keyword : String}
    (member : .autoIncrement keyword ∈ modifiers dialect column) : keyword = "AUTO_INCREMENT" := by
  have counts : dialect.autoIncrement? column.type = some keyword := by
    simpa [modifiers] using member
  rw [autoIncrement?_eq] at counts
  split_ifs at counts
  exact (Option.some.inj counts).symm

/-- No other modifier of a column is written like the one for a constraint. -/
theorem eq_marker_of_words {dialect : Dialect} {column : Column} {c : Constraint} {m : Modifier}
    (member : m ∈ modifiers dialect column) (same : m.words = (marker c).words) :
    m = marker c := by
  cases m with
  | autoIncrement keyword =>
    obtain rfl := words_keyword member
    cases c <;> exact absurd same (by decide)
  | default expression =>
    -- A default begins with another letter than all markers.
    have first := congrArg (fun text => text.toList.head?) same
    cases c <;> simp [Modifier.words, marker] at first
  | _ => cases c <;> first | rfl | exact absurd same (by decide)

/-- Behind the type of a column a constraint is written once, or not at all. -/
theorem count_words (dialect : Dialect) (column : Column) (c : Constraint) :
    ((modifiers dialect column).map Modifier.words).count (marker c).words =
      if demands dialect column c then 1 else 0 := by
  have only (m : Modifier) : m.constraint? = some c ↔ m = marker c := by
    cases m <;> cases c <;> simp [Modifier.constraint?, marker]
  rw [count_map_of_only fun m member => eq_marker_of_words member,
    count_marker only (constraints_modifiers dialect column)]

/-- A constraint other than `UNIQUE` is written where the column itself demands it. -/
theorem count_words_of_ne (dialect : Dialect) (column : Column) (c : Constraint)
    (other : c ≠ .unique) :
    ((modifiers dialect column).map Modifier.words).count (marker c).words =
      if column.demands c then 1 else 0 := by
  have demanded : demands dialect column c = column.demands c := by simp [demands, other]
  rw [count_words, demanded]

/-- `UNIQUE` is written behind a column that is unique or, in MySQL, counts by itself, unless it is
the primary key. -/
theorem count_words_unique (dialect : Dialect) (column : Column) :
    ((modifiers dialect column).map Modifier.words).count "UNIQUE" =
      if (column.unique || (dialect = .mysql && column.type.base = "SERIAL")) &&
        !column.primaryKey then 1 else 0 := by
  have demanded : demands dialect column .unique =
      ((column.unique || (dialect = .mysql && column.type.base = "SERIAL")) &&
        !column.primaryKey) := by
    rw [demands, Column.demands, Column.needsUnique, autoIncrement?_eq]
    cases (dialect = .mysql && column.type.base = "SERIAL" : Bool) <;> cases column.primaryKey <;>
      simp
  rw [← demanded]
  exact count_words dialect column .unique

/-- The keyword of a column that counts by itself is written exactly if the type is `SERIAL` and the
dialect is MySQL. -/
theorem mem_words_autoIncrement (dialect : Dialect) (column : Column) :
    "AUTO_INCREMENT" ∈ (modifiers dialect column).map Modifier.words ↔
      dialect = .mysql ∧ column.type.base = "SERIAL" := by
  have default (expression : String) : "AUTO_INCREMENT" ≠ "DEFAULT " ++ expression := by
    intro same
    have first := congrArg (fun text => text.toList.head?) same
    simp at first
  rw [words_modifiers]
  cases expression : column.default with
  | none => simp [columnWords, expression]
  | some text =>
    by_cases empty : text = ""
    · simp [columnWords, expression, empty]
    · simp [columnWords, expression, empty, default]

end Sql

namespace Prisma

/-- The constraint that an attribute demands. What may be null is said by the type of the field. -/
def Attribute.constraint? : Attribute → Option Constraint
  | id => some .primaryKey
  | unique => some .unique
  | _ => none

/-- The attributes of a field demand what its column demands, except what may be null. -/
theorem constraints_attributes (provider : String) (column : Column) :
    (Field.ofColumn provider column).attributes.filterMap Attribute.constraint? =
      Constraint.all.filter fun c => column.demands c && c != .notNull := by
  have unconstrained (source : Option Attribute)
      (free : ∀ mark, source = some mark → mark.constraint? = none) :
      source.toList.filterMap Attribute.constraint? = [] := by
    cases source with
    | none => rfl
    | some mark => simp [free mark rfl]
  have made := unconstrained (Field.madeDefault? column) fun mark made => by
    rcases Field.madeDefault?_eq_some made with rfl | rfl <;> rfl
  have native := unconstrained (Field.nativeType? provider column.type) fun mark native => by
    rcases Field.nativeType?_eq_some native with ⟨n, rfl⟩ | ⟨p, s, rfl⟩ <;> rfl
  have role := unconstrained (Field.timestamp? column) fun mark role => by
    rcases Field.timestamp?_eq_some role with rfl | rfl <;> rfl
  unfold Field.ofColumn Column.demands Constraint.all
  simp only [List.filterMap_append, made, native, role, List.append_nil]
  cases column.primaryKey <;> cases column.needsNotNull <;> cases column.needsUnique <;> rfl

/-- Among the attributes of a field the one for a constraint is written once, or not at all. -/
theorem count_texts (provider : String) (column : Column) (mark : Attribute) {c : Constraint}
    (demanded : mark.constraint? = some c) :
    ((Field.ofColumn provider column).attributes.map Attribute.text).count mark.text =
      if column.demands c then 1 else 0 := by
  have only (m : Attribute) : m.constraint? = some c ↔ m = mark := by
    cases m <;> cases mark <;> cases demanded <;> simp [Attribute.constraint?]
  have nullable : (column.demands c && c != .notNull) = column.demands c := by
    cases mark <;> cases demanded <;> exact Bool.and_true _
  rw [count_map_of_only fun m _ same => Attribute.text_injective same,
    count_marker only (constraints_attributes provider column), nullable]

end Prisma

namespace Drizzle

/-- The constraint that a call demands. -/
def Call.constraint? : Call → Option Constraint
  | primaryKey => some .primaryKey
  | notNull => some .notNull
  | unique => some .unique
  | _ => none

/-- The call for a constraint. -/
def marker : Constraint → Call
  | .primaryKey => .primaryKey
  | .notNull => .notNull
  | .unique => .unique

/-- A chain is the call of its builder and the further calls right behind it. -/
theorem Chain.code_eq (chain : Chain) :
    chain.code = "".intercalate (
      (chain.builder.word ++ "(" ++ literal chain.column ++ chain.options.code ++ ")")
        :: chain.calls.map Call.code) := by
  rw [code, Text.append_concatenated_empty]

/-- The calls of a chain demand what the column demands. -/
theorem constraints_calls (column : Column) :
    (Chain.ofColumn column).calls.filterMap Call.constraint? =
      Constraint.all.filter column.demands := by
  -- A primary key is called for in three branches, and in none of them twice.
  have key : (Chain.keyCalls column).filterMap Call.constraint? =
      if column.primaryKey then [.primaryKey] else [] := by
    unfold Chain.keyCalls Chain.keyCalls.nowCalls
    split_ifs <;> rfl
  unfold Chain.ofColumn Column.demands Constraint.all
  simp only [List.filterMap_append, key]
  cases column.primaryKey <;> cases column.needsNotNull <;> cases column.needsUnique <;> rfl

/-- No two calls are written alike. -/
theorem Call.code_injective : Function.Injective Call.code := by
  intro call other same
  cases call <;> cases other <;> first | rfl | exact absurd same (by decide)

/-- In a chain the call for a constraint is written once, or not at all. -/
theorem count_codes (column : Column) (c : Constraint) :
    ((Chain.ofColumn column).calls.map Call.code).count (marker c).code =
      if column.demands c then 1 else 0 := by
  have only (m : Call) : m.constraint? = some c ↔ m = marker c := by
    cases m <;> cases c <;> simp [Call.constraint?, marker]
  rw [count_map_of_only fun m _ same => Call.code_injective same,
    count_marker only (constraints_calls column)]

end Drizzle

/-! ## Agreement -/

/-- Says that the markers of a column agree as they are written: the words behind its type in each
dialect, the attributes of its field, and the calls of its chain. -/
structure ConstraintsAgree (column : Column) (words : Sql.Dialect → List String)
    (isOptional : Bool) (attributes calls : List String) : Prop where
  primaryKey : ∀ dialect, ("PRIMARY KEY" ∈ words dialect ↔ "@id" ∈ attributes) ∧
    ("@id" ∈ attributes ↔ calls.count ".primaryKey()" = 1)
  primaryKeyOnce : calls.count ".primaryKey()" ≤ 1
  notNull : ∀ dialect, "NOT NULL" ∈ words dialect ↔ ".notNull()" ∈ calls
  optional : ∀ dialect, isOptional = true ↔
    "PRIMARY KEY" ∉ words dialect ∧ "NOT NULL" ∉ words dialect
  unique : ("UNIQUE" ∈ words .postgres ↔ "@unique" ∈ attributes) ∧
    ("@unique" ∈ attributes ↔ ".unique()" ∈ calls)
  /-- A primary key implies the other constraints, so none of them is marked beside it. -/
  alone : (∀ dialect, "PRIMARY KEY" ∈ words dialect →
      "NOT NULL" ∉ words dialect ∧ "UNIQUE" ∉ words dialect) ∧
    ("@id" ∈ attributes → isOptional = false ∧ "@unique" ∉ attributes) ∧
    (".primaryKey()" ∈ calls → ".notNull()" ∉ calls ∧ ".unique()" ∉ calls)
  uniqueMysql : "UNIQUE" ∈ words .mysql ↔ "UNIQUE" ∈ words .postgres ∨
    (column.type.base = "SERIAL" ∧ column.primaryKey = false)
  /-- A column that counts by itself is a key, and it is one key only. -/
  counting : ∀ dialect,
    ("AUTO_INCREMENT" ∈ words dialect ↔ dialect = .mysql ∧ column.type.base = "SERIAL") ∧
    ("AUTO_INCREMENT" ∈ words dialect →
      (words dialect).count "PRIMARY KEY" + (words dialect).count "UNIQUE" = 1)
  /-- The markers say what the flags of the column say. -/
  flags : ("@id" ∈ attributes ↔ column.primaryKey = true) ∧
    (".notNull()" ∈ calls ↔ column.nullable = false ∧ column.primaryKey = false) ∧
    ("@unique" ∈ attributes ↔ column.unique = true ∧ column.primaryKey = false)

/-- Says that the written markers of a column are those for its flags, target by target. -/
structure ReadsFlags (column : Column) (words : Sql.Dialect → List String) (isOptional : Bool)
    (attributes calls : List String) : Prop where
  sqlKey : ∀ dialect, (words dialect).count "PRIMARY KEY" = if column.primaryKey then 1 else 0
  sqlNotNull : ∀ dialect, "NOT NULL" ∈ words dialect ↔ column.needsNotNull = true
  sqlUnique : ∀ dialect, (words dialect).count "UNIQUE" =
    if (column.unique || (dialect = .mysql && column.type.base = "SERIAL")) &&
      !column.primaryKey then 1 else 0
  sqlCounting : ∀ dialect,
    "AUTO_INCREMENT" ∈ words dialect ↔ dialect = .mysql ∧ column.type.base = "SERIAL"
  fieldOptional : isOptional = column.isOptional
  fieldKey : "@id" ∈ attributes ↔ column.primaryKey = true
  fieldUnique : "@unique" ∈ attributes ↔ column.needsUnique = true
  callKey : calls.count ".primaryKey()" = if column.primaryKey then 1 else 0
  callNotNull : ".notNull()" ∈ calls ↔ column.needsNotNull = true
  callUnique : ".unique()" ∈ calls ↔ column.needsUnique = true

/-- The markers of a column are those for its flags, whatever the provider of the data source is. -/
theorem readsFlags (provider : String) (column : Column) :
    ReadsFlags column
      (fun dialect => (Sql.modifiers dialect column).map Sql.Modifier.words)
      (Prisma.Field.ofColumn provider column).optional
      ((Prisma.Field.ofColumn provider column).attributes.map Prisma.Attribute.text)
      ((Drizzle.Chain.ofColumn column).calls.map Drizzle.Call.code) where
  sqlKey dialect := Sql.count_words_of_ne dialect column .primaryKey (by decide)
  sqlNotNull dialect := mem_of_count (Sql.count_words_of_ne dialect column .notNull (by decide))
  sqlUnique dialect := Sql.count_words_unique dialect column
  sqlCounting dialect := Sql.mem_words_autoIncrement dialect column
  fieldOptional := rfl
  fieldKey := mem_of_count (Prisma.count_texts provider column .id rfl)
  fieldUnique := mem_of_count (Prisma.count_texts provider column .unique rfl)
  callKey := Drizzle.count_codes column .primaryKey
  callNotNull := mem_of_count (Drizzle.count_codes column .notNull)
  callUnique := mem_of_count (Drizzle.count_codes column .unique)

/-- Markers that are those for the same flags agree. -/
theorem ReadsFlags.agree {column : Column} {words : Sql.Dialect → List String} {isOptional : Bool}
    {attributes calls : List String} (reads : ReadsFlags column words isOptional attributes calls) :
    ConstraintsAgree column words isOptional attributes calls := by
  have sqlKey (dialect : Sql.Dialect) :
      "PRIMARY KEY" ∈ words dialect ↔ column.primaryKey = true :=
    mem_of_count (reads.sqlKey dialect)
  have sqlUnique (dialect : Sql.Dialect) := mem_of_count (reads.sqlUnique dialect)
  have callKey : ".primaryKey()" ∈ calls ↔ column.primaryKey = true := mem_of_count reads.callKey
  constructor
  case primaryKey =>
    intro dialect
    rw [sqlKey, reads.fieldKey, reads.callKey]
    cases column.primaryKey <;> simp
  case primaryKeyOnce =>
    rw [reads.callKey]
    cases column.primaryKey <;> simp
  case notNull =>
    intro dialect
    rw [reads.sqlNotNull, reads.callNotNull]
  case optional =>
    intro dialect
    rw [sqlKey, reads.sqlNotNull, reads.fieldOptional, Column.isOptional, Column.needsNotNull]
    cases column.nullable <;> cases column.primaryKey <;> simp
  case unique =>
    rw [sqlUnique, reads.fieldUnique, reads.callUnique]
    simp [Column.needsUnique]
  case alone =>
    refine ⟨fun dialect key => ?_, fun key => ?_, fun key => ?_⟩
    · rw [sqlKey] at key
      rw [reads.sqlNotNull, sqlUnique]
      simp [Column.needsNotNull, key]
    · rw [reads.fieldKey] at key
      rw [reads.fieldOptional, reads.fieldUnique]
      simp [Column.isOptional, Column.needsUnique, key]
    · rw [callKey] at key
      rw [reads.callNotNull, reads.callUnique]
      simp [Column.needsNotNull, Column.needsUnique, key]
  case uniqueMysql =>
    rw [sqlUnique, sqlUnique]
    cases column.unique <;> cases column.primaryKey <;> simp
  case counting =>
    refine fun dialect => ⟨reads.sqlCounting dialect, fun keyword => ?_⟩
    obtain ⟨rfl, serial⟩ := (reads.sqlCounting dialect).mp keyword
    rw [reads.sqlKey, reads.sqlUnique]
    cases column.primaryKey <;> simp [serial]
  case flags =>
    rw [reads.fieldKey, reads.callNotNull, reads.fieldUnique]
    simp [Column.needsNotNull, Column.needsUnique]

/-- The markers of every column agree in all targets, under all settings. In the text of each target
they are the last words of the column, behind its name, its type and what belongs to the type. -/
theorem constraints_agree (settings : Settings) (column : Column) :
    let field := Prisma.Field.ofColumn settings.prisma.provider column
    let chain := Drizzle.Chain.ofColumn column
    let words (dialect : Sql.Dialect) := (Sql.modifiers dialect column).map Sql.Modifier.words
    let attributes := field.attributes.map Prisma.Attribute.text
    let calls := chain.calls.map Drizzle.Call.code
    ConstraintsAgree column words field.optional attributes calls ∧
    (∀ dialect, Sql.columnDefinition (.ofSettings dialect settings) column =
      "    " ++ " ".intercalate ((Sql.Style.ofSettings dialect settings).identifier column.name
        :: dialect.nativeType column.type :: words dialect)) ∧
    field.text =
      " ".intercalate ((field.scalar.word ++ if field.optional then "?" else "") :: attributes) ∧
    chain.code = "".intercalate (
      (chain.builder.word ++ "(" ++ Drizzle.literal column.name ++ chain.options.code ++ ")")
        :: calls) := by
  intro field chain words attributes calls
  refine ⟨(readsFlags settings.prisma.provider column).agree, fun dialect => ?_, ?_, ?_⟩
  · exact Sql.columnDefinition_words (.ofSettings dialect settings) column
  · exact Prisma.Field.text_eq field
  · exact Drizzle.Chain.code_eq chain

end SchemaPress
