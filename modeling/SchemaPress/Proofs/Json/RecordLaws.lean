import Mathlib.Data.List.Nodup
import Mathlib.Data.List.Pairwise
import SchemaPress.Proofs.Json.PlainReading

/-!
# Records do not depend on the order of their members

What a record with known fields is read as depends on which members it has and not on where they
stand. Members may change places (`read_perm`), a member of another name is passed over
(`read_unknown`), and a member with the standard value of its field may be left out
(`read_standard`). A field that comes twice, or a required one that does not come, makes the record
unreadable wherever it stands (`read_repeated`, `read_missing`).

All of it rests on one fact about two members (`take?_comm`): a draft takes them in either order,
because the fields of a lawful shape are kept in parts of the draft that do not meet.
-/

set_option autoImplicit false

namespace SchemaPress.Document

open Json (Written Glyph)

/-! ## Fields in separate parts of a draft -/

/-- Says that two fields are kept in separate parts of a draft: reading one of them does not set the
other, and it makes no difference which is read first. -/
structure Field.Apart {δ : Type} (first second : Field Written Option δ) : Prop where
  keepsSecond : ∀ value draft changed, first.read value draft = some changed →
    second.isSet changed = second.isSet draft
  keepsFirst : ∀ value draft changed, second.read value draft = some changed →
    first.isSet changed = first.isSet draft
  commute : ∀ one other draft, (first.read one draft).bind (second.read other) =
    (second.read other draft).bind (first.read one)

namespace Field

variable {δ : Type}

/-- A field kept in a part of a draft is read by setting that part. -/
theorem read_of {β : Type} {name : String} {get : δ → Option β} {set : β → δ → δ}
    {read : Written → Option β} (value : Written) (draft : δ) :
    (Field.of name get set read).read value draft = (read value).map (set · draft) := by
  simp only [Field.of]
  cases read value <;> rfl

/-- A field is set once it has been read, if the part of the draft that was set is there. -/
theorem isSet_of_read {β : Type} {name : String} {get : δ → Option β} {set : β → δ → δ}
    {read : Written → Option β} (kept : ∀ value draft, (get (set value draft)).isSome = true)
    (value : Written) (draft changed : δ)
    (h : (Field.of name get set read).read value draft = some changed) :
    (Field.of name get set read).isSet changed = true := by
  rw [read_of] at h
  obtain ⟨_, -, rfl⟩ := Option.map_eq_some_iff.mp h
  exact kept _ _

/-- Two fields are apart from each other. -/
theorem Apart.symm {first second : Field Written Option δ} (apart : Apart first second) :
    Apart second first :=
  ⟨apart.keepsFirst, apart.keepsSecond, fun one other draft => (apart.commute other one draft).symm⟩

/-- Two fields are apart if setting either part of the draft leaves the other part as it is. -/
theorem Apart.of {β γ : Type} {name name' : String} {get : δ → Option β} {get' : δ → Option γ}
    {set : β → δ → δ} {set' : γ → δ → δ} {read : Written → Option β} {read' : Written → Option γ}
    (keeps : ∀ value draft, get' (set value draft) = get' draft)
    (keeps' : ∀ value draft, get (set' value draft) = get draft)
    (commute : ∀ value other draft, set' other (set value draft) = set value (set' other draft)) :
    Apart (.of name get set read) (.of name' get' set' read') where
  keepsSecond value draft changed h := by
    rw [read_of] at h
    obtain ⟨_, -, rfl⟩ := Option.map_eq_some_iff.mp h
    show (get' _).isSome = (get' _).isSome
    rw [keeps]
  keepsFirst value draft changed h := by
    rw [read_of] at h
    obtain ⟨_, -, rfl⟩ := Option.map_eq_some_iff.mp h
    show (get _).isSome = (get _).isSome
    rw [keeps']
  commute one other draft := by
    rw [read_of, read_of]
    cases hone : read one <;> cases hother : read' other <;>
      simp [read_of, hone, hother, commute]

end Field

namespace Shape

variable {δ α : Type}

/-- Says that the fields of a record have different names and are kept in separate parts of its
drafts, which are empty at first. -/
structure Lawful (shape : Shape Written Option δ α) : Prop where
  names : (shape.fields.map (·.name)).Nodup
  blank : ∀ field ∈ shape.fields, field.isSet shape.empty = false
  sets : ∀ field ∈ shape.fields, ∀ value draft changed,
    field.read value draft = some changed → field.isSet changed = true
  apart : shape.fields.Pairwise Field.Apart

/-! ## One member after another -/

/-- The field of a name. -/
def field? (shape : Shape Written Option δ α) (name : String) : Option (Field Written Option δ) :=
  shape.fields.find? (·.name == name)

/-- Takes a member into a draft. -/
def take? (shape : Shape Written Option δ α) (draft : δ) (member : List Glyph × Written) :
    Option δ :=
  (Glyph.text? member.1).bind fun name =>
    match shape.field? name with
    | none => some draft
    | some field => if field.isSet draft then none else field.read member.2 draft

/-- What is read of all members, one after another. -/
def gather (shape : Shape Written Option δ α) (members : List (List Glyph × Written)) : Option δ :=
  members.foldlM shape.take? shape.empty

/-- A record is read as the value of the draft of its members. -/
theorem read_record (shape : Shape Written Option δ α) (members : List (List Glyph × Written)) :
    shape.read (.record members) =
      (shape.gather members).bind fun draft => (shape.finish draft).toOption := by
  have taken : (fun draft member => shape.addMember (.record members) draft
      ⟨Glyph.text? member.1, .start, member.2⟩) = shape.take? := by
    funext draft member
    refine congrArg (Option.bind (Glyph.text? member.1)) (funext fun name => ?_)
    unfold field?
    cases shape.fields.find? (·.name == name) <;> rfl
  have collected : Shape.read.collect shape (.record members) =
      (shape.gather members).map fun draft => (true, draft, .start) := by
    show ((Written.named members).foldlM (shape.addMember (.record members)) shape.empty).bind
      (fun draft => some (true, draft, Text.Place.start)) = _
    rw [Written.named, List.foldlM_map, taken, gather]
    cases members.foldlM shape.take? shape.empty <;> rfl
  unfold Shape.read
  rw [collected]
  cases shape.gather members with
  | none => rfl
  | some draft =>
    simp only [Option.map_some, Option.bind_some, bind]
    cases shape.finish draft <;> rfl

/-- There is no field of a name that is not known. -/
theorem field?_eq_none {shape : Shape Written Option δ α} {name : String} :
    shape.field? name = none ↔ name ∉ shape.fields.map (·.name) := by
  simp [field?]

/-- The field of a name is one of the fields and has this name. -/
theorem mem_of_field? {shape : Shape Written Option δ α} {name : String}
    {field : Field Written Option δ} (found : shape.field? name = some field) :
    field ∈ shape.fields ∧ field.name = name :=
  ⟨List.mem_of_find?_eq_some found, by simpa using List.find?_some found⟩

/-- There is a field of each known name. -/
theorem exists_field? {shape : Shape Written Option δ α} {name : String}
    (known : name ∈ shape.fields.map (·.name)) : ∃ field, shape.field? name = some field :=
  Option.ne_none_iff_exists'.mp fun absent => field?_eq_none.mp absent known

namespace Lawful

variable {shape : Shape Written Option δ α}

/-- Fields of different names are kept in separate parts of a draft. -/
theorem apart_of_ne (lawful : shape.Lawful) {first second : Field Written Option δ}
    (hfirst : first ∈ shape.fields) (hsecond : second ∈ shape.fields)
    (different : first.name ≠ second.name) : Field.Apart first second := by
  have symm : Std.Symm (@Field.Apart δ) := ⟨fun _ _ => Field.Apart.symm⟩
  exact lawful.apart.forall hfirst hsecond fun same => different (congrArg Field.name same)

/-- There is one field of a name only. -/
theorem eq_of_name (lawful : shape.Lawful) {first second : Field Written Option δ}
    (hfirst : first ∈ shape.fields) (hsecond : second ∈ shape.fields)
    (same : first.name = second.name) : first = second :=
  List.inj_on_of_nodup_map lawful.names hfirst hsecond same

/-- Two members may be taken in either order. -/
theorem take?_comm (lawful : shape.Lawful) (draft : δ) (first second : List Glyph × Written) :
    (shape.take? draft first).bind (shape.take? · second) =
      (shape.take? draft second).bind (shape.take? · first) := by
  obtain ⟨key, value⟩ := first
  obtain ⟨key', value'⟩ := second
  unfold take?
  cases Glyph.text? key with
  | none => cases Glyph.text? key' <;> simp
  | some name =>
    cases Glyph.text? key' with
    | none => simp
    | some name' =>
      simp only [Option.bind_some]
      cases found : shape.field? name with
      | none => simp
      | some field =>
        cases found' : shape.field? name' with
        | none => simp
        | some field' =>
          obtain ⟨mem, rfl⟩ := mem_of_field? found
          obtain ⟨mem', rfl⟩ := mem_of_field? found'
          simp only
          by_cases same : field.name = field'.name
          · -- The same field twice is refused at the second member, whichever that is.
            obtain rfl := lawful.eq_of_name mem mem' same
            have twice (one other : Written) : ((if field.isSet draft then none
                else field.read one draft).bind fun changed =>
                  if field.isSet changed then none else field.read other changed) = none := by
              split
              · rfl
              · cases read : field.read one draft with
                | none => rfl
                | some changed => simp [lawful.sets field mem one draft changed read]
            rw [twice, twice]
          · -- Reading one field does not set the other, so either may be looked at first.
            have apart := lawful.apart_of_ne mem mem' same
            have after (value other : Written) (first second : Field Written Option δ)
                (keeps : ∀ changed, first.read value draft = some changed →
                  second.isSet changed = second.isSet draft) :
                ((first.read value draft).bind fun changed =>
                    if second.isSet changed then none else second.read other changed) =
                  if second.isSet draft then none
                  else (first.read value draft).bind (second.read other) := by
              cases read : first.read value draft with
              | none => simp
              | some changed => simp [keeps changed read]
            have forward := after value value' field field' (apart.keepsSecond value draft)
            have backward := after value' value field' field (apart.keepsFirst value' draft)
            have commute := apart.commute value value' draft
            cases hset : field.isSet draft <;> cases hset' : field'.isSet draft <;>
              simp only [hset, hset', Bool.false_eq_true, if_false, if_true] at forward backward ⊢
            · rw [forward, backward, commute]
            · simpa using forward
            · simpa using backward.symm
            · rfl

/-- After a member has been taken, those fields are set that were set before, and the one that the
member names. -/
theorem isSet_take? (lawful : shape.Lawful) {field : Field Written Option δ}
    (mem : field ∈ shape.fields) {draft changed : δ} {member : List Glyph × Written}
    (taken : shape.take? draft member = some changed) :
    field.isSet changed = true ↔
      field.isSet draft = true ∨ Glyph.text? member.1 = some field.name := by
  obtain ⟨name, named, taken⟩ := Option.bind_eq_some_iff.mp taken
  rw [named]
  cases found : shape.field? name with
  | none =>
    rw [found] at taken
    obtain rfl : draft = changed := by simpa using taken
    have other : name ≠ field.name := fun same =>
      field?_eq_none.mp found (same ▸ List.mem_map_of_mem mem)
    simp [other]
  | some taking =>
    obtain ⟨mem', rfl⟩ := mem_of_field? found
    simp only [found] at taken
    split at taken
    · cases taken
    · by_cases same : taking.name = field.name
      · obtain rfl := lawful.eq_of_name mem' mem same
        simp [lawful.sets taking mem' _ _ _ taken]
      · simp [(lawful.apart_of_ne mem' mem same).keepsSecond _ _ _ taken, same]

/-- After some members have been taken, those fields are set that were set before, and those that
the members name. -/
theorem isSet_foldlM (lawful : shape.Lawful) {field : Field Written Option δ}
    (mem : field ∈ shape.fields) {members : List (List Glyph × Written)} {start draft : δ}
    (gathered : members.foldlM shape.take? start = some draft) :
    field.isSet draft = true ↔
      field.isSet start = true ∨ field.name ∈ Written.keys members := by
  induction members generalizing start with
  | nil =>
    obtain rfl : start = draft := by simpa using gathered
    simp [Written.keys]
  | cons member members ih =>
    rw [List.foldlM_cons] at gathered
    obtain ⟨changed, taken, gathered⟩ := Option.bind_eq_some_iff.mp gathered
    rw [ih gathered, lawful.isSet_take? mem taken, or_assoc]
    refine or_congr_right ?_
    cases named : Glyph.text? member.1 <;>
      simp [Written.keys, named, eq_comm]

/-- Exactly those fields of a draft are set that some member names. -/
theorem isSet_gather (lawful : shape.Lawful) {field : Field Written Option δ}
    (mem : field ∈ shape.fields) {members : List (List Glyph × Written)} {draft : δ}
    (gathered : shape.gather members = some draft) :
    field.isSet draft = true ↔ field.name ∈ Written.keys members := by
  simpa [lawful.blank field mem] using lawful.isSet_foldlM mem gathered

/-- So may all members. -/
theorem gather_perm (lawful : shape.Lawful) {members others : List (List Glyph × Written)}
    (perm : members.Perm others) : shape.gather members = shape.gather others := by
  unfold gather
  generalize shape.empty = draft
  -- The draft in which the members begin is arbitrary, since those before them may have changed it.
  induction perm generalizing draft with
  | nil => rfl
  | cons member _ ih =>
    rw [List.foldlM_cons, List.foldlM_cons]
    exact congrArg _ (funext ih)
  | swap first second members =>
    simp only [List.foldlM_cons]
    rw [← bind_assoc, ← bind_assoc]
    exact congrArg (· >>= _) (lawful.take?_comm draft second first)
  | trans _ _ ih ih' => rw [ih, ih']

/-- A member at any place may be taken last. -/
theorem gather_insert (lawful : shape.Lawful) (before after : List (List Glyph × Written))
    (member : List Glyph × Written) :
    shape.gather (before ++ member :: after) =
      (shape.gather (before ++ after)).bind (shape.take? · member) := by
  have perm : (before ++ member :: after).Perm ((before ++ after) ++ [member]) :=
    List.perm_middle.trans (List.perm_append_singleton member (before ++ after)).symm
  rw [lawful.gather_perm perm]
  unfold gather
  rw [List.foldlM_append]
  simp [bind]

/-! ## Whole records -/

/-- A record may have its members in any order. -/
theorem read_perm (lawful : shape.Lawful) {members others : List (List Glyph × Written)}
    (perm : members.Perm others) : shape.read (.record members) = shape.read (.record others) := by
  rw [read_record, read_record, lawful.gather_perm perm]

variable {before after : List (List Glyph × Written)} {key : List Glyph} {value : Written}
  {name : String}

/-- A member of a name that no field has is passed over. -/
theorem read_unknown (lawful : shape.Lawful) (named : Glyph.text? key = some name)
    (unknown : name ∉ shape.fields.map (·.name)) :
    shape.read (.record (before ++ (key, value) :: after)) =
      shape.read (.record (before ++ after)) := by
  have passed (draft : δ) : shape.take? draft (key, value) = some draft := by
    simp [take?, named, field?_eq_none.mpr unknown]
  rw [read_record, read_record, lawful.gather_insert]
  simp only [passed]
  cases shape.gather (before ++ after) <;> rfl

/-- A member whose key stands for no text is not passed over. -/
theorem read_unnamed (lawful : shape.Lawful) (unnamed : Glyph.text? key = none) :
    shape.read (.record (before ++ (key, value) :: after)) = none := by
  have refused (draft : δ) : shape.take? draft (key, value) = none := by
    simp [take?, unnamed]
  rw [read_record, lawful.gather_insert]
  simp [refused]

/-- A known field must not come twice. -/
theorem read_repeated (lawful : shape.Lawful) (named : Glyph.text? key = some name)
    (known : name ∈ shape.fields.map (·.name)) (present : name ∈ Written.keys (before ++ after)) :
    shape.read (.record (before ++ (key, value) :: after)) = none := by
  obtain ⟨field, found⟩ := exists_field? known
  obtain ⟨mem, rfl⟩ := mem_of_field? found
  rw [read_record, lawful.gather_insert]
  cases gathered : shape.gather (before ++ after) with
  | none => rfl
  | some draft =>
    have set : field.isSet draft = true := (lawful.isSet_gather mem gathered).mpr present
    simp [take?, named, found, set]

/-- In a record that can be read a known field comes once. -/
theorem not_mem_keys (lawful : shape.Lawful) (named : Glyph.text? key = some name)
    (known : name ∈ shape.fields.map (·.name)) {result : α}
    (read : shape.read (.record (before ++ (key, value) :: after)) = some result) :
    name ∉ Written.keys (before ++ after) := by
  intro present
  rw [lawful.read_repeated named known present] at read
  cases read

end Lawful

/-- Says that a field may have a value instead of being left out. -/
def IsStandard (shape : Shape Written Option δ α) (name : String) (value : Written) : Prop :=
  ∃ field, shape.field? name = some field ∧ ∀ draft, field.isSet draft = false →
    ∃ changed, field.read value draft = some changed ∧ shape.finish changed = shape.finish draft

/-- Says that a record without a field is not complete. -/
def IsRequired (shape : Shape Written Option δ α) (name : String) : Prop :=
  ∃ field, shape.field? name = some field ∧ ∀ draft, field.isSet draft = false →
    (shape.finish draft).toOption = none

/-- Says that a field is a list of values that are read in some way. -/
def IsListOf {β : Type} (shape : Shape Written Option δ α) (name : String)
    (inner : Written → Option β) : Prop :=
  ∃ field, shape.field? name = some field ∧ ∃ set : List β → δ → δ, ∀ value draft,
    field.read value draft = (readList inner value).map (set · draft)

/-- A field kept in a part of a draft may have a value if setting that part to it makes no
difference to a draft in which it is absent. -/
theorem IsStandard.of {β : Type} {shape : Shape Written Option δ α} {name : String}
    {get : δ → Option β} {set : β → δ → δ} {read : Written → Option β} {value : Written}
    {result : β} (found : shape.field? name = some (.of name get set read))
    (reads : read value = some result)
    (same : ∀ draft, get draft = none → shape.finish (set result draft) = shape.finish draft) :
    shape.IsStandard name value := by
  refine ⟨_, found, fun draft unset => ⟨set result draft, ?_, same draft ?_⟩⟩
  · rw [Field.read_of, reads]
    rfl
  · simpa [Field.of] using unset

/-- A field kept in a part of a draft is required if no draft in which it is absent can be finished.
-/
theorem IsRequired.of {β : Type} {shape : Shape Written Option δ α} {name : String}
    {get : δ → Option β} {set : β → δ → δ} {read : Written → Option β}
    (found : shape.field? name = some (.of name get set read))
    (lacking : ∀ draft, get draft = none → (shape.finish draft).toOption = none) :
    shape.IsRequired name :=
  ⟨_, found, fun draft unset => lacking draft (by simpa [Field.of] using unset)⟩

/-- A draft cannot be finished where the part that is looked at is absent. -/
theorem lacking_here {β : Type} {name : String} {value : Option β} {next : β → Except String α}
    (absent : value = none) : (Document.required name value >>= next).toOption = none := by
  subst absent
  rfl

/-- A draft cannot be finished where a part that is looked at later is absent. -/
theorem lacking_later {β : Type} {value : Except String β} {next : β → Except String α}
    (lacking : ∀ result, (next result).toOption = none) : (value >>= next).toOption = none := by
  cases value with
  | error name => rfl
  | ok result => exact lacking result

/-- A field kept in a part of a draft is a list if it is read as one. -/
theorem IsListOf.of {β : Type} {shape : Shape Written Option δ α} {name : String}
    {get : δ → Option (List β)} {set : List β → δ → δ} {inner : Written → Option β}
    (found : shape.field? name = some (.of name get set (readList inner))) :
    shape.IsListOf name inner :=
  ⟨_, found, set, fun _ _ => Field.read_of _ _⟩

/-- A required field is known. -/
theorem IsRequired.known {shape : Shape Written Option δ α} {name : String}
    (required : shape.IsRequired name) : name ∈ shape.fields.map (·.name) := by
  obtain ⟨field, found, -⟩ := required
  obtain ⟨mem, rfl⟩ := mem_of_field? found
  exact List.mem_map_of_mem mem

/-- So is a field with a standard value. -/
theorem IsStandard.known {shape : Shape Written Option δ α} {name : String} {value : Written}
    (standard : shape.IsStandard name value) : name ∈ shape.fields.map (·.name) := by
  obtain ⟨field, found, -⟩ := standard
  obtain ⟨mem, rfl⟩ := mem_of_field? found
  exact List.mem_map_of_mem mem

namespace Lawful

variable {shape : Shape Written Option δ α} {before after : List (List Glyph × Written)}
  {key : List Glyph} {value : Written} {name : String}

/-- A field with its standard value is as good as one that is left out. -/
theorem read_standard (lawful : shape.Lawful) (named : Glyph.text? key = some name)
    (standard : shape.IsStandard name value) (absent : name ∉ Written.keys (before ++ after)) :
    shape.read (.record (before ++ (key, value) :: after)) =
      shape.read (.record (before ++ after)) := by
  obtain ⟨field, found, standard⟩ := standard
  obtain ⟨mem, rfl⟩ := mem_of_field? found
  rw [read_record, read_record, lawful.gather_insert]
  cases gathered : shape.gather (before ++ after) with
  | none => rfl
  | some draft =>
    have unset : field.isSet draft = false := by
      simpa [absent] using lawful.isSet_gather mem gathered
    obtain ⟨changed, read, same⟩ := standard draft unset
    simp [take?, named, found, unset, read, same]

/-- A required field must come. -/
theorem read_missing (lawful : shape.Lawful) (required : shape.IsRequired name)
    {members : List (List Glyph × Written)} (absent : name ∉ Written.keys members) :
    shape.read (.record members) = none := by
  obtain ⟨field, found, required⟩ := required
  obtain ⟨mem, rfl⟩ := mem_of_field? found
  rw [read_record]
  cases gathered : shape.gather members with
  | none => rfl
  | some draft =>
    have unset : field.isSet draft = false := by
      simpa [absent] using lawful.isSet_gather mem gathered
    exact required draft unset

variable {β : Type} {inner : Written → Option β} {front back : List Written}
  {item other : Written}

/-- An item of a list may be exchanged for one that is read as the same. -/
theorem read_item (nested : shape.IsListOf name inner)
    (named : Glyph.text? key = some name) (same : inner item = inner other) :
    shape.read (.record (before ++ (key, .list (front ++ item :: back)) :: after)) =
      shape.read (.record (before ++ (key, .list (front ++ other :: back)) :: after)) := by
  obtain ⟨field, found, set, reads⟩ := nested
  have items : readList inner (.list (front ++ item :: back)) =
      readList inner (.list (front ++ other :: back)) := by
    show (List.mapM inner (front ++ item :: back)).bind _ =
      (List.mapM inner (front ++ other :: back)).bind _
    rw [List.mapM_append, List.mapM_append, List.mapM_cons, List.mapM_cons, same]
  have taken (draft : δ) : shape.take? draft (key, .list (front ++ item :: back)) =
      shape.take? draft (key, .list (front ++ other :: back)) := by
    simp only [take?, named, found, Option.bind_some, reads, items]
  rw [read_record, read_record]
  unfold gather
  simp only [List.foldlM_append, List.foldlM_cons, taken]

/-- A record with an item that cannot be read cannot be read. -/
theorem read_item_none (nested : shape.IsListOf name inner)
    (named : Glyph.text? key = some name) (unreadable : inner item = none) :
    shape.read (.record (before ++ (key, .list (front ++ item :: back)) :: after)) = none := by
  obtain ⟨field, found, set, reads⟩ := nested
  have items : readList inner (.list (front ++ item :: back)) = none := by
    show (List.mapM inner (front ++ item :: back)).bind _ = none
    rw [List.mapM_append, List.mapM_cons, unreadable]
    cases List.mapM inner front <;> rfl
  have taken (draft : δ) : shape.take? draft (key, .list (front ++ item :: back)) = none := by
    simp [take?, named, found, reads, items]
  rw [read_record]
  unfold gather
  rw [List.foldlM_append]
  cases before.foldlM shape.take? shape.empty with
  | none => rfl
  | some draft => simp [List.foldlM_cons, taken]

end Lawful

end Shape

end SchemaPress.Document
