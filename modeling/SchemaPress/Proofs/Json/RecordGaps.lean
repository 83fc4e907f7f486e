import SchemaPress.Proofs.Json.ReadingPrinted

/-!
# Records with gaps

A record whose fields may all be left out is read with gaps as if they had been filled with the
standard values (`read_gapped`): whichever members are missing, in whatever order the others are,
and whatever members of other names stand between them.
-/

set_option autoImplicit false

namespace SchemaPress.Document

open Json (Written Glyph)

variable {values filled : List (String × Written)} {removed : String → Bool}

/-- Values that are spelled out have their own names for keys. -/
theorem keys_spelled (values : List (String × Written)) :
    Written.keys (spelled values) = values.map Prod.fst := by
  induction values with
  | nil => rfl
  | cons value values ih =>
    rw [Written.keys] at ih ⊢
    simp only [spelled, List.map_cons, List.filterMap_cons, Glyph.text?_ofChars] at ih ⊢
    rw [ih]

/-- Says that a record holds some values but those of the removed names, in any order and among
members of other names than the known ones. -/
def IsGapped (known : List String) (removed : String → Bool) (values : List (String × Written))
    (form : Written) : Prop :=
  ∃ members others, form = .record members ∧
    members.Perm (spelled (values.filter fun value => !removed value.1) ++ others) ∧
    ∀ other ∈ others, ∃ name, Glyph.text? other.1 = some name ∧ name ∉ known

/-- A record is not changed by leaving out none of its members. -/
theorem isGapped_none (known : List String) (values : List (String × Written)) :
    IsGapped known (fun _ => false) values (.record (spelled values)) := by
  refine ⟨spelled values, [], rfl, ?_, List.forall_mem_nil _⟩
  simp

namespace Shape

variable {δ α : Type} {shape : Shape Written Option δ α}

/-- Says that a value fills the gap that another one leaves if it is removed. -/
def Fills (shape : Shape Written Option δ α) (removed : String → Bool)
    (value filling : String × Written) : Prop :=
  filling.1 = value.1 ∧ (removed value.1 = false → filling.2 = value.2) ∧
    (removed value.1 = true → shape.IsStandard filling.1 filling.2)

/-- Gaps are filled without a change of names. -/
theorem names_of_fills (fills : List.Forall₂ (shape.Fills removed) values filled) :
    filled.map Prod.fst = values.map Prod.fst := by
  induction fills with
  | nil => rfl
  | cons head _ ih => rw [List.map_cons, List.map_cons, head.1, ih]

namespace Lawful

/-- Members with unknown names behind the others do not matter. -/
theorem read_others (lawful : shape.Lawful) {members others : List (List Glyph × Written)}
    (unknown : ∀ other ∈ others, ∃ name, Glyph.text? other.1 = some name ∧
      name ∉ shape.fields.map (·.name)) :
    shape.read (.record (members ++ others)) = shape.read (.record members) := by
  induction others with
  | nil => rw [List.append_nil]
  | cons other others ih =>
    rw [List.forall_mem_cons] at unknown
    obtain ⟨⟨name, named, new⟩, unknown⟩ := unknown
    rw [← ih unknown]
    exact lawful.read_unknown named new

/-- Gaps may be filled with standard values, behind any other members. -/
theorem read_filter (lawful : shape.Lawful)
    (fills : List.Forall₂ (shape.Fills removed) values filled) (before : List (String × Written))
    (distinct : ((before ++ filled).map Prod.fst).Nodup) :
    shape.read (.record (spelled (before ++ values.filter fun value => !removed value.1))) =
      shape.read (.record (spelled (before ++ filled))) := by
  induction fills generalizing before with
  | nil => rfl
  | @cons value filling values filled head _ ih =>
    obtain ⟨_, written⟩ := value
    obtain ⟨name, filledIn⟩ := filling
    obtain ⟨rfl, kept, standard⟩ := head
    dsimp only at kept standard
    -- A value that is kept joins those before it. A gap is filled when those behind it have been:
    -- then every other name is known to be different.
    rw [List.filter_cons]
    cases gap : removed name with
    | false =>
      obtain rfl := kept gap
      have further := ih (before ++ [(name, filledIn)]) (by simpa using distinct)
      simpa using further
    | true =>
      rw [List.map_append, List.map_cons, List.nodup_middle, ← List.map_append] at distinct
      obtain ⟨apart, shorter⟩ := List.nodup_cons.mp distinct
      have absent : name ∉ Written.keys (spelled before ++ spelled filled) := by
        rwa [spelled, spelled, ← List.map_append, ← spelled, keys_spelled]
      have put := lawful.read_standard (Glyph.text?_ofChars name) (standard gap) absent
      simp only [Bool.not_true, Bool.false_eq_true, if_false]
      rw [ih before shorter]
      simpa [spelled] using put.symm

/-- A record with gaps is read as if they had been filled. -/
theorem read_gapped (lawful : shape.Lawful) {known : List String} {form : Written}
    (complete : shape.fields.map (·.name) ⊆ known) (gapped : IsGapped known removed values form)
    (fills : List.Forall₂ (shape.Fills removed) values filled)
    (distinct : (values.map Prod.fst).Nodup) :
    shape.read form = shape.read (.record (spelled filled)) := by
  obtain ⟨members, others, rfl, perm, unknown⟩ := gapped
  have passed : ∀ other ∈ others, ∃ name, Glyph.text? other.1 = some name ∧
      name ∉ shape.fields.map (·.name) := by
    intro other mem
    obtain ⟨name, named, new⟩ := unknown other mem
    exact ⟨name, named, fun field => new (complete field)⟩
  rw [lawful.read_perm perm, lawful.read_others passed]
  exact lawful.read_filter fills [] (by rwa [List.nil_append, names_of_fills fills])

end Lawful

end Shape

end SchemaPress.Document
