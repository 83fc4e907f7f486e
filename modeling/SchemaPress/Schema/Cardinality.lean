/-!
# How many rows stand on each side of a relationship

The four usual cardinalities, and any other word, which is kept as it is. Two cardinalities are
equal when they are spelt alike.
-/

set_option autoImplicit false

namespace SchemaPress

/-- The cardinality of a relationship. -/
inductive Cardinality where
  | oneToOne
  | oneToMany
  | manyToOne
  | manyToMany
  | other (word : String)
  deriving Repr, Inhabited

namespace Cardinality

/-- The word for a cardinality. -/
def word : Cardinality → String
  | oneToOne => "one_to_one"
  | oneToMany => "one_to_many"
  | manyToOne => "many_to_one"
  | manyToMany => "many_to_many"
  | other word => word

/-- The cardinality that a word stands for: one of the four where it fits. -/
def ofWord (word : String) : Cardinality :=
  if word = "one_to_one" then oneToOne
  else if word = "one_to_many" then oneToMany
  else if word = "many_to_one" then manyToOne
  else if word = "many_to_many" then manyToMany
  else other word

/-- Cardinalities are compared by their word. -/
instance : BEq Cardinality where
  beq a b := a.word == b.word

/-- Cardinalities are equal if their words are. -/
theorem beq_iff (a b : Cardinality) : a == b ↔ a.word = b.word := by
  simp [BEq.beq]

/-- A word is that of the cardinality that it means. -/
@[simp]
theorem word_ofWord (text : String) : (ofWord text).word = text := by
  unfold ofWord
  repeat' split
  all_goals simp_all [word]

end Cardinality

end SchemaPress
