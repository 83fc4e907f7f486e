/-!
# What happens to a row when the row it refers to is deleted

The actions of SQL's `ON DELETE`, and any other word, which is kept as it is. Two actions are equal
when SQL spells them alike, so the word `CASCADE` is the action `cascade`.
-/

set_option autoImplicit false

namespace SchemaPress

/-- The action of an `ON DELETE` clause. -/
inductive ReferenceAction where
  | cascade
  | restrict
  | setNull
  | setDefault
  | noAction
  | other (text : String)
  deriving Repr, Inhabited

namespace ReferenceAction

/-- The spelling of an action in SQL. -/
def sql : ReferenceAction → String
  | cascade => "CASCADE"
  | restrict => "RESTRICT"
  | setNull => "SET NULL"
  | setDefault => "SET DEFAULT"
  | noAction => "NO ACTION"
  | other text => text

/-- The action that a word of SQL names: a named one where there is one. -/
def ofSql (text : String) : ReferenceAction :=
  if text = "CASCADE" then cascade
  else if text = "RESTRICT" then restrict
  else if text = "SET NULL" then setNull
  else if text = "SET DEFAULT" then setDefault
  else if text = "NO ACTION" then noAction
  else other text

/-- Actions are compared by their spelling. -/
instance : BEq ReferenceAction where
  beq a b := a.sql == b.sql

/-- Actions are equal if their spellings are. -/
theorem beq_iff (a b : ReferenceAction) : a == b ↔ a.sql = b.sql := by
  simp [BEq.beq]

/-- A word of SQL is the spelling of the action that it names. -/
@[simp]
theorem sql_ofSql (text : String) : (ofSql text).sql = text := by
  unfold ofSql
  repeat' split
  all_goals simp_all [sql]

end ReferenceAction

end SchemaPress
