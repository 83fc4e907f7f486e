import SchemaPress.Proofs.Text.Doubled
import SchemaPress.Sql.Script

/-!
# Identifiers in scripts

A script writes an identifier as it is, or it puts the identifier between the quotes of the dialect
and writes each quote inside it twice. A quoted identifier is told from what follows it, unless a
quote follows: a scanner that takes two quotes for one stops right behind it and gives back the
identifier, also where the identifier is empty or has quotes at its ends, and nothing but a quoted
identifier is scanned like this (`identifiers_read`). So identifiers are distinct wherever their
names are, quoted or not (`identifier_inj`).
-/

set_option autoImplicit false

namespace SchemaPress.Sql

/-- The words that follow identifiers begin with no quote of either dialect. -/
theorem head?_word_append (dialect : Dialect) {word : String}
    (follows : word.toList.head?.any (· ∈ [' ', ',', '(', ')', '\n']) = true) (rest : List Char) :
    (word.toList ++ rest).head? ≠ some dialect.quote := by
  have apart : ∀ c ∈ [' ', ',', '(', ')', '\n'], c ≠ dialect.quote := by
    cases dialect <;> simp [Dialect.quote]
  obtain ⟨c, head, member⟩ : ∃ c, word.toList.head? = some c ∧ c ∈ [' ', ',', '(', ')', '\n'] := by
    simpa [Option.any_eq_true] using follows
  rw [List.head?_append, head]
  intro quote
  exact apart c member (Option.some.inj quote)

/-- A quoted identifier is its name in the doubled form. -/
theorem identifier_toList {style : Style} (quoted : style.quoted = true) (name : String) :
    (style.identifier name).toList =
      Text.Doubled.encode style.dialect.quote name.toList := by
  simp [Style.identifier, Dialect.identifier, quoted]

/-- A quoted identifier ends where the same characters are read, unless a quote follows it. -/
theorem identifier_append_inj {style : Style} (quoted : style.quoted = true) {name name' : String}
    {rest rest' : List Char} (apart : rest.head? ≠ some style.dialect.quote)
    (apart' : rest'.head? ≠ some style.dialect.quote)
    (same : (style.identifier name).toList ++ rest = (style.identifier name').toList ++ rest') :
    name = name' ∧ rest = rest' := by
  rw [identifier_toList quoted, identifier_toList quoted] at same
  obtain ⟨names, rests⟩ := Text.Doubled.encode_append_inj apart apart' same
  exact ⟨String.toList_inj.mp names, rests⟩

/-- A quoted identifier ends before a word that follows it in both texts. -/
theorem identifier_word_inj {style : Style} (quoted : style.quoted = true) {word : String}
    (follows : word.toList.head?.any (· ∈ [' ', ',', '(', ')', '\n']) = true)
    {name name' : String} {rest rest' : List Char}
    (same : (style.identifier name).toList ++ (word.toList ++ rest) =
      (style.identifier name').toList ++ (word.toList ++ rest')) : name = name' ∧ rest = rest' := by
  obtain ⟨names, rests⟩ := identifier_append_inj quoted
    (head?_word_append style.dialect follows rest) (head?_word_append style.dialect follows rest')
    same
  exact ⟨names, List.append_cancel_left rests⟩

/-- Identifiers are the same if their names are. -/
theorem identifier_inj (style : Style) {name name' : String} :
    style.identifier name = style.identifier name' ↔ name = name' := by
  refine ⟨fun same => ?_, congrArg style.identifier⟩
  cases quoted : style.quoted with
  | false => simpa [Style.identifier, Dialect.identifier, quoted] using same
  | true =>
    have ends : ([] : List Char).head? ≠ some style.dialect.quote := by simp
    have chars : (style.identifier name).toList ++ [] = (style.identifier name').toList ++ [] := by
      rw [same]
    exact (identifier_append_inj quoted ends ends chars).1

/-- In both dialects the scanner for quoted identifiers undoes the quoting: it reads a name and what
is behind it from just the texts in which the name stands quoted and no quote follows. Without
quotes a name is written as it is, and either way distinct names are written differently. -/
theorem identifiers_read (dialect : Dialect) (generator : String) :
    let written (quoted : Bool) (name : String) : String :=
      ({ dialect, quoted, generator } : Style).identifier name
    (∀ text name rest : String,
      Text.Doubled.decode? dialect.quote text.toList = some (name.toList, rest.toList) ↔
        text = written true name ++ rest ∧ rest.toList.head? ≠ some dialect.quote) ∧
    (∀ name, written false name = name) ∧
    ∀ quoted, Function.Injective (written quoted) := by
  intro written
  refine ⟨fun text name rest => ?scanned, fun name => rfl, fun quoted name name' same => ?distinct⟩
  case scanned =>
    have layout : (written true name ++ rest).toList =
        Text.Doubled.encode dialect.quote name.toList ++ rest.toList := by
      rw [String.toList_append, identifier_toList rfl]
    rw [Text.Doubled.decode?_eq_some_iff, ← layout, String.toList_inj]
  case distinct =>
    exact (identifier_inj _).mp same

example :
    let style : Style := { dialect := .mysql, quoted := true }
    style.identifier "\x60a\x60\x60" = "\x60\x60\x60a\x60\x60\x60\x60\x60" ∧
    Text.Doubled.decode? '\x60' (style.identifier "\x60a\x60\x60" ++ " (").toList =
      some ("\x60a\x60\x60".toList, " (".toList) := by
  decide +kernel

end SchemaPress.Sql
