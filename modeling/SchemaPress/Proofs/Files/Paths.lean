import SchemaPress.Files.Path
import SchemaPress.Proofs.Text.Cutting

/-!
# The parts of paths

How a path ends says what its last part is (`exists_parts_eq_append`), and so which parts it has as
the path of a file (`fileParts_cases`). A path inside a directory ends in the name inside it
(`isNamed_inside`), however the directory is written.
-/

set_option autoImplicit false

namespace SchemaPress.Files

/-! ## How paths end -/

/-- A path that ends in a slash is something before a slash. -/
theorem exists_toList_of_endsWith {path : String} (ends : path.endsWith "/" = true) :
    ∃ front, path.toList = front ++ ['/'] := by
  rw [String.endsWith_eq_endsWith_toSlice, String.Slice.endsWith_string_iff,
    String.copy_toSlice] at ends
  obtain ⟨front, chars⟩ := ends
  exact ⟨front, chars.symm⟩

/-- And whatever stands before a last slash ends in it. -/
theorem endsWith_slash {path : String} {front : List Char} (chars : path.toList = front ++ ['/']) :
    path.endsWith "/" = true := by
  rw [String.endsWith_eq_endsWith_toSlice, String.Slice.endsWith_string_iff, String.copy_toSlice]
  exact ⟨front, chars.symm⟩

/-- Behind a last slash there is an empty part. -/
theorem parts_of_endsWith {path : String} (ends : path.endsWith "/" = true) :
    ∃ front, parts path = front ++ [[]] := by
  obtain ⟨front, chars⟩ := exists_toList_of_endsWith ends
  refine ⟨Text.cutAt '/' front, ?_⟩
  rw [parts, chars, Text.cutAt_append]
  rfl

/-- A path of a file ends in a name, unless it is taken as one that ends in an idle part. -/
theorem fileParts_cases (path : String) :
    (fileParts path = parts path ∧ path.endsWith "/" = false) ∨
      ∃ front, fileParts path = front ++ [['.']] ∧ front <+: parts path := by
  cases backwards : (parts path).reverse with
  | nil =>
    have none : parts path = [] := List.reverse_eq_nil_iff.mp backwards
    refine .inl ⟨by rw [fileParts, none]; rfl, ?_⟩
    rw [Bool.eq_false_iff]
    intro ends
    obtain ⟨front, split⟩ := parts_of_endsWith ends
    simp [none] at split
  | cons last around =>
    have split : parts path = around.reverse ++ [last] := by
      rw [← List.reverse_reverse (parts path), backwards, List.reverse_cons]
    cases last with
    | nil =>
      refine .inr ⟨(around.dropWhile List.isEmpty).tail.reverse, ?_, ?_⟩
      · rw [← List.reverse_cons, fileParts, backwards]
      · have shorter : (around.dropWhile List.isEmpty).tail <:+ around :=
          (List.tail_suffix _).trans (List.dropWhile_suffix _)
        rw [split]
        exact (List.reverse_prefix.mpr shorter).trans (List.prefix_append _ _)
    | cons c cs =>
      refine .inl ⟨?_, ?_⟩
      · rw [← List.reverse_reverse (parts path), fileParts, backwards]
      rw [Bool.eq_false_iff]
      intro ends
      obtain ⟨front, empty⟩ := parts_of_endsWith ends
      rw [split] at empty
      have same := (List.append_inj' empty rfl).2
      cases same

/-- Every path has a part. -/
theorem parts_ne_nil (path : String) : parts path ≠ [] := by
  obtain ⟨piece, pieces, cut⟩ := Text.exists_cutAt_eq_cons '/' path.toList
  rw [parts, cut]
  exact List.cons_ne_nil _ _

/-- A path that ends in no slash ends in a part that is not empty. -/
theorem exists_parts_eq_append {path : String} (some : path ≠ "")
    (slash : path.endsWith "/" = false) :
    ∃ front last, parts path = front ++ [last] ∧ last ≠ [] := by
  refine ⟨_, _, (List.dropLast_concat_getLast (parts_ne_nil path)).symm, fun empty => ?_⟩
  have last : (Text.cutAt '/' path.toList).getLast? = .some [] := by
    rw [← empty]
    exact List.getLast?_eq_some_getLast (parts_ne_nil path)
  rcases Text.eq_nil_or_append_of_getLast?_cutAt last with none | ⟨front, chars⟩
  · exact some (String.toList_eq_nil_iff.mp none)
  · rw [endsWith_slash chars] at slash
    cases slash

/-- Without a slash at its end, the parts of a file's path are those of the path. -/
theorem fileParts_eq_parts {path : String} (some : path ≠ "") (slash : path.endsWith "/" = false) :
    fileParts path = parts path := by
  obtain ⟨front, last, split, proper⟩ := exists_parts_eq_append some slash
  have backwards : (parts path).reverse = last :: front.reverse := by
    rw [split, List.reverse_append, List.reverse_singleton, List.singleton_append]
  rw [fileParts, backwards]
  cases last with
  | nil => exact absurd rfl proper
  | cons c cs =>
    change ((c :: cs) :: front.reverse).reverse = _
    rw [← backwards, List.reverse_reverse]

/-! ## Names -/

/-- Says that a path ends in a name which leads to a place of that name. -/
def IsNamed (path : String) (name : List Char) : Prop :=
  (∃ front, parts path = front ++ [name]) ∧ isIdle name = false ∧ name ≠ ['.', '.']

/-- The name that a path ends in is the name of what it leads to. -/
theorem IsNamed.name? {path : String} {name : List Char} (named : IsNamed path name) :
    name? path = some name := by
  obtain ⟨⟨front, split⟩, proper, inner⟩ := named
  have kept (rest : List (List Char)) : trimmed (rest ++ [name]) = rest ++ [name] := by
    have stays : ¬ isIdle name = true := by
      rw [proper]
      exact Bool.false_ne_true
    rw [trimmed, List.reverse_append, List.reverse_singleton, List.singleton_append,
      List.dropWhile_cons_of_neg stays, List.reverse_cons, List.reverse_reverse]
  have last : ∃ first rest, parts path = first :: rest ∧
      (first :: trimmed rest).getLast? = some name := by
    cases front with
    | nil => exact ⟨name, [], split, rfl⟩
    | cons first rest =>
      refine ⟨first, rest ++ [name], split, ?_⟩
      rw [kept, ← List.cons_append, List.getLast?_concat]
  obtain ⟨first, rest, whole, last⟩ := last
  rw [Files.name?, whole]
  simp [last, proper, inner]

/-- Says that two paths end in different names. -/
def IsApart (path other : String) : Prop :=
  ∃ name name', IsNamed path name ∧ IsNamed other name' ∧ name ≠ name'

/-- Inside a directory a path ends in the name, however the directory is written. -/
theorem isNamed_inside (directory : String) {name : String} (whole : '/' ∉ name.toList)
    (proper : isIdle name.toList = false) (inner : name.toList ≠ ['.', '.']) :
    IsNamed (inside directory name) name.toList := by
  refine ⟨?_, proper, inner⟩
  have single : Text.cutAt '/' name.toList = [name.toList] := Text.cutAt_eq_single whole
  unfold inside
  by_cases plain : directory.isEmpty || directory.endsWith "/"
  · rw [if_pos plain]
    rcases Bool.or_eq_true_iff.mp plain with empty | ends
    · rw [String.isEmpty_iff.mp empty, String.empty_append]
      exact ⟨[], single⟩
    · obtain ⟨front, chars⟩ := exists_toList_of_endsWith ends
      refine ⟨Text.cutAt '/' front, ?_⟩
      rw [parts, String.toList_append, chars, List.append_assoc, List.cons_append,
        List.nil_append, Text.cutAt_append, single]
  · rw [if_neg plain]
    have slash : "/".toList = '/' :: [] := rfl
    refine ⟨Text.cutAt '/' directory.toList, ?_⟩
    rw [parts, String.toList_append, String.toList_append, slash, List.append_assoc,
      List.cons_append, List.nil_append, Text.cutAt_append, single]

end SchemaPress.Files
