import Mathlib.Data.List.Basic
import SchemaPress.CommandLine.Arguments

/-!
# How options are written

An option is called by its name, or by its letter behind the letters of some switches, and its value
stands right behind the letter, behind an equals sign or in the next argument. Arguments that are
written in this way are cut into the items that they are written for (`items_segments`), and all
arguments of which no item is refused are written in this way (`exists_segments`).
-/

set_option autoImplicit false

namespace SchemaPress.CommandLine

/-- How an option is called: by its name, or by its letter behind those of some switches. -/
inductive Call where
  | named (flag : Flag)
  | lettered (switches : List Flag) (flag : Flag)
  deriving DecidableEq, Repr

/-- Where the value of an option stands. -/
inductive Place where
  /-- Right behind the letter. -/
  | joined
  /-- Behind an equals sign. -/
  | equals
  /-- In the next argument. -/
  | next
  deriving DecidableEq, Repr

/-- Options that are written together: a call, and the value of the option that it ends with. -/
structure Spelling where
  call : Call
  value : Option (Place × String) := none
  deriving DecidableEq, Repr

namespace Call

/-- The switches before the option that a call ends with. -/
def switches : Call → List Flag
  | named _ => []
  | lettered switches _ => switches

/-- The option that a call ends with. -/
def flag : Call → Flag
  | named flag => flag
  | lettered _ flag => flag

/-- The options that are called by their letters. -/
def letters : Call → List Flag
  | named _ => []
  | lettered switches flag => switches ++ [flag]

/-- A call as it is written. -/
def text : Call → String
  | named flag => "--" ++ flag.name
  | lettered switches flag => String.ofList ('-' :: (switches ++ [flag]).filterMap Flag.letter?)

/-- Says that a call can be written on a side. -/
structure Fits (side : Side) (call : Call) : Prop where
  known : ∀ flag ∈ call.switches ++ [call.flag], flag ∈ flags side
  plain : ∀ switch ∈ call.switches, switch.hasValue = false
  lettered : ∀ flag ∈ call.letters, flag.letter?.isSome = true

instance (side : Side) (call : Call) : Decidable (call.Fits side) :=
  decidable_of_iff (_ ∧ _ ∧ _) ⟨fun parts => ⟨parts.1, parts.2.1, parts.2.2⟩,
    fun fits => ⟨fits.known, fits.plain, fits.lettered⟩⟩

/-- Says that some characters can stand behind a call in its argument. -/
structure Takes (call : Call) (tail : List Char) : Prop where
  valued : tail ≠ [] → call.flag.hasValue = true
  equals : call.letters = [] → ∀ c ∈ tail.head?, c = '='

end Call

/-- Says that a value can stand in a place. -/
def Place.Fits (call : Call) (value : String) : Place → Prop
  | joined => call.letters ≠ [] ∧ value.toList.head? ≠ none ∧ value.toList.head? ≠ some '='
  | equals => True
  | next => looksLikeOption value = false

instance (call : Call) (value : String) : DecidablePred (Place.Fits call value)
  | .joined => inferInstanceAs (Decidable (_ ∧ _ ∧ _))
  | .equals => .isTrue trivial
  | .next => inferInstanceAs (Decidable (_ = _))

namespace Spelling

/-- The arguments in which options are written. -/
def arguments (spelling : Spelling) : List String :=
  match spelling.value with
  | none => [spelling.call.text]
  | some (.joined, value) => [spelling.call.text ++ value]
  | some (.equals, value) => [spelling.call.text ++ "=" ++ value]
  | some (.next, value) => [spelling.call.text, value]

/-- The items for which options are written. -/
def items (spelling : Spelling) : List Item :=
  spelling.call.switches.map .switch ++
    [match spelling.value with
    | none => .switch spelling.call.flag
    | some (place, value) => .setting spelling.call.flag value (place ≠ .next)]

/-- Says that options can be written on a side. -/
structure Fits (side : Side) (spelling : Spelling) : Prop where
  call : spelling.call.Fits side
  valued : spelling.value.isSome = spelling.call.flag.hasValue
  placed : ∀ given ∈ spelling.value, given.1.Fits spelling.call given.2

instance (side : Side) (spelling : Spelling) : Decidable (spelling.Fits side) :=
  decidable_of_iff (_ ∧ _ ∧ _) ⟨fun parts => ⟨parts.1, parts.2.1, parts.2.2⟩,
    fun fits => ⟨fits.call, fits.valued, fits.placed⟩⟩

end Spelling

/-! ## Options by name and by letter -/

section Flags

variable {side : Side} {flag other : Flag}

/-- No two options have the same name. -/
theorem Flag.eq_of_name_eq (same : flag.name = other.name) : flag = other := by
  cases flag <;> cases other <;> first | rfl | exact absurd same (by decide)

/-- Nor have they the same letter. -/
theorem Flag.eq_of_letter_eq {c : Char} (here : flag.letter? = some c)
    (there : other.letter? = some c) : flag = other := by
  rw [← there] at here
  cases flag <;> cases other <;> first | rfl | exact absurd here (by decide) | cases there

/-- There is no equals sign in a name. -/
theorem Flag.equals_not_mem_name (flag : Flag) : '=' ∉ flag.name.toList := by
  cases flag <;> decide

/-- What alone in a list has a property is found by it. -/
theorem find?_eq_some_of_unique {α : Type} {p : α → Bool} {x : α} {xs : List α} (mem : x ∈ xs)
    (holds : p x = true) (only : ∀ y, p y = true → y = x) : xs.find? p = some x := by
  cases found : xs.find? p with
  | none => exact absurd holds (List.find?_eq_none.mp found x mem)
  | some y => rw [only y (List.find?_some found)]

/-- An option that is called by its name gives its item or waits for its value. -/
theorem ofName_eq (known : flag ∈ flags side) (argument : String) (value : Option String) :
    ofName side argument flag.name.toList value =
      if flag.hasValue then
        value.elim ⟨[], some flag⟩ fun value => ⟨[.setting flag value true], none⟩
      else value.elim ⟨[.switch flag], none⟩ fun _ => ⟨[.refused (.valueUnneeded flag)], none⟩ := by
  have found : (flags side).find? (·.name.toList == flag.name.toList) = some flag := by
    refine find?_eq_some_of_unique known (beq_self_eq_true _) fun other same => ?_
    exact Flag.eq_of_name_eq (String.toList_injective (eq_of_beq same))
  rw [ofName, found]
  cases valued : flag.hasValue <;> cases value <;> simp [valued]

/-- What an option with a value says behind which some characters stand. -/
def Flag.opening (flag : Flag) : List Char → Opening
  | [] => ⟨[], some flag⟩
  | '=' :: value => ⟨[.setting flag (String.ofList value) true], none⟩
  | value => ⟨[.setting flag (String.ofList value) true], none⟩

/-- A value right behind the letter of its option is taken as it is. -/
theorem Flag.opening_joined {cs : List Char} (filled : cs.head? ≠ none)
    (equals : cs.head? ≠ some '=') (flag : Flag) :
    flag.opening cs = ⟨[.setting flag (String.ofList cs) true], none⟩ := by
  rw [opening]
  · rintro rfl
    exact filled rfl
  · rintro value rfl
    exact equals rfl

/-- The first of some letters gives its item; behind an option with a value follows that value. -/
theorem ofLetters_cons {c : Char} (known : flag ∈ flags side) (letter : flag.letter? = some c)
    (argument : String) (cs : List Char) :
    ofLetters side argument (c :: cs) =
      if flag.hasValue then flag.opening cs
      else
        ⟨.switch flag :: (ofLetters side argument cs).items,
          (ofLetters side argument cs).waiting⟩ := by
  have found : (flags side).find? (·.letter? == some c) = some flag := by
    refine find?_eq_some_of_unique known (beq_iff_eq.mpr letter) fun other same => ?_
    exact Flag.eq_of_letter_eq (eq_of_beq same) letter
  rw [ofLetters, found]
  rfl

/-- Switches by their letters are read with what stands behind them. -/
theorem ofLetters_switches {switches : List Flag} (known : ∀ switch ∈ switches, switch ∈ flags side)
    (plain : ∀ switch ∈ switches, switch.hasValue = false)
    (lettered : ∀ switch ∈ switches, switch.letter?.isSome = true)
    (argument : String) (cs : List Char) :
    ofLetters side argument (switches.filterMap Flag.letter? ++ cs) =
      ⟨switches.map .switch ++ (ofLetters side argument cs).items,
        (ofLetters side argument cs).waiting⟩ := by
  induction switches with
  | nil => rfl
  | cons switch switches ih =>
    rw [List.forall_mem_cons] at known plain lettered
    obtain ⟨c, letter⟩ := Option.isSome_iff_exists.mp lettered.1
    have noValue : ¬ switch.hasValue = true := by
      rw [plain.1]
      exact Bool.false_ne_true
    rw [List.filterMap_cons_some letter, List.cons_append, ofLetters_cons known.1 letter,
      if_neg noValue, ih known.2 plain.2 lettered.2]
    rfl

/-- An argument with two dashes is read by a name and what stands behind an equals sign. -/
theorem opening?_of_name {text : List Char} {argument : String}
    (written : argument.toList = '-' :: '-' :: text) :
    opening? side argument = some (ofName side argument (text.takeWhile (· ≠ '='))
      ((text.dropWhile (· ≠ '=')).tail?.map String.ofList)) := by
  rw [opening?, written]
  split
  · rename_i rest same
    obtain rfl : text = rest := (List.cons.inj (List.cons.inj same).2).2
    cases text.dropWhile (· ≠ '=') <;> rfl
  · rename_i c cs other same
    exact absurd (List.cons.inj (List.cons.inj same).2).1.symm other
  · rename_i other _
    exact absurd rfl (other text)

/-- An argument with one dash is read by its letters. -/
theorem opening?_of_letter {c : Char} {cs : List Char} {argument : String} (dash : c ≠ '-')
    (written : argument.toList = '-' :: c :: cs) :
    opening? side argument = some (ofLetters side argument (c :: cs)) := by
  rw [opening?, written]
  split
  · rename_i text same
    exact absurd (List.cons.inj (List.cons.inj same).2).1 dash
  · rename_i first rest same
    rw [(List.cons.inj same).2]
  · rename_i other
    exact absurd rfl (other c cs)

end Flags

/-! ## What an argument says that begins with a call -/

namespace Call

variable {side : Side} {call : Call} {tail : List Char} {argument : String}

/-- What an argument says in which some characters stand behind a call. -/
def opening (call : Call) (tail : List Char) : Opening :=
  let last := if call.flag.hasValue then call.flag.opening tail else ⟨[.switch call.flag], none⟩
  ⟨call.switches.map .switch ++ last.items, last.waiting⟩

/-- No letter is a hyphen. -/
theorem letter_ne_dash {flag : Flag} {c : Char} (letter : flag.letter? = some c) : c ≠ '-' := by
  cases flag <;> cases letter <;> decide

/-- The characters of a call by name. -/
theorem toList_named (flag : Flag) : (named flag).text.toList = '-' :: '-' :: flag.name.toList := by
  rw [text, String.toList_append]
  rfl

/-- The characters of a call by letters. -/
theorem toList_lettered (switches : List Flag) (flag : Flag) :
    (lettered switches flag).text.toList =
      '-' :: (switches ++ [flag]).filterMap Flag.letter? :=
  String.toList_ofList

/-- The characters behind a call by letters begin with a letter. -/
theorem exists_letter {switches : List Flag} {flag : Flag}
    (fits : (lettered switches flag).Fits side) (tail : List Char) :
    ∃ c cs, (switches ++ [flag]).filterMap Flag.letter? ++ tail = c :: cs ∧ c ≠ '-' := by
  cases switches with
  | nil =>
    obtain ⟨c, letter⟩ := Option.isSome_iff_exists.mp (fits.lettered flag (by simp [letters]))
    exact ⟨c, tail, by simp [letter], letter_ne_dash letter⟩
  | cons switch switches =>
    obtain ⟨c, letter⟩ := Option.isSome_iff_exists.mp (fits.lettered switch (by simp [letters]))
    refine ⟨c, (switches ++ [flag]).filterMap Flag.letter? ++ tail, ?_, letter_ne_dash letter⟩
    rw [List.cons_append, List.filterMap_cons_some letter, List.cons_append]

/-- An argument that calls an option by its name is read as that call. -/
theorem opening?_named {flag : Flag} (fits : (named flag).Fits side)
    (takes : (named flag).Takes tail)
    (written : argument.toList = (named flag).text.toList ++ tail) :
    opening? side argument = some ((named flag).opening tail) := by
  have known : flag ∈ flags side := fits.known flag (by simp [switches, Call.flag])
  have name (c : Char) (mem : c ∈ flag.name.toList) : decide (c ≠ '=') = true := by
    refine decide_eq_true fun equals => flag.equals_not_mem_name ?_
    rw [← equals]
    exact mem
  rw [toList_named, List.cons_append, List.cons_append] at written
  rw [opening?_of_name written, List.takeWhile_append_of_pos name,
    List.dropWhile_append_of_pos name]
  cases tail with
  | nil =>
    rw [List.takeWhile_nil, List.append_nil, ofName_eq known]
    by_cases valued : flag.hasValue = true
    · simp [opening, switches, Call.flag, Flag.opening, valued]
    · simp [opening, switches, Call.flag, valued]
  | cons c cs =>
    -- Behind a name only an equals sign can stand.
    obtain rfl : c = '=' := takes.equals rfl c rfl
    have valued : flag.hasValue = true := takes.valued (List.cons_ne_nil _ _)
    have none : ('=' :: cs).takeWhile (· ≠ '=') = [] := rfl
    rw [none, List.append_nil, ofName_eq known]
    simp [opening, switches, Call.flag, Flag.opening, valued]

/-- So is an argument that calls options by their letters. -/
theorem opening?_lettered {before : List Flag} {flag : Flag}
    (fits : (lettered before flag).Fits side) (takes : (lettered before flag).Takes tail)
    (written : argument.toList = (lettered before flag).text.toList ++ tail) :
    opening? side argument = some ((lettered before flag).opening tail) := by
  obtain ⟨c, cs, first, dash⟩ := exists_letter fits tail
  obtain ⟨letter, last⟩ := Option.isSome_iff_exists.mp (fits.lettered flag (by simp [letters]))
  have layout : c :: cs = before.filterMap Flag.letter? ++ letter :: tail := by
    rw [← first, List.filterMap_append, List.append_assoc, List.filterMap_cons_some last]
    rfl
  have known : flag ∈ flags side := fits.known flag (by simp [switches, Call.flag])
  have others : ∀ switch ∈ before, switch ∈ flags side := fun switch mem =>
    fits.known switch (List.mem_append_left _ mem)
  have reads := ofLetters_switches others fits.plain
    (fun switch mem => fits.lettered switch (List.mem_append_left _ mem)) argument (letter :: tail)
  rw [toList_lettered, List.cons_append, first] at written
  rw [opening?_of_letter dash written, layout, reads, ofLetters_cons known last]
  by_cases valued : flag.hasValue = true
  · simp [opening, switches, Call.flag, valued]
  · have empty : tail = [] := by
      by_contra filled
      exact valued (takes.valued filled)
    simp [opening, switches, Call.flag, valued, empty, ofLetters]

/-- So is any call with what it may take behind it. -/
theorem opening?_eq (fits : call.Fits side) (takes : call.Takes tail)
    (written : argument.toList = call.text.toList ++ tail) :
    opening? side argument = some (call.opening tail) := by
  cases call with
  | named flag => exact opening?_named fits takes written
  | lettered before flag => exact opening?_lettered fits takes written

/-- An option waits for its value if it has one and nothing stands behind its call. -/
theorem waiting_opening (call : Call) (tail : List Char) :
    (call.opening tail).waiting =
      if call.flag.hasValue ∧ tail = [] then some call.flag else none := by
  unfold opening
  by_cases valued : call.flag.hasValue = true
  · rw [if_pos valued]
    cases tail with
    | nil => simp [Flag.opening, valued]
    | cons c cs =>
      by_cases equals : c = '='
      · simp [Flag.opening, equals]
      · have joined := Flag.opening_joined (show (c :: cs).head? ≠ none from Option.some_ne_none c)
          (fun same => equals (Option.some.inj same)) call.flag
        simp [joined]
  · simp [valued]

/-- A call may always end an argument. -/
theorem takes_nil (call : Call) : call.Takes [] :=
  ⟨fun some => absurd rfl some, fun _ _ none => nomatch none⟩

/-- A call is something else than two hyphens. -/
theorem ne_dashes (fits : call.Fits side)
    (written : argument.toList = call.text.toList ++ tail) : argument ≠ "--" := by
  rintro rfl
  cases call with
  | named flag =>
    rw [toList_named] at written
    revert written
    cases flag <;> exact nofun
  | lettered switches flag =>
    obtain ⟨c, cs, first, dash⟩ := exists_letter fits tail
    rw [toList_lettered, List.cons_append, first] at written
    exact dash (List.cons.inj (List.cons.inj written).2).1.symm

/-- A call names no command. -/
theorem namesCommand_eq_false (written : argument.toList = call.text.toList ++ tail) :
    namesCommand side argument = false := by
  have dash : argument.toList.head? = some '-' := by
    rw [written]
    cases call with
    | named flag => rw [toList_named, List.cons_append, List.head?_cons]
    | lettered switches flag => rw [toList_lettered, List.cons_append, List.head?_cons]
  have apart {name : String} (other : name.toList.head? ≠ some '-') : argument ≠ name := by
    rintro rfl
    exact other dash
  have help : argument ≠ "help" := apart (by decide)
  have verbs : ∀ verb ∈ Verb.all, verb.name ≠ argument := fun verb _ same =>
    apart (by cases verb <;> decide) same.symm
  simpa [namesCommand, help] using fun _ => verbs

/-- An argument that begins with a call and leaves nothing open is read for itself. -/
theorem items_cons (fits : call.Fits side) (takes : call.Takes tail)
    (written : argument.toList = call.text.toList ++ tail)
    (complete : (call.opening tail).waiting = none) (rest : List String) :
    items side (argument :: rest) = (call.opening tail).items ++ items side rest := by
  have noCommand : ¬ namesCommand side argument = true := by
    rw [namesCommand_eq_false written]
    exact Bool.false_ne_true
  rw [items, if_neg noCommand, if_neg (ne_dashes fits written), opening?_eq fits takes written]
  simp only [complete]

/-- An argument with a value behind its call is read for the option with this value. -/
theorem items_attached (fits : call.Fits side) (takes : call.Takes tail)
    (written : argument.toList = call.text.toList ++ tail)
    (valued : call.flag.hasValue = true) {value : String}
    (attached : call.flag.opening tail = ⟨[.setting call.flag value true], none⟩)
    (rest : List String) :
    items side (argument :: rest) =
      call.switches.map .switch ++ [.setting call.flag value true] ++ items side rest := by
  have opens : call.opening tail =
      ⟨call.switches.map .switch ++ [.setting call.flag value true], none⟩ := by
    simp [opening, valued, attached]
  have complete : (call.opening tail).waiting = none := by rw [opens]
  rw [items_cons fits takes written complete, opens]

/-- An argument that leaves an option without its value is read with the next one. -/
theorem items_cons_cons (fits : call.Fits side) (valued : call.flag.hasValue = true)
    {value : String} (separate : looksLikeOption value = false) (rest : List String) :
    items side (call.text :: value :: rest) =
      call.switches.map .switch ++ .setting call.flag value false :: items side rest := by
  have whole : call.text.toList = call.text.toList ++ [] := (List.append_nil _).symm
  have noCommand : ¬ namesCommand side call.text = true := by
    rw [namesCommand_eq_false whole]
    exact Bool.false_ne_true
  rw [items, if_neg noCommand, if_neg (ne_dashes fits whole), opening?_eq fits call.takes_nil whole]
  simp [opening, Flag.opening, valued, separate]

end Call

/-! ## Parts of arguments -/

/-- What stands in arguments: options that are written together, or an operand. -/
inductive Part where
  | options (spelling : Spelling)
  | operand (text : String)
  deriving DecidableEq, Repr

namespace Part

/-- The arguments of a part. -/
def arguments : Part → List String
  | options spelling => spelling.arguments
  | operand text => [text]

/-- The items that a part stands for. -/
def items : Part → List Item
  | options spelling => spelling.items
  | operand text => [.operand text]

/-- Says that a part can be written on a side. -/
def Fits (side : Side) : Part → Prop
  | options spelling => spelling.Fits side
  | operand text => looksLikeOption text = false ∧ namesCommand side text = false

instance (side : Side) : DecidablePred (Part.Fits side)
  | options spelling => inferInstanceAs (Decidable (spelling.Fits side))
  | operand _ => inferInstanceAs (Decidable (_ ∧ _))

end Part

/-- How arguments end. -/
inductive Ending where
  | done
  /-- With `--` and operands. -/
  | operands (texts : List String)
  /-- With the name of a command and its arguments. -/
  | command (name : String) (arguments : List String)
  deriving DecidableEq, Repr

namespace Ending

/-- The arguments of an ending. -/
def arguments : Ending → List String
  | done => []
  | operands texts => "--" :: texts
  | command name arguments => name :: arguments

/-- The items that an ending stands for. -/
def items : Ending → List Item
  | done => []
  | operands texts => texts.map .operand
  | command name arguments => [.command name arguments]

/-- Says that arguments on a side can end so. -/
def Fits (side : Side) : Ending → Prop
  | command name _ => namesCommand side name = true
  | _ => True

end Ending

section Items

variable {side : Side}

/-- A spelling is read as its items, whatever follows it. -/
theorem items_spelling {spelling : Spelling} (fits : spelling.Fits side) (rest : List String) :
    items side (spelling.arguments ++ rest) = spelling.items ++ items side rest := by
  obtain ⟨call, value⟩ := spelling
  have whole : call.text.toList = call.text.toList ++ [] := (List.append_nil _).symm
  cases value with
  | none =>
    have plain : call.flag.hasValue = false := fits.valued.symm
    have complete : (call.opening []).waiting = none := by simp [Call.opening, plain]
    have reads := Call.items_cons fits.call call.takes_nil whole complete rest
    simpa [Spelling.arguments, Spelling.items, Call.opening, plain] using reads
  | some given =>
    have valued : call.flag.hasValue = true := fits.valued.symm
    obtain ⟨place, value⟩ := given
    have placed : place.Fits call value := fits.placed _ rfl
    cases place with
    | joined =>
      obtain ⟨lettered, filled, equals⟩ := placed
      have takes : call.Takes value.toList := ⟨fun _ => valued, fun none => absurd none lettered⟩
      have attached := Flag.opening_joined filled equals call.flag
      rw [String.ofList_toList] at attached
      exact Call.items_attached fits.call takes String.toList_append valued attached rest
    | equals =>
      have takes : call.Takes ('=' :: value.toList) := ⟨fun _ => valued, fun _ c first => by
        cases first
        rfl⟩
      have written : (call.text ++ "=" ++ value).toList =
          call.text.toList ++ '=' :: value.toList := by
        simp
      have attached : call.flag.opening ('=' :: value.toList) =
          ⟨[.setting call.flag value true], none⟩ := by
        simp [Flag.opening]
      exact Call.items_attached fits.call takes written valued attached rest
    | next =>
      have reads := Call.items_cons_cons fits.call valued placed rest
      simpa [Spelling.arguments, Spelling.items] using reads

/-- An argument looks like an option if something stands behind a hyphen. -/
theorem looksLikeOption_iff {argument : String} :
    looksLikeOption argument = true ↔ ∃ c cs, argument.toList = '-' :: c :: cs := by
  unfold looksLikeOption
  split
  · rename_i c cs layout
    exact iff_of_true rfl ⟨c, cs, layout⟩
  · rename_i other
    exact iff_of_false nofun fun ⟨c, cs, layout⟩ => other c cs layout

/-- An argument that looks like no option opens none. -/
theorem opening?_eq_none_iff {argument : String} :
    opening? side argument = none ↔ looksLikeOption argument = false := by
  unfold opening? looksLikeOption
  generalize argument.toList = cs
  split
  · exact iff_of_false nofun nofun
  · exact iff_of_false nofun nofun
  · rename_i letters
    split
    · exact absurd rfl (letters _ _)
    · exact iff_of_true rfl rfl

/-- An argument that is no option and names no command is read as an operand. -/
theorem items_operand {text : String} (plain : looksLikeOption text = false)
    (noCommand : namesCommand side text = false) (rest : List String) :
    items side (text :: rest) = .operand text :: items side rest := by
  have last : text ≠ "--" := by
    rintro rfl
    revert plain
    decide
  rw [items, if_neg (Bool.eq_false_iff.mp noCommand), if_neg last, opening?_eq_none_iff.mpr plain]

/-- An ending is read as its items. -/
theorem items_ending {ending : Ending} (fits : ending.Fits side) :
    items side ending.arguments = ending.items := by
  cases ending with
  | done => rfl
  | operands texts =>
    have noCommand : ¬ namesCommand side "--" = true := by
      cases side with
      | none => decide
      | some verb => exact Bool.false_ne_true
    rw [Ending.arguments, items, if_neg noCommand, if_pos rfl]
    rfl
  | command name arguments =>
    have named : namesCommand side name = true := fits
    rw [Ending.arguments, items, if_pos named]
    rfl

/-- Arguments that are written in parts are cut into the items of these parts. -/
theorem items_segments {parts : List Part} {ending : Ending} (fits : ∀ part ∈ parts, part.Fits side)
    (ends : ending.Fits side) :
    items side (parts.flatMap Part.arguments ++ ending.arguments) =
      parts.flatMap Part.items ++ ending.items := by
  induction parts with
  | nil => exact items_ending ends
  | cons part parts ih =>
    rw [List.forall_mem_cons] at fits
    rw [List.flatMap_cons, List.flatMap_cons, List.append_assoc, List.append_assoc, ← ih fits.2]
    cases part with
    | options spelling => exact items_spelling fits.1 _
    | operand text => exact items_operand fits.1.1 fits.1.2 _

end Items

/-! ## Arguments of which no item is refused -/

/-- Says that no item is refused. -/
def IsClean (items : List Item) : Prop :=
  ∀ error, .refused error ∉ items

section Clean

variable {side : Side} {argument : String}

/-- Items are clean if those of the front and those of the back are. -/
theorem isClean_append {front back : List Item} :
    IsClean (front ++ back) ↔ IsClean front ∧ IsClean back := by
  simp [IsClean, forall_and]

/-- An item that has been refused is not clean. -/
theorem not_isClean_refused (error : UsageError) : ¬ IsClean [.refused error] := fun clean =>
  clean error (List.mem_singleton_self _)

/-- Letters that give clean items are those of switches and then of one more option. -/
theorem exists_letters {cs : List Char} (filled : cs ≠ [])
    (clean : IsClean (ofLetters side argument cs).items) :
    ∃ switches flag tail, (Call.lettered switches flag).Fits side ∧
      cs = (switches ++ [flag]).filterMap Flag.letter? ++ tail ∧
      (tail ≠ [] → flag.hasValue = true) := by
  induction cs with
  | nil => exact absurd rfl filled
  | cons c cs ih =>
    cases found : (flags side).find? (·.letter? == some c) with
    | none =>
      rw [ofLetters, found] at clean
      exact absurd clean (not_isClean_refused _)
    | some flag =>
      have known : flag ∈ flags side := List.mem_of_find?_eq_some found
      have letter : flag.letter? = some c := by
        have matching := List.find?_some found
        exact eq_of_beq matching
      have alone : (Call.lettered [] flag).Fits side := by
        constructor <;> simp [Call.switches, Call.flag, Call.letters, known, letter]
      by_cases valued : flag.hasValue = true
      · exact ⟨[], flag, cs, alone, by simp [letter], fun _ => valued⟩
      · rw [ofLetters_cons known letter, if_neg valued] at clean
        by_cases last : cs = []
        · exact ⟨[], flag, [], alone, by simp [letter, last], fun some => absurd rfl some⟩
        · obtain ⟨switches, flag', tail, fits, rfl, takes⟩ :=
            ih last fun error mem => clean error (List.mem_cons_of_mem _ mem)
          refine ⟨flag :: switches, flag', tail, ⟨?_, ?_, ?_⟩, by simp [letter], takes⟩
          · exact List.forall_mem_cons.mpr ⟨known, fits.known⟩
          · exact List.forall_mem_cons.mpr ⟨Bool.eq_false_iff.mpr valued, fits.plain⟩
          · exact List.forall_mem_cons.mpr ⟨by rw [letter]; rfl, fits.lettered⟩

/-- A name that gives clean items is that of an option, perhaps with a value. -/
theorem exists_name {text : List Char}
    (clean : IsClean (ofName side argument (text.takeWhile (· ≠ '='))
      ((text.dropWhile (· ≠ '=')).tail?.map String.ofList)).items) :
    ∃ flag tail, (Call.named flag).Fits side ∧ (Call.named flag).Takes tail ∧
      text = flag.name.toList ++ tail := by
  cases found : (flags side).find? (·.name.toList == text.takeWhile (· ≠ '=')) with
  | none =>
    rw [ofName, found] at clean
    exact absurd clean (not_isClean_refused _)
  | some flag =>
    have known : flag ∈ flags side := List.mem_of_find?_eq_some found
    have name : flag.name.toList = text.takeWhile (· ≠ '=') := by
      have matching := List.find?_some found
      exact eq_of_beq matching
    rw [← name, ofName_eq known] at clean
    have fits : (Call.named flag).Fits side := by
      constructor <;> simp [Call.switches, Call.flag, Call.letters, known]
    have takes : (Call.named flag).Takes (text.dropWhile (· ≠ '=')) := by
      constructor
      case valued =>
        intro filled
        by_contra plain
        have noValue : ¬ flag.hasValue = true := plain
        obtain ⟨c, value, tail⟩ := List.exists_cons_of_ne_nil filled
        rw [tail, if_neg noValue] at clean
        exact not_isClean_refused _ clean
      case equals =>
        intro _ c first
        have stops := List.head?_dropWhile_not (· ≠ '=') text
        rw [first] at stops
        exact of_not_not (of_decide_eq_false stops)
    exact ⟨flag, _, fits, takes, name ▸ List.takeWhile_append_dropWhile.symm⟩

/-- An argument of which nothing is refused begins with a call, unless it is an operand. -/
theorem exists_call {opening : Opening} (opens : opening? side argument = some opening)
    (clean : IsClean opening.items) :
    ∃ (call : Call) (tail : List Char), call.Fits side ∧ call.Takes tail ∧
      argument.toList = call.text.toList ++ tail := by
  have option : looksLikeOption argument = true := by
    by_contra operand
    rw [opening?_eq_none_iff.mpr (Bool.eq_false_iff.mpr operand)] at opens
    cases opens
  obtain ⟨c, cs, layout⟩ := looksLikeOption_iff.mp option
  by_cases dash : c = '-'
  · subst dash
    rw [opening?_of_name layout] at opens
    obtain rfl := Option.some.inj opens
    obtain ⟨flag, tail, fits, takes, name⟩ := exists_name clean
    refine ⟨.named flag, tail, fits, takes, ?_⟩
    rw [layout, Call.toList_named, name]
    rfl
  · rw [opening?_of_letter dash layout] at opens
    obtain rfl := Option.some.inj opens
    obtain ⟨switches, flag, tail, fits, letters, takes⟩ :=
      exists_letters (List.cons_ne_nil _ _) clean
    refine ⟨.lettered switches flag, tail, fits, ⟨takes, fun alone => ?_⟩, ?_⟩
    · simp [Call.letters] at alone
    · rw [layout, letters, Call.toList_lettered]
      rfl

/-- An argument that begins with a call, and that does not leave its option without a value, is a
spelling of its own. -/
theorem exists_spelling {call : Call} {tail : List Char} (fits : call.Fits side)
    (takes : call.Takes tail) (written : argument.toList = call.text.toList ++ tail)
    (complete : tail = [] → call.flag.hasValue = false) :
    ∃ spelling : Spelling, spelling.Fits side ∧ spelling.arguments = [argument] := by
  have same {text : String} (layout : text.toList = call.text.toList ++ tail) : text = argument :=
    String.toList_injective (layout.trans written.symm)
  cases tail with
  | nil =>
    refine ⟨⟨call, none⟩, ⟨fits, (complete rfl).symm, nofun⟩, ?_⟩
    exact congrArg (fun text => [text]) (same (List.append_nil _).symm)
  | cons c cs =>
    have valued : true = call.flag.hasValue := (takes.valued (List.cons_ne_nil _ _)).symm
    by_cases equals : c = '='
    · refine ⟨⟨call, some (.equals, String.ofList cs)⟩, ⟨fits, valued, fun given here => ?_⟩, ?_⟩
      · cases here
        trivial
      · refine congrArg (fun text => [text]) (same ?_)
        simp [equals]
    · refine ⟨⟨call, some (.joined, String.ofList (c :: cs))⟩,
        ⟨fits, valued, fun given here => ?_⟩, ?_⟩
      · cases here
        have first : (String.ofList (c :: cs)).toList.head? = some c := by
          rw [String.toList_ofList, List.head?_cons]
        refine ⟨fun alone => equals (takes.equals alone c rfl), ?_, ?_⟩
        · rw [first]
          exact Option.some_ne_none c
        · rw [first]
          exact fun same => equals (Option.some.inj same)
      · refine congrArg (fun text => [text]) (same ?_)
        simp

/-- Says that arguments on a side are written in parts. -/
def IsWritten (side : Side) (arguments : List String) : Prop :=
  ∃ (parts : List Part) (ending : Ending), (∀ part ∈ parts, part.Fits side) ∧ ending.Fits side ∧
    parts.flatMap Part.arguments ++ ending.arguments = arguments

/-- An ending is written as one. -/
theorem IsWritten.of_ending {ending : Ending} (fits : ending.Fits side) :
    IsWritten side ending.arguments :=
  ⟨[], ending, List.forall_mem_nil _, fits, rfl⟩

/-- A part before something written is written. -/
theorem IsWritten.cons {part : Part} {rest : List String} (fits : part.Fits side)
    (written : IsWritten side rest) : IsWritten side (part.arguments ++ rest) := by
  obtain ⟨parts, ending, others, ends, rfl⟩ := written
  refine ⟨part :: parts, ending, List.forall_mem_cons.mpr ⟨fits, others⟩, ends, ?_⟩
  rw [List.flatMap_cons, List.append_assoc]

/-- So is a call that does not wait for a value. -/
theorem IsWritten.of_complete {call : Call} {tail : List Char} (fits : call.Fits side)
    (takes : call.Takes tail) (written : argument.toList = call.text.toList ++ tail)
    (complete : (call.opening tail).waiting = none) {rest : List String}
    (others : IsWritten side rest) : IsWritten side (argument :: rest) := by
  have noneWaits (empty : tail = []) : call.flag.hasValue = false := by
    rw [Call.waiting_opening] at complete
    simpa [empty] using complete
  obtain ⟨spelling, fits', alone⟩ := exists_spelling fits takes written noneWaits
  have whole : IsWritten side (spelling.arguments ++ rest) :=
    others.cons (show (Part.options spelling).Fits side from fits')
  rwa [alone] at whole

/-- So is one that does, with its value behind it. -/
theorem IsWritten.of_waiting {call : Call} (fits : call.Fits side)
    (valued : call.flag.hasValue = true) {value : String}
    (separate : looksLikeOption value = false) {rest : List String}
    (others : IsWritten side rest) : IsWritten side (call.text :: value :: rest) := by
  have fits' : (Part.options ⟨call, some (.next, value)⟩).Fits side :=
    ⟨fits, valued.symm, fun given here => by
      cases here
      exact separate⟩
  exact others.cons fits'

/-- Arguments of which no item is refused are written in parts. -/
theorem exists_segments {arguments : List String} (clean : IsClean (items side arguments)) :
    IsWritten side arguments := by
  -- The induction follows the scan: each step takes one argument, or two where an option waits.
  fun_induction items side arguments with
  | case1 => exact .of_ending (show Ending.done.Fits side from trivial)
  | case2 name arguments named =>
    exact .of_ending (show (Ending.command name arguments).Fits side from named)
  | case3 texts => exact .of_ending (show (Ending.operands texts).Fits side from trivial)
  | case4 text arguments noCommand _ operand ih =>
    have fits : (Part.operand text).Fits side :=
      ⟨opening?_eq_none_iff.mp operand, Bool.eq_false_iff.mpr noCommand⟩
    exact (ih fun error mem => clean error (List.mem_cons_of_mem _ mem)).cons fits
  | case5 argument arguments noCommand _ opening opens ih =>
    obtain ⟨first, others⟩ := isClean_append.mp clean
    obtain ⟨call, tail, fits, takes, written⟩ := exists_call opens first
    obtain rfl : call.opening tail = opening :=
      Option.some.inj ((Call.opening?_eq fits takes written).symm.trans opens)
    cases waiting : (call.opening tail).waiting with
    | none =>
      rw [waiting] at ih others
      exact .of_complete fits takes written waiting (ih others)
    | some flag =>
      have waits := waiting
      rw [Call.waiting_opening, Option.ite_none_right_eq_some] at waits
      obtain ⟨⟨valued, rfl⟩, -⟩ := waits
      obtain rfl : argument = call.text :=
        String.toList_injective (written.trans (List.append_nil _))
      rw [waiting] at ih others
      cases arguments with
      | nil => exact absurd others (not_isClean_refused _)
      | cons value arguments =>
        change IsClean (if looksLikeOption value = true then _ else _) at others
        by_cases separate : looksLikeOption value = true
        · rw [if_pos separate] at others
          exact absurd others (not_isClean_refused _)
        · rw [if_neg separate] at others
          have rest := ih fun error mem => others error (List.mem_cons_of_mem _ mem)
          exact .of_waiting fits valued (Bool.eq_false_iff.mpr separate) rest

end Clean

end SchemaPress.CommandLine
