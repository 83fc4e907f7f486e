import Mathlib.Data.List.Induction
import Mathlib.Data.List.Perm.Basic
import SchemaPress.CommandLine.Command

/-!
# What is read off the items of an export

Before the command and behind it, items are taken one after another into a draft. The whole of them
is taken exactly if each of them can be taken and nothing is given twice that is given once at most;
and then the draft is read off the items at once (`foldlM_take_eq_ok_iff`). So neither the order of
the items counts nor how an option is written.
-/

set_option autoImplicit false

namespace SchemaPress.CommandLine

/-! ## What items say -/

namespace Item

/-- The value that an item gives to an option. -/
def valueOf? (flag : Flag) : Item → Option String
  | setting other value _ => if other = flag then some value else none
  | _ => none

/-- The text of an item that is no option. -/
def operand? : Item → Option String
  | operand text => some text
  | _ => none

end Item

/-- The values that some items give to an option. -/
def valuesOf (flag : Flag) (items : List Item) : List String :=
  items.filterMap (Item.valueOf? flag)

/-- How often some items switch an option on. -/
def timesOf (flag : Flag) (items : List Item) : Nat :=
  items.count (.switch flag)

/-- They have the same operands. -/
def operandsOf (items : List Item) : List String :=
  items.filterMap Item.operand?

/-- The draft that is read off some items. -/
def Draft.ofItems (items : List Item) : Draft where
  config := (valuesOf .config items).head?
  verbosity := min (timesOf .verbose items) greatestVerbosity
  format := (valuesOf .format items).head?.bind Format.ofChoice?
  out := (valuesOf .out items).head?
  all := 0 < timesOf .all items
  outDir := (valuesOf .outDir items).head?
  schema := (operandsOf items).head?

/-- Says that an option can have a value. -/
def Flag.Accepts (value : String) : Flag → Prop
  | config | out | outDir => value ≠ ""
  | format => (Format.ofChoice? value).isSome = true
  | _ => False

/-- Says that an item can be taken on a side. -/
def IsTaken (side : Side) : Item → Prop
  | .switch flag => flag = .verbose ∨ flag = .all
  | .setting flag value _ => flag.Accepts value
  | .operand text => side = some .exportSchema ∧ text ≠ ""
  | _ => False

/-- Says that an item gives nothing once more that is given once at most. -/
structure IsNew (items : List Item) (item : Item) : Prop where
  value : ∀ flag, item.valueOf? flag ≠ none → valuesOf flag items = []
  all : item = .switch .all → timesOf .all items = 0
  operand : item.operand? ≠ none → operandsOf items = []

/-- Says that some items can all be taken on a side. -/
structure Consistent (side : Side) (items : List Item) : Prop where
  taken : ∀ item ∈ items, IsTaken side item
  value : ∀ flag, (valuesOf flag items).length ≤ 1
  all : timesOf .all items ≤ 1
  operand : (operandsOf items).length ≤ 1

section Steps

variable {side : Side} {items : List Item} {item : Item} {draft : Draft}

/-- An option gets the values of the front and then those of the back. -/
theorem valuesOf_append (flag : Flag) (front back : List Item) :
    valuesOf flag (front ++ back) = valuesOf flag front ++ valuesOf flag back :=
  List.filterMap_append

/-- A switch is counted in the front and in the back. -/
theorem timesOf_append (flag : Flag) (front back : List Item) :
    timesOf flag (front ++ back) = timesOf flag front + timesOf flag back :=
  List.count_append

/-- The operands of the front come before those of the back. -/
theorem operandsOf_append (front back : List Item) :
    operandsOf (front ++ back) = operandsOf front ++ operandsOf back :=
  List.filterMap_append

/-- A last item adds its value to those before. -/
theorem valuesOf_concat (flag : Flag) (items : List Item) (item : Item) :
    valuesOf flag (items ++ [item]) = valuesOf flag items ++ (item.valueOf? flag).toList := by
  rw [valuesOf_append]
  cases given : item.valueOf? flag <;> simp [valuesOf, given]

/-- A last item counts once more if it is the switch. -/
theorem timesOf_concat (flag : Flag) (items : List Item) (item : Item) :
    timesOf flag (items ++ [item]) = timesOf flag items + if item = .switch flag then 1 else 0 := by
  rw [timesOf_append]
  simp [timesOf, List.count_singleton]

/-- A last item adds its operand to those before. -/
theorem operandsOf_concat (items : List Item) (item : Item) :
    operandsOf (items ++ [item]) = operandsOf items ++ item.operand?.toList := by
  rw [operandsOf_append]
  cases given : item.operand? <;> simp [operandsOf, given]

/-- A list is not longer than one with something more that may be left out. -/
theorem length_concat_le_one {α : Type} {xs : List α} {x? : Option α} :
    (xs ++ x?.toList).length ≤ 1 ↔ xs.length ≤ 1 ∧ (x? ≠ none → xs = []) := by
  cases x? with
  | none => simp
  | some x =>
    have last : (xs ++ [x]).length ≤ 1 ↔ xs = [] := by simp
    rw [Option.toList_some, last]
    refine ⟨fun empty => ⟨?_, fun _ => empty⟩, fun free => free.2 (Option.some_ne_none x)⟩
    rw [empty]
    exact Nat.zero_le 1

/-- Items are consistent with a last one if this one can be taken and is new. -/
theorem consistent_concat :
    Consistent side (items ++ [item]) ↔ Consistent side items ∧ IsTaken side item ∧
      IsNew items item := by
  have times : timesOf .all items + (if item = .switch .all then 1 else 0) ≤ 1 ↔
      timesOf .all items ≤ 1 ∧ (item = .switch .all → timesOf .all items = 0) := by
    by_cases all : item = .switch .all
    · simp [all]
      omega
    · simp [all]
  constructor
  · rintro ⟨taken, value, all, operand⟩
    simp only [valuesOf_concat, length_concat_le_one] at value
    rw [timesOf_concat, times] at all
    rw [operandsOf_concat, length_concat_le_one] at operand
    rw [List.forall_mem_append, List.forall_mem_singleton] at taken
    exact ⟨⟨taken.1, fun flag => (value flag).1, all.1, operand.1⟩, taken.2,
      fun flag => (value flag).2, all.2, operand.2⟩
  · rintro ⟨⟨taken, value, all, operand⟩, takes, new⟩
    constructor
    · exact List.forall_mem_append.mpr ⟨taken, List.forall_mem_singleton.mpr takes⟩
    · intro flag
      rw [valuesOf_concat, length_concat_le_one]
      exact ⟨value flag, new.value flag⟩
    · rw [timesOf_concat, times]
      exact ⟨all, new.all⟩
    · rw [operandsOf_concat, length_concat_le_one]
      exact ⟨operand, new.operand⟩

/-- A value is taken once if none has been taken before. -/
theorem once_eq_ok_iff {α : Type} {flag : Flag} {before after : Option α} {given : Except Stop α} :
    once flag before given = .ok after ↔ before = none ∧ ∃ value, given = .ok value ∧
      after = some value := by
  cases before with
  | some value => exact iff_of_false nofun fun free => nomatch free.1
  | none => cases given <;> simp [once, Except.map, eq_comm]

/-- Every text is a path, except the empty one. -/
theorem pathGiven_eq_ok_iff {what path value : String} :
    pathGiven what path = .ok value ↔ path ≠ "" ∧ value = path := by
  rw [pathGiven, ne_eq, ← String.isEmpty_iff]
  by_cases empty : path.isEmpty = true
  · simp [empty]
  · simp [empty, eq_comm]

/-- A word is taken if it can be read. -/
theorem wordGiven_eq_ok_iff {α : Type} {what word : String} {read : String → Option α} {value : α} :
    wordGiven what read word = .ok value ↔ read word = some value := by
  rw [wordGiven]
  cases read word <;> simp

/-- Two steps succeed together if the first succeeds and the second does on its result. -/
theorem bind_eq_ok_iff {ε α β : Type} {first : Except ε α} {next : α → Except ε β} {result : β} :
    (first >>= next) = .ok result ↔ ∃ value, first = .ok value ∧ next value = .ok result := by
  cases first with
  | error error => exact iff_of_false nofun fun ⟨_, same, _⟩ => nomatch same
  | ok value =>
    change next value = .ok result ↔ _
    simp

/-- So it is where the second step cannot fail. -/
theorem bind_pure_eq_ok_iff {ε α β : Type} {first : Except ε α} {next : α → β} {result : β} :
    (first >>= fun value => pure (next value)) = .ok result ↔
      ∃ value, first = .ok value ∧ result = next value := by
  rw [bind_eq_ok_iff]
  refine exists_congr fun value => and_congr_right fun _ => ?_
  exact ⟨fun same => (Except.ok.inj same).symm, congrArg Except.ok ∘ Eq.symm⟩

/-- Of the switches only the one for all formats must not come twice. -/
theorem isNew_switch {flag : Flag} :
    IsNew items (.switch flag) ↔ (flag = .all → timesOf .all items = 0) := by
  constructor
  · rintro ⟨-, all, -⟩ rfl
    exact all rfl
  · intro all
    exact ⟨fun _ given => absurd rfl given, fun same => all (Item.switch.inj same),
      fun given => absurd rfl given⟩

/-- A setting is new if its option has no value yet. -/
theorem isNew_setting {flag : Flag} {value : String} {attached : Bool} :
    IsNew items (.setting flag value attached) ↔ valuesOf flag items = [] := by
  constructor
  · rintro ⟨given, -, -⟩
    exact given flag (by simp [Item.valueOf?])
  · intro free
    refine ⟨fun other given => ?_, nofun, fun given => absurd rfl given⟩
    by_cases same : flag = other
    · rw [← same]
      exact free
    · simp [Item.valueOf?, same] at given

/-- An operand is new if there is none yet. -/
theorem isNew_operand {text : String} :
    IsNew items (.operand text) ↔ operandsOf items = [] := by
  constructor
  · rintro ⟨-, -, given⟩
    exact given (Option.some_ne_none text)
  · intro free
    exact ⟨fun _ given => absurd rfl given, nofun, fun _ => free⟩

/-- An option accepts every value that items taken give to it. -/
theorem accepts_of_mem_valuesOf {flag : Flag} {value : String}
    (taken : ∀ item ∈ items, IsTaken side item) (mem : value ∈ valuesOf flag items) :
    flag.Accepts value := by
  obtain ⟨item, here, given⟩ := List.mem_filterMap.mp mem
  cases item with
  | setting other value' attached =>
    obtain ⟨rfl, same⟩ := Option.ite_none_right_eq_some.mp given
    obtain rfl := Option.some.inj same
    exact taken _ here
  | _ => cases given

/-- What is read off some items and one more. -/
theorem ofItems_concat (items : List Item) (item : Item) :
    Draft.ofItems (items ++ [item]) =
      { config := (valuesOf .config items ++ (item.valueOf? .config).toList).head?
        verbosity := min (timesOf .verbose items + if item = .switch .verbose then 1 else 0)
          greatestVerbosity
        format := (valuesOf .format items ++ (item.valueOf? .format).toList).head?.bind
          Format.ofChoice?
        out := (valuesOf .out items ++ (item.valueOf? .out).toList).head?
        all := 0 < timesOf .all items + if item = .switch .all then 1 else 0
        outDir := (valuesOf .outDir items ++ (item.valueOf? .outDir).toList).head?
        schema := (operandsOf items ++ item.operand?.toList).head? } := by
  simp only [Draft.ofItems, valuesOf_concat, timesOf_concat, operandsOf_concat]

/-- How a draft takes a switch. -/
theorem take_switch {flag : Flag} :
    (Draft.ofItems items).take side (.switch flag) = .ok draft ↔
      IsTaken side (.switch flag) ∧ IsNew items (.switch flag) ∧
        draft = Draft.ofItems (items ++ [.switch flag]) := by
  rw [isNew_switch, ofItems_concat]
  cases flag with
  | verbose =>
    have counted : min (min (timesOf .verbose items) greatestVerbosity + 1) greatestVerbosity =
        min (timesOf .verbose items + 1) greatestVerbosity := by
      omega
    simp [Draft.take, Draft.switch, IsTaken, Draft.ofItems, Item.valueOf?, Item.operand?, counted,
      eq_comm]
  | all =>
    by_cases free : timesOf .all items = 0
    · simp [Draft.take, Draft.switch, IsTaken, Draft.ofItems, Item.valueOf?, Item.operand?, free,
        eq_comm]
    · simp [Draft.take, Draft.switch, Draft.ofItems, free, Nat.pos_of_ne_zero free]
  | _ => exact iff_of_false nofun fun ⟨taken, _⟩ => by simp [IsTaken] at taken

/-- How a draft takes a value for an option that has none. -/
theorem take_setting {flag : Flag} {value : String} {attached : Bool}
    (free : valuesOf flag items = []) :
    (Draft.ofItems items).take side (.setting flag value attached) = .ok draft ↔
      flag.Accepts value ∧ draft = Draft.ofItems (items ++ [.setting flag value attached]) := by
  rw [ofItems_concat]
  cases flag with
  | config | out | outDir =>
    simp only [Draft.take, Draft.set, bind_pure_eq_ok_iff, once_eq_ok_iff, pathGiven_eq_ok_iff]
    simp [Flag.Accepts, Draft.ofItems, Item.valueOf?, Item.operand?, free]
  | format =>
    simp only [Draft.take, Draft.set, bind_pure_eq_ok_iff, once_eq_ok_iff, wordGiven_eq_ok_iff]
    cases read : Format.ofChoice? value <;>
      simp [Flag.Accepts, Draft.ofItems, Item.valueOf?, Item.operand?, free, read]
  | _ => exact iff_of_false nofun fun ⟨accepts, _⟩ => accepts

/-- An option that has its value already is not given another one. -/
theorem take_setting_again {flag : Flag} {value : String} {attached : Bool}
    (before : ∀ item ∈ items, IsTaken side item) (given : valuesOf flag items ≠ []) :
    (Draft.ofItems items).take side (.setting flag value attached) ≠ .ok draft := by
  intro taken
  cases flag with
  | config | out | outDir =>
    simp only [Draft.take, Draft.set, bind_pure_eq_ok_iff, once_eq_ok_iff] at taken
    obtain ⟨_, ⟨unset, _⟩, _⟩ := taken
    exact given (List.head?_eq_none_iff.mp unset)
  | format =>
    -- The draft holds the format that the value names: a value that names none was not taken.
    simp only [Draft.take, Draft.set, bind_pure_eq_ok_iff, once_eq_ok_iff] at taken
    obtain ⟨_, ⟨unset, _⟩, _⟩ := taken
    obtain ⟨first, others, values⟩ := List.exists_cons_of_ne_nil given
    have named : Flag.format.Accepts first :=
      accepts_of_mem_valuesOf before (values ▸ List.mem_cons_self)
    change ((valuesOf .format items).head?.bind Format.ofChoice?) = none at unset
    rw [values, List.head?_cons, Option.bind_some] at unset
    rw [Flag.Accepts, unset] at named
    cases named
  | _ => cases taken

/-- How the draft of an export takes an operand. -/
theorem take_operand_exportSchema {text : String} :
    (Draft.ofItems items).take (some .exportSchema) (.operand text) = .ok draft ↔
      text ≠ "" ∧ operandsOf items = [] ∧ draft = Draft.ofItems (items ++ [.operand text]) := by
  rw [ofItems_concat]
  cases schema : operandsOf items with
  | nil =>
    have unset : (Draft.ofItems items).schema = none := congrArg List.head? schema
    simp only [Draft.take, Draft.takeOperand, unset, bind_pure_eq_ok_iff, pathGiven_eq_ok_iff]
    simp [Draft.ofItems, Item.valueOf?, Item.operand?]
  | cons first others =>
    have set : (Draft.ofItems items).schema = some first := congrArg List.head? schema
    simp [Draft.take, Draft.takeOperand, set]

/-- An item is taken where it can be taken and gives nothing twice that is given once at most. -/
theorem take_ofItems (exporting : side ≠ some .jsonSchema)
    (before : ∀ item ∈ items, IsTaken side item) :
    (Draft.ofItems items).take side item = .ok draft ↔
      IsTaken side item ∧ IsNew items item ∧ draft = Draft.ofItems (items ++ [item]) := by
  cases item with
  | switch flag => exact take_switch
  | setting flag value attached =>
    rw [isNew_setting]
    by_cases free : valuesOf flag items = []
    · rw [take_setting free]
      simp [IsTaken, free]
    · exact iff_of_false (take_setting_again before free) fun ⟨_, empty, _⟩ => free empty
  | operand text =>
    rw [isNew_operand]
    by_cases here : side = some .exportSchema
    · subst here
      rw [take_operand_exportSchema]
      simp [IsTaken]
    · refine iff_of_false (fun taken => ?_) fun ⟨taken, _⟩ => here taken.1
      cases side with
      | none => cases taken
      | some verb =>
        cases verb with
        | exportSchema => exact here rfl
        | jsonSchema => exact exporting rfl
        | formats | init => cases taken
  | command name arguments => exact iff_of_false nofun fun ⟨taken, _⟩ => taken
  | refused error => exact iff_of_false nofun fun ⟨taken, _⟩ => taken

/-- Some items are all taken exactly if they are consistent, and then the draft is read off them. -/
theorem foldlM_take_eq_ok_iff (exporting : side ≠ some .jsonSchema) :
    items.foldlM (Draft.take side) {} = .ok draft ↔
      Consistent side items ∧ draft = Draft.ofItems items := by
  -- The draft of the items before the last one is known, so the induction is from the end.
  induction items using List.reverseRecOn generalizing draft with
  | nil =>
    have empty : Consistent side [] :=
      ⟨List.forall_mem_nil _, fun _ => Nat.zero_le 1, Nat.zero_le 1, Nat.zero_le 1⟩
    change Except.ok {} = .ok draft ↔ _ ∧ draft = {}
    simp [empty, eq_comm]
  | append_singleton items item ih =>
    rw [List.foldlM_append, consistent_concat]
    cases first : items.foldlM (Draft.take side) {} with
    | error stop =>
      refine iff_of_false nofun fun ⟨⟨before, _⟩, _⟩ => ?_
      have taken := ih.mpr ⟨before, rfl⟩
      rw [first] at taken
      cases taken
    | ok middle =>
      obtain ⟨before, rfl⟩ := ih.mp first
      change ((Draft.ofItems items).take side item >>= pure) = _ ↔ _
      rw [bind_pure, take_ofItems exporting before.taken]
      simp [before, and_assoc]

end Steps

/-! ## Items in another order -/

/-- What an item says, wherever its value stands. -/
def Item.said : Item → Item
  | setting flag value _ => setting flag value true
  | item => item

/-- Says that some items say the same as others, in whatever order and spelling. -/
def SayAlike (items others : List Item) : Prop :=
  (items.map Item.said).Perm (others.map Item.said)

section Orders

variable {side : Side} {items others : List Item}

/-- What items say gives an option the same values. -/
theorem valuesOf_map_said (flag : Flag) (items : List Item) :
    valuesOf flag (items.map Item.said) = valuesOf flag items := by
  rw [valuesOf, List.filterMap_map]
  exact List.filterMap_congr fun item _ => by cases item <;> rfl

/-- What items say has the same switches. -/
theorem timesOf_map_said (flag : Flag) (items : List Item) :
    timesOf flag (items.map Item.said) = timesOf flag items := by
  induction items with
  | nil => rfl
  | cons item items ih =>
    rw [timesOf, timesOf] at ih
    rw [timesOf, timesOf, List.map_cons, List.count_cons, List.count_cons, ih]
    cases item <;> rfl

/-- What items say has the same operands. -/
theorem operandsOf_map_said (items : List Item) :
    operandsOf (items.map Item.said) = operandsOf items := by
  rw [operandsOf, List.filterMap_map]
  exact List.filterMap_congr fun item _ => by cases item <;> rfl

/-- What an item says can be taken exactly if the item can. -/
theorem isTaken_said {item : Item} : IsTaken side item.said ↔ IsTaken side item := by
  cases item <;> rfl

namespace SayAlike

/-- Items that say the same give an option the same values, perhaps in another order. -/
theorem valuesOf (alike : SayAlike items others) (flag : Flag) :
    (valuesOf flag items).Perm (CommandLine.valuesOf flag others) := by
  rw [← valuesOf_map_said, ← valuesOf_map_said flag others]
  exact List.Perm.filterMap _ alike

/-- They have the same switches. -/
theorem timesOf (alike : SayAlike items others) (flag : Flag) :
    timesOf flag items = CommandLine.timesOf flag others := by
  rw [← timesOf_map_said, ← timesOf_map_said flag others]
  exact List.Perm.count_eq alike _

theorem operandsOf (alike : SayAlike items others) :
    (operandsOf items).Perm (CommandLine.operandsOf others) := by
  rw [← operandsOf_map_said, ← operandsOf_map_said others]
  exact List.Perm.filterMap _ alike

/-- Where items can be taken, so can others that say the same. -/
theorem taken (alike : SayAlike items others) (taken : ∀ item ∈ items, IsTaken side item) :
    ∀ item ∈ others, IsTaken side item := by
  intro item mem
  obtain ⟨other, here, same⟩ :=
    List.mem_map.mp ((List.Perm.mem_iff alike).mpr (List.mem_map_of_mem mem))
  rw [← isTaken_said, ← same, isTaken_said]
  exact taken other here

end SayAlike

end Orders

end SchemaPress.CommandLine
