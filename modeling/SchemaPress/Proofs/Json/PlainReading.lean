import SchemaPress.Document.Shape
import SchemaPress.Json.Reading
import SchemaPress.Proofs.Json.DocumentOfLayout

/-!
# Reading a written value without its places

A written value offers the same readings as a node of a document, only that a reading which fails
says nothing about why and where: its monad is `Option`. What is read of a text is then what is read
of the value laid out in it (`read_laid`), for every reading that is made of the readings of a
document in one of the ways of `Agree`. Facts about which texts can be read, and as what, become
facts about values in which no place and no fault occurs.
-/

set_option autoImplicit false

namespace SchemaPress.Json

open SchemaPress.Document

namespace Written

/-- The text of a value that is one. -/
def text? : Written → Option String
  | text glyphs => Glyph.text? glyphs
  | _ => none

/-- The truth of a value that is a flag. -/
def flag? : Written → Option Bool
  | flag value => some value
  | _ => none

/-- The natural number of 64 bits that a value is. -/
def count? : Written → Option Nat
  | number written => written.count?
  | _ => none

/-- The value that one of some words stands for; the word is a text, or the one key of a record
whose value is null. -/
def oneOf? {α : Type} (choices : List (String × α)) : Written → Option α
  | text glyphs => (Glyph.text? glyphs).bind (List.lookup · choices)
  | record [(key, null)] => (Glyph.text? key).bind (List.lookup · choices)
  | _ => none

/-- Says that a value is null. -/
def isNull : Written → Bool
  | null => true
  | _ => false

/-- The value itself, unless it is null. -/
def present? : Written → Option (Option Written)
  | null => some none
  | written => some (some written)

/-- The items of a value that is a list. -/
def items? : Written → Option (Items Written Option)
  | list items => some ⟨items, some ()⟩
  | _ => none

/-- The members of a record, under their names. -/
def named (members : List (List Glyph × Written)) : List (Member Written Option) :=
  members.map fun member => ⟨Glyph.text? member.1, .start, member.2⟩

/-- The fields of a record with a number of fields. -/
def fields? (width : Nat) : Written → Option (Fields Written Option)
  | record members => some (.named (named members) (some .start))
  | list items =>
    some (.positional (items.take width) (if items.length ≤ width then some .start else none))
  | _ => none

instance : Source Written Option where
  text := text?
  flag := flag?
  count := count?
  oneOf := oneOf?
  present? := present?
  list := items?
  record _ := fields?
  skip _ := some ()
  complain _ _ _ := none

end Written

/-! ## Readings that agree -/

/-- Says that a reading of nodes and one of written values give the same wherever a node is what a
value is read as. -/
def Agree {α : Type} (read : Node → Except Fault α) (plain : Written → Option α) : Prop :=
  ∀ written node, Holds written node → (read node).toOption = plain written

/-- A reading that goes on from another one agrees where both do. -/
theorem toOption_bind {α β : Type} {first : Except Fault α} {plain : Option α}
    {next : α → Except Fault β} {plainNext : α → Option β} (same : first.toOption = plain)
    (more : ∀ value, (next value).toOption = plainNext value) :
    (first >>= next).toOption = plain >>= plainNext := by
  subst same
  cases first with
  | error fault => rfl
  | ok value => exact more value

/-- A result that is some value without its fault is that value. -/
theorem eq_ok_of_toOption {α : Type} {result : Except Fault α} {value : α}
    (same : result.toOption = some value) : result = .ok value := by
  cases result with
  | error fault => cases same
  | ok read => exact congrArg Except.ok (Option.some.inj same)

namespace Agree

/-- What is read alike may be changed alike. -/
theorem map {α β : Type} {read : Node → Except Fault α} {plain : Written → Option α}
    (agree : Agree read plain) (change : α → β) :
    Agree (fun node => do return change (← read node))
      (fun written => do return change (← plain written)) :=
  fun written node holds => toOption_bind (agree written node holds) fun _ => rfl

/-- Texts are read alike. -/
theorem text : Agree Source.text Source.text := by
  intro written node holds
  cases written, node, holds using Holds.kinds with
  | text glyphs value before after same => exact same
  | null | flag | number | list | record => rfl

/-- Flags are read alike. -/
theorem flag : Agree Source.flag Source.flag := by
  intro written node holds
  cases written, node, holds using Holds.kinds with
  | null | flag | number | text | list | record => rfl

/-- Counts are read alike. -/
theorem count : Agree Source.count Source.count := by
  intro written node holds
  cases written, node, holds using Holds.kinds with
  | number written value before after same =>
    show (Node.count _).toOption = written.count?
    rw [← same]
    unfold Node.count countOf
    cases value with
    | error fault => rfl
    | ok value =>
      cases value with
      | fraction value => rfl
      | whole value =>
        simp only
        split <;> rfl
  | null | flag | text | list | record => rfl

/-- A word is looked up among choices as in a list of pairs. -/
theorem lookUp_toOption {α : Type} (choices : List (String × α)) (word : String)
    (after : Text.Place) : (Node.lookUp choices word after).toOption = choices.lookup word := by
  unfold Node.lookUp
  cases choices.lookup word <;> rfl

/-- A value that has to be absent is null. -/
theorem unit_toOption {written : Written} {node : Node} (holds : Holds written node) :
    node.unit.toOption = if written.isNull then some () else none := by
  cases written, node, holds using Holds.kinds with
  | null | flag | number | text | list | record => rfl

/-- Choices are read alike. -/
theorem oneOf {α : Type} (choices : List (String × α)) :
    Agree (Source.oneOf choices) (Source.oneOf choices) := by
  intro written node holds
  cases written, node, holds using Holds.kinds with
  | text glyphs value before after same =>
    exact toOption_bind same fun word => lookUp_toOption choices word after
  | record members start nodes after hold =>
    cases hold with
    | nil => rfl
    | @cons member read members others head tail =>
      obtain ⟨glyphs, value⟩ := member
      obtain ⟨key, node⟩ := read
      obtain ⟨same, -, holds⟩ := head
      have absent := unit_toOption holds
      have ended : (Node.endOfWord (.closed after) others).toOption =
          if members.isEmpty then some () else none := by
        cases tail <;> rfl
      -- The word, the null behind it and the end of the record are looked at one after another.
      have steps : Node.oneOf choices (.record start ((key, node) :: others) (.closed after)) =
          ((key.text >>= fun word => Node.lookUp choices word key.after) >>= fun choice =>
            node.unit >>= fun _ => Node.endOfWord (.closed after) others >>= fun _ =>
              .ok choice) := by
        cases h : key.text <;> simp [Node.oneOf, h, bind, Except.bind, pure, Except.pure]
      have plain : Written.oneOf? choices (.record ((glyphs, value) :: members)) =
          ((Glyph.text? glyphs >>= fun word => choices.lookup word) >>= fun choice =>
            (if value.isNull then some () else none) >>= fun _ =>
              (if members.isEmpty then some () else none) >>= fun _ => some choice) := by
        cases value <;> cases members <;> simp [Written.oneOf?, Written.isNull]
      show (Node.oneOf choices _).toOption = Written.oneOf? choices _
      rw [steps, plain]
      exact toOption_bind (toOption_bind same fun word => lookUp_toOption choices word key.after)
        fun choice => toOption_bind absent fun _ => toOption_bind ended fun _ => rfl
  | null | flag | number | list => rfl

/-- Both find a value present, and then the same one, or both find none. -/
theorem readOptional {α : Type} {read : Node → Except Fault α} {plain : Written → Option α}
    (agree : Agree read plain) : Agree (readOptional read) (readOptional plain) := by
  intro written node holds
  have present : (Node.present? node = .ok none ∧ Written.present? written = some none) ∨
      (Node.present? node = .ok (some node) ∧ Written.present? written = some (some written)) := by
    cases written, node, holds using Holds.kinds with
    | null => exact .inl ⟨rfl, rfl⟩
    | flag | number | text | list | record => exact .inr ⟨rfl, rfl⟩
  simp only [Document.readOptional, Source.present?]
  rcases present with ⟨hnode, hplain⟩ | ⟨hnode, hplain⟩
  · rw [hnode, hplain]
    rfl
  · rw [hnode, hplain]
    exact agree.map some written node holds

/-- Both read the same of each of some items. -/
theorem mapM {α : Type} {read : Node → Except Fault α} {plain : Written → Option α}
    (agree : Agree read plain) {items : List Written} {nodes : List Node}
    (hold : List.Forall₂ Holds items nodes) :
    (nodes.mapM read).toOption = items.mapM plain := by
  induction hold with
  | nil => rfl
  | cons holds _ ih =>
    rw [List.mapM_cons, List.mapM_cons]
    exact toOption_bind (agree _ _ holds) fun value => toOption_bind ih fun values => rfl

/-- Lists are read alike if their items are. -/
theorem readList {α : Type} {read : Node → Except Fault α} {plain : Written → Option α}
    (agree : Agree read plain) : Agree (readList read) (readList plain) := by
  intro written node holds
  cases written, node, holds using Holds.kinds with
  | list items start nodes after hold =>
    exact toOption_bind (agree.mapM hold) fun values => rfl
  | null | flag | number | text | record => rfl

end Agree

/-! ## Values that are passed over -/

mutual

/-- Any written value can be passed over. -/
theorem skip_ok : (written : Written) → {node : Node} → Holds written node → node.skip = .ok ()
  | .null, _, ⟨_, _, same⟩ => by subst same; rfl
  | .flag _, _, ⟨_, _, same⟩ => by subst same; rfl
  | .number _, _, ⟨_, _, _, same, _⟩ => by subst same; rfl
  | .text _, _, ⟨_, _, _, same, _⟩ => by subst same; rfl
  | .list items, _, ⟨_, _, _, same, hold⟩ => by
    subst same
    rw [Node.skip, skipItems_ok items hold]
    rfl
  | .record members, _, ⟨_, _, _, same, hold⟩ => by
    subst same
    rw [Node.skip, skipMembers_ok members hold]
    rfl

/-- The items of any written list can be passed over. -/
theorem skipItems_ok : (items : List Written) → {nodes : List Node} → HoldItems items nodes →
    Node.skipItems nodes = .ok ()
  | [], _, hold => by
    obtain rfl := hold
    rfl
  | item :: items, _, hold => by
    obtain ⟨node, others, rfl, holds, hold⟩ := hold
    rw [Node.skipItems, skip_ok item holds]
    exact skipItems_ok items hold

/-- The members of any written record can be passed over. -/
theorem skipMembers_ok : (members : List (List Glyph × Written)) → {nodes : List (Key × Node)} →
    HoldMembers members nodes → Node.skipMembers nodes = .ok ()
  | [], _, hold => by
    obtain rfl := hold
    rfl
  | (glyphs, value) :: members, _, hold => by
    obtain ⟨key, node, others, rfl, ⟨-, form, holds⟩, hold⟩ := hold
    rw [Node.skipMembers, form, skip_ok value holds]
    exact skipMembers_ok members hold

end

/-! ## Records that agree -/

/-- Says that a field of a record is read alike. -/
structure FieldsAgree {δ : Type} (field : Field Node (Except Fault) δ)
    (plain : Field Written Option δ) : Prop where
  name : field.name = plain.name
  isSet : field.isSet = plain.isSet
  read : ∀ draft, Agree (field.read · draft) (plain.read · draft)

/-- A field kept in a part of a draft is read alike where its value is. -/
theorem FieldsAgree.of {δ β : Type} (name : String) (get : δ → Option β) (set : β → δ → δ)
    {read : Node → Except Fault β} {plain : Written → Option β} (agree : Agree read plain) :
    FieldsAgree (.of name get set read) (.of name get set plain) :=
  ⟨rfl, rfl, fun draft => agree.map fun value => set value draft⟩

/-- Says that a record is read alike, field by field. -/
structure ShapesAgree {δ α : Type} (shape : Shape Node (Except Fault) δ α)
    (plain : Shape Written Option δ α) : Prop where
  fields : List.Forall₂ FieldsAgree shape.fields plain.fields
  empty : shape.empty = plain.empty
  finish : shape.finish = plain.finish

namespace ShapesAgree

/-- Fields that agree have the same names, so a name finds the same field or none. -/
theorem find? {δ : Type} {fields : List (Field Node (Except Fault) δ)}
    {plain : List (Field Written Option δ)} (agree : List.Forall₂ FieldsAgree fields plain)
    (name : String) :
    Option.Rel FieldsAgree (fields.find? (·.name == name)) (plain.find? (·.name == name)) := by
  induction agree with
  | nil => exact .none
  | cons head _ ih =>
    rw [List.find?_cons, List.find?_cons, head.name]
    split
    · exact .some head
    · exact ih

variable {δ α : Type} {shape : Shape Node (Except Fault) δ α} {plain : Shape Written Option δ α}

/-- A member is added alike to what has been read of a record. -/
theorem addMember (agree : ShapesAgree shape plain) (node : Node) (written : Written)
    {member : List Glyph × Written} {read : Key × Node} (holds : HoldsMember member read)
    (draft : δ) :
    (shape.addMember node draft ⟨read.1.text, read.1.standing, read.2⟩).toOption =
      plain.addMember written draft ⟨Glyph.text? member.1, .start, member.2⟩ := by
  obtain ⟨same, -, holds⟩ := holds
  refine toOption_bind same fun key => ?_
  have found := find? agree.fields key
  generalize shape.fields.find? (·.name == key) = field at found ⊢
  generalize plain.fields.find? (·.name == key) = plainField at found ⊢
  cases found with
  | none =>
    -- A field of another name is passed over, which no written value refuses.
    have skipped : Source.skip (m := Except Fault) read.2 = .ok () := skip_ok member.2 holds
    simp only [skipped]
    rfl
  | some head =>
    simp only [head.isSet]
    split
    · rfl
    · exact head.read draft member.2 read.2 holds

/-- So are all members, one after another. -/
theorem addMembers (agree : ShapesAgree shape plain) (node : Node) (written : Written)
    {members : List (List Glyph × Written)} {nodes : List (Key × Node)}
    (hold : List.Forall₂ HoldsMember members nodes) (draft : δ) :
    ((Node.named nodes).foldlM (shape.addMember node) draft).toOption =
      (Written.named members).foldlM (plain.addMember written) draft := by
  induction hold generalizing draft with
  | nil => rfl
  | @cons member read _ _ holds _ ih =>
    simp only [Node.named, Written.named, List.map_cons, List.foldlM_cons]
    exact toOption_bind (agree.addMember node written holds draft) ih

/-- Fields without names are taken into a draft alike. -/
theorem addItems {fields : List (Field Node (Except Fault) δ)}
    {plainFields : List (Field Written Option δ)}
    (agree : List.Forall₂ FieldsAgree fields plainFields) {items : List Written}
    {nodes : List Node} (hold : List.Forall₂ Holds items nodes) (draft : δ) :
    (Shape.addItems fields nodes draft).toOption = Shape.addItems plainFields items draft := by
  induction agree generalizing items nodes draft with
  | nil => cases hold <;> rfl
  | cons head _ ih =>
    cases hold with
    | nil => rfl
    | cons holds hold =>
      exact toOption_bind (head.read draft _ _ holds) fun draft => ih hold draft

/-- A record is read as the value of the draft of its fields. -/
theorem read_eq (node : Node) :
    (shape.read node).toOption = ((Shape.read.collect shape node).toOption.map (·.2.1)).bind
      fun draft => (shape.finish draft).toOption := by
  unfold Shape.read
  cases Shape.read.collect shape node with
  | error fault => rfl
  | ok collected =>
    obtain ⟨named, draft, place⟩ := collected
    simp only [bind, Except.bind, Except.toOption, Option.map_some, Option.bind_some]
    cases shape.finish draft <;> rfl

/-- A written record is read as the value of the draft of its fields. -/
theorem readPlain_eq (written : Written) :
    plain.read written = ((Shape.read.collect plain written).map (·.2.1)).bind
      fun draft => (plain.finish draft).toOption := by
  unfold Shape.read
  cases Shape.read.collect plain written with
  | none => rfl
  | some collected =>
    obtain ⟨named, draft, place⟩ := collected
    simp only [bind, Option.map_some, Option.bind_some]
    cases plain.finish draft <;> rfl

/-- A list that is not too long holds the fields of a record, without a fault behind them. -/
theorem fieldsOfList_fits {nodes : List Node} {width : Nat} (fits : nodes.length ≤ width)
    (after : Text.Place) :
    Node.fieldsOfList width nodes (.closed after) = .positional nodes (.ok after) := by
  have rest : nodes.drop width = [] := List.drop_eq_nil_iff.mpr fits
  simp only [Node.fieldsOfList, rest, Ending.ofFullList, Ending.ofList, ite_self]

/-- A list that is too long holds the fields of a record with a fault behind them. -/
theorem fieldsOfList_over {nodes : List Node} {width : Nat} (exceeds : width < nodes.length)
    (after : Text.Place) :
    ∃ fault, Node.fieldsOfList width nodes (.closed after) =
      .positional (nodes.take width) (.error fault) := by
  cases rest : nodes.drop width with
  | nil => exact absurd (List.drop_eq_nil_iff.mp rest) (by omega)
  | cons surplus others =>
    exact ⟨⟨.trailingCharacters, surplus.firstByte⟩, by simp only [Node.fieldsOfList, rest]⟩

/-- Fields without names are collected in the order of the record. -/
theorem collect_positional {node : Node} {items : List Node} {ending : Except Fault Text.Place}
    (fields : Node.fields shape.title shape.fields.length node = .ok (.positional items ending)) :
    Shape.read.collect shape node = (do
      let draft ← Shape.addItems shape.fields items shape.empty
      return (false, draft, ← ending)) := by
  have record : Source.record shape.title shape.fields.length node =
      Except.ok (.positional items ending) := fields
  unfold Shape.read.collect
  rw [record]
  rfl

/-- The draft of the fields of a record is collected alike. -/
theorem collect (agree : ShapesAgree shape plain) {written : Written} {node : Node}
    (holds : Holds written node) :
    (Shape.read.collect shape node).toOption.map (·.2.1) =
      (Shape.read.collect plain written).map (·.2.1) := by
  cases written, node, holds using Holds.kinds with
  | record members start nodes after hold =>
    have drafts := agree.addMembers (.record start nodes (.closed after)) (.record members)
      hold shape.empty
    have read : Shape.read.collect shape (.record start nodes (.closed after)) = (do
        let draft ← (Node.named nodes).foldlM
          (shape.addMember (.record start nodes (.closed after))) shape.empty
        return (true, draft, after)) := rfl
    have plainRead : Shape.read.collect plain (.record members) = (do
        let draft ← (Written.named members).foldlM (plain.addMember (.record members)) plain.empty
        return (true, draft, .start)) := rfl
    rw [read, plainRead, ← agree.empty, ← drafts]
    cases (Node.named nodes).foldlM
      (shape.addMember (.record start nodes (.closed after))) shape.empty <;> rfl
  | list items start nodes after hold =>
    have width : shape.fields.length = plain.fields.length := agree.fields.length_eq
    have length : items.length = nodes.length := hold.length_eq
    have plainRead : Shape.read.collect plain (.list items) = (do
        let draft ← Shape.addItems plain.fields (items.take plain.fields.length) plain.empty
        return (false, draft,
          ← ite (items.length ≤ plain.fields.length) (some .start) none)) := rfl
    rw [plainRead, ← width]
    -- A list that is too long is refused on both sides, if not for one of its first items.
    by_cases fits : items.length ≤ shape.fields.length
    · have fields : Node.fields shape.title shape.fields.length
          (.list start nodes (.closed after)) = .ok (.positional nodes (.ok after)) :=
        congrArg Except.ok (fieldsOfList_fits (by omega) after)
      rw [collect_positional fields, if_pos fits, List.take_of_length_le fits, ← agree.empty,
        ← addItems agree.fields hold shape.empty]
      cases Shape.addItems shape.fields nodes shape.empty <;> rfl
    · obtain ⟨fault, exceeds⟩ :=
        @fieldsOfList_over nodes shape.fields.length (by omega) after
      have fields : Node.fields shape.title shape.fields.length
          (.list start nodes (.closed after)) =
            .ok (.positional (nodes.take shape.fields.length) (.error fault)) :=
        congrArg Except.ok exceeds
      rw [collect_positional fields, if_neg fits]
      cases Shape.addItems shape.fields (nodes.take shape.fields.length) shape.empty <;>
        cases Shape.addItems plain.fields (items.take shape.fields.length) plain.empty <;> rfl
  | null | flag | number | text => rfl

/-- Records that agree field by field agree as a whole. -/
theorem read (agree : ShapesAgree shape plain) : Agree shape.read plain.read := by
  intro written node holds
  rw [read_eq, readPlain_eq, agree.collect holds, agree.finish]

end ShapesAgree

/-- What is read of a text is what is read of the value laid out in it. -/
theorem read_laid {α : Type} {reading : Node → Except Fault α} {plain : Written → Option α}
    (agree : Agree reading plain) {written : Written} {text : String}
    (laid : Laid written.lexemes text.toList) :
    (Json.read reading text).toOption = plain written := by
  obtain ⟨surplus, holds⟩ := document_of_layout laid
  rw [← agree _ _ holds]
  unfold Json.read
  simp only [surplus]
  cases reading (Document.ofText text).root <;> rfl

end SchemaPress.Json
