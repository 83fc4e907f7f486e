import Mathlib.Data.List.Chain
import Mathlib.Data.List.Forall2
import Mathlib.Data.List.TakeWhile
import SchemaPress.Json.Node
import SchemaPress.Proofs.Json.LeafScan

/-!
# The document of a layout

Whatever blanks stand between the tokens of a written value, the text is read as the document of
that value, with nothing behind it. The proof follows the two steps of reading. First the tokens of
the text are the tokens of the value, one by one (`scanUpTo_laid`); what has to be known for this is
that of two tokens in a row one is punctuation, so that no number runs into what follows it. Then
the tokens form a tree (`build_value`): a value leaves the frames around it as they were and puts
one node into them, whatever they are and whatever tokens follow.

`Holds written node` relates the tree to the value, without regard to places.
-/

set_option autoImplicit false

namespace SchemaPress.Json

/-! ## Tokens -/

/-- Says that a token is what is read of a written one. -/
def Lexeme.Reads : Lexeme → Token → Prop
  | listOpen, token => token.sign = .listOpen
  | listClose, token => token.sign = .listClose
  | recordOpen, token => token.sign = .recordOpen
  | recordClose, token => token.sign = .recordClose
  | comma, token => token.sign = .comma
  | colon, token => token.sign = .colon
  | null, token => token.sign = .leaf .null
  | flag value, token => token.sign = .leaf (.flag value)
  | number written, token =>
    ∃ value, token.sign = .leaf (.number value none) ∧ countOf value = written.count?
  | text glyphs, token =>
    ∃ value, token.sign = .leaf (.text value none) ∧ value.toOption = Glyph.text? glyphs

/-- Says that of two tokens in a row one is punctuation. -/
def Apart (lexemes : List Lexeme) : Prop :=
  lexemes.IsChain fun first second => first.isPunctuation ∨ second.isPunctuation

/-- Says that tokens are apart and that punctuation stands in front, so that any token may stand
before them. -/
def Guarded (lexemes : List Lexeme) : Prop :=
  Apart lexemes ∧ ∀ first ∈ lexemes.head?, first.isPunctuation

/-- Punctuation in front of tokens that are apart guards them. -/
theorem Apart.guarded_cons {lexemes : List Lexeme} (apart : Apart lexemes) (mark : Lexeme)
    (punctuation : mark.isPunctuation) : Guarded (mark :: lexemes) :=
  ⟨List.IsChain.cons apart fun _ _ => .inl punctuation, by simpa using punctuation⟩

/-- Any token may stand before guarded ones. -/
theorem Guarded.apart_cons {lexemes : List Lexeme} (guarded : Guarded lexemes) (lexeme : Lexeme) :
    Apart (lexeme :: lexemes) :=
  List.IsChain.cons guarded.1 fun first h => .inr (guarded.2 first h)

namespace Written

mutual

/-- The tokens of a value are apart from each other and from guarded ones behind them. -/
theorem apart_lexemes : (written : Written) → {rest : List Lexeme} → Guarded rest →
    Apart (written.lexemes ++ rest)
  | null, _, guarded => guarded.apart_cons .null
  | flag value, _, guarded => guarded.apart_cons (.flag value)
  | number written, _, guarded => guarded.apart_cons (.number written)
  | text glyphs, _, guarded => guarded.apart_cons (.text glyphs)
  | list [], _, guarded =>
    ((guarded.1.guarded_cons .listClose rfl).1.guarded_cons .listOpen rfl).1
  | list (item :: items), _, guarded => by
    have tail := guarded_items items (guarded.1.guarded_cons .listClose rfl)
    have body := apart_lexemes item tail
    simpa [lexemes, itemLexemes, Lexeme.separated] using
      (body.guarded_cons .listOpen rfl).1
  | record [], _, guarded =>
    ((guarded.1.guarded_cons .recordClose rfl).1.guarded_cons .recordOpen rfl).1
  | record ((key, value) :: members), _, guarded => by
    have tail := guarded_members members (guarded.1.guarded_cons .recordClose rfl)
    have body := apart_lexemes value tail
    have named := (body.guarded_cons .colon rfl).apart_cons (.text key)
    simpa [lexemes, memberLexemes, Lexeme.separated] using
      (named.guarded_cons .recordOpen rfl).1

/-- Further items are guarded by the comma before each of them. -/
theorem guarded_items : (items : List Written) → {rest : List Lexeme} → Guarded rest →
    Guarded ((itemLexemes items).flatMap (Lexeme.comma :: ·) ++ rest)
  | [], _, guarded => guarded
  | item :: items, _, guarded => by
    have body := apart_lexemes item (guarded_items items guarded)
    simpa [itemLexemes] using body.guarded_cons .comma rfl

/-- Further members are guarded by the comma before each of them. -/
theorem guarded_members : (members : List (List Glyph × Written)) → {rest : List Lexeme} →
    Guarded rest → Guarded ((memberLexemes members).flatMap (Lexeme.comma :: ·) ++ rest)
  | [], _, guarded => guarded
  | (key, value) :: members, _, guarded => by
    have body := apart_lexemes value (guarded_members members guarded)
    have named := (body.guarded_cons .colon rfl).apart_cons (.text key)
    simpa [memberLexemes] using named.guarded_cons .comma rfl

end

end Written

/-! ## Scanning -/

/-- What may follow a token that is no punctuation stops a number. -/
theorem Laid.numberStops {lexemes : List Lexeme} {cs : List Char} (laid : Laid lexemes cs)
    (punctuation : ∀ first ∈ lexemes.head?, first.isPunctuation) : NumberStops cs := by
  have blank {c : Char} (h : Token.isBlank c) :
      c.isDigit = false ∧ c ≠ '.' ∧ c ≠ 'e' ∧ c ≠ 'E' := by
    simp only [Token.isBlank, Bool.or_eq_true, beq_iff_eq] at h
    rcases h with ((rfl | rfl) | rfl) | rfl <;> decide
  intro c hc
  cases laid with
  | ending allowed => exact blank (allowed c (List.mem_of_mem_head? hc))
  | @token lexeme lexemes blanks rest allowed more =>
    cases blanks with
    | cons b blanks =>
      obtain rfl : b = c := by simpa using hc
      exact blank (allowed b (by simp))
    | nil =>
      have mark := punctuation lexeme (by simp)
      cases lexeme <;> simp [Lexeme.isPunctuation] at mark <;>
        (obtain rfl : _ = c := by simpa [Lexeme.chars] using hc) <;> decide

namespace Token

/-- A word is read as the leaf that it stands for. -/
theorem scanWord_append (word : String) (leaf : Leaf) (place : Text.Place) (rest : List Char) :
    ∃ past, scanWord word leaf place (word.toList ++ rest) = (leaf, past, rest) := by
  obtain ⟨past, hpast⟩ := scanLetters_append word.toList rest place
  exact ⟨past, by simp only [scanWord, hpast]⟩

/-- A number begins with a minus sign or a digit. -/
theorem number_head (number : WrittenNumber) :
    ∃ c cs, number.chars = c :: cs ∧ (c = '-' ∨ c.isDigit) := by
  unfold WrittenNumber.chars WrittenNumber.signChars
  cases number.negative with
  | true => exact ⟨'-', _, rfl, .inl rfl⟩
  | false =>
    cases h : number.whole.chars with
    | nil => exact absurd h number.whole.nonempty
    | cons c cs => exact ⟨c, _, rfl, .inr (number.whole.digits c (by simp [h]))⟩

/-- A token that is no punctuation is read as a leaf without a fault, and nothing behind it is
taken. -/
theorem scanLeaf?_append {lexeme : Lexeme} (leaf : ¬ lexeme.isPunctuation) {rest : List Char}
    (stop : NumberStops rest) (place : Text.Place) :
    ∃ value past, scanLeaf? place (lexeme.chars ++ rest) = some (value, past, rest) ∧
      value.form? = none ∧ ∀ before after, lexeme.Reads ⟨before, .leaf value, after⟩ := by
  cases lexeme with
  | listOpen | listClose | recordOpen | recordClose | comma | colon => exact absurd rfl leaf
  | null =>
    obtain ⟨past, hpast⟩ := scanWord_append "null" .null place rest
    exact ⟨.null, past, congrArg some hpast, rfl, fun _ _ => rfl⟩
  | flag value =>
    cases value with
    | true =>
      obtain ⟨past, hpast⟩ := scanWord_append "true" (.flag true) place rest
      exact ⟨.flag true, past, congrArg some hpast, rfl, fun _ _ => rfl⟩
    | false =>
      obtain ⟨past, hpast⟩ := scanWord_append "false" (.flag false) place rest
      exact ⟨.flag false, past, congrArg some hpast, rfl, fun _ _ => rfl⟩
  | number written =>
    obtain ⟨past, hpast⟩ := Numeral.scan_append written stop place
    obtain ⟨c, cs, hcs, first⟩ := number_head written
    have others : c ≠ '"' ∧ c ≠ 'n' ∧ c ≠ 't' ∧ c ≠ 'f' := by
      rcases first with rfl | digit
      · decide
      · refine ⟨?_, ?_, ?_, ?_⟩ <;> rintro rfl <;> exact absurd digit (by decide)
    obtain ⟨quote, null, true, false⟩ := others
    refine ⟨.number (written.numeral.value past) none, past, ?_, rfl,
      fun _ _ => ⟨_, rfl, countOf_value written past⟩⟩
    rw [hcs] at hpast
    simp only [List.cons_append] at hpast
    simp [Lexeme.chars, hcs, scanLeaf?, quote, null, true, false, first, scanNumber, hpast]
  | text glyphs =>
    obtain ⟨pieces, past, hscan, same⟩ := Quotation.scan_append glyphs (place.after '"') rest
    refine ⟨.text (Quotation.text ⟨pieces, .ok past⟩) none, past, ?_, rfl,
      fun _ _ => ⟨_, rfl, Quotation.text_toOption same⟩⟩
    simp [Lexeme.chars, scanLeaf?, scanText, hscan, Quotation.fault?]

/-- Punctuation is one character, which the scanner knows. -/
theorem punctuation?_chars {lexeme : Lexeme} (punctuation : lexeme.isPunctuation) :
    ∃ c sign, lexeme.chars = [c] ∧ punctuation? c = some sign ∧
      ∀ before after, lexeme.Reads ⟨before, sign, after⟩ := by
  cases lexeme with
  | listOpen | listClose | recordOpen | recordClose | comma | colon =>
    exact ⟨_, _, rfl, rfl, fun _ _ => rfl⟩
  | null | flag | number | text => exact absurd punctuation (by simp [Lexeme.isPunctuation])

/-- A token begins with a character that is no blank, and with a mark of punctuation only if it is
one. -/
theorem chars_head (lexeme : Lexeme) :
    ∃ c cs, lexeme.chars = c :: cs ∧ isBlank c = false ∧
      (¬ lexeme.isPunctuation → punctuation? c = none) := by
  cases lexeme with
  | listOpen | listClose | recordOpen | recordClose | comma | colon =>
    exact ⟨_, _, rfl, by decide, fun h => absurd rfl h⟩
  | null | text => exact ⟨_, _, rfl, by decide, fun _ => rfl⟩
  | flag value => cases value <;> exact ⟨_, _, rfl, by decide, fun _ => rfl⟩
  | number written =>
    obtain ⟨c, cs, hcs, first⟩ := number_head written
    refine ⟨c, cs, hcs, ?_, fun _ => ?_⟩
    · rcases first with rfl | digit
      · decide
      · by_contra h
        simp only [isBlank, Bool.not_eq_false, Bool.or_eq_true, beq_iff_eq] at h
        rcases h with ((rfl | rfl) | rfl) | rfl <;> exact absurd digit (by decide)
    · rcases first with rfl | digit
      · rfl
      · unfold punctuation?
        split <;> first | rfl | exact absurd digit (by decide)

/-- The tokens of a layout are the tokens laid out, one by one, and then the end of the text. -/
theorem scanUpTo_laid {lexemes : List Lexeme} {cs : List Char} (laid : Laid lexemes cs)
    (apart : Apart lexemes) (fuel : Nat) (enough : cs.length < fuel) (place : Text.Place) :
    ∃ tokens last, scanUpTo fuel place cs = tokens ++ [last] ∧ last.sign = .ending ∧
      List.Forall₂ Lexeme.Reads lexemes tokens := by
  induction laid generalizing fuel place with
  | @ending blanks allowed =>
    obtain ⟨fuel, rfl⟩ : ∃ n, fuel = n + 1 := ⟨fuel - 1, by omega⟩
    have blank : blanks.dropWhile isBlank = [] := List.dropWhile_eq_nil_iff.mpr allowed
    let past := place.afterAll (blanks.takeWhile isBlank)
    refine ⟨[], ⟨past, .ending, past⟩, ?_, rfl, .nil⟩
    simp only [scanUpTo, blank]
    rfl
  | @token lexeme lexemes blanks rest allowed more ih =>
    obtain ⟨fuel, rfl⟩ : ∃ n, fuel = n + 1 := ⟨fuel - 1, by omega⟩
    obtain ⟨c, cs, hcs, visible, plain⟩ := chars_head lexeme
    have shorter : rest.length < fuel := by
      simp only [hcs, List.length_append, List.length_cons] at enough
      omega
    obtain ⟨follows, apart⟩ := List.isChain_cons.mp apart
    have take : (blanks ++ (lexeme.chars ++ rest)).takeWhile isBlank = blanks := by
      rw [List.takeWhile_append_of_pos allowed]
      simp [hcs, visible]
    have drop : (blanks ++ (lexeme.chars ++ rest)).dropWhile isBlank = lexeme.chars ++ rest := by
      rw [List.dropWhile_append_of_pos allowed]
      simp [hcs, visible]
    -- Anything may follow punctuation. Any other token is followed by punctuation, or by blanks or
    -- the end of the text, all of which stop a number.
    by_cases punctuation : lexeme.isPunctuation
    · obtain ⟨d, sign, hd, hsign, reads⟩ := punctuation?_chars punctuation
      obtain ⟨tokens, last, hscan, hlast, all⟩ :=
        ih apart fuel shorter ((place.afterAll blanks).after d)
      refine ⟨⟨place.afterAll blanks, sign, (place.afterAll blanks).after d⟩ :: tokens, last, ?_,
        hlast, .cons (reads _ _) all⟩
      simp only [scanUpTo, take, drop]
      simp only [hd, List.cons_append, List.nil_append, hsign, hscan]
    · have stop : NumberStops rest := more.numberStops fun first h =>
        (follows first h).resolve_left punctuation
      obtain ⟨value, past, hleaf, noFault, reads⟩ :=
        scanLeaf?_append punctuation stop (place.afterAll blanks)
      obtain ⟨tokens, last, hscan, hlast, all⟩ := ih apart fuel shorter past
      refine ⟨⟨place.afterAll blanks, .leaf value, past⟩ :: tokens, last, ?_, hlast,
        .cons (reads _ _) all⟩
      rw [hcs, List.cons_append] at hleaf
      simp only [scanUpTo, take, drop]
      simp only [hcs, List.cons_append, plain punctuation, hleaf, noFault, hscan]
      rfl

end Token

/-! ## Building -/

mutual

/-- Says that a node is what a written value is read as. -/
def Holds : Written → Node → Prop
  | .null, node => ∃ before after, node = .leaf .null before after
  | .flag value, node => ∃ before after, node = .leaf (.flag value) before after
  | .number written, node =>
    ∃ value before after, node = .leaf (.number value none) before after ∧
      countOf value = written.count?
  | .text glyphs, node =>
    ∃ value before after, node = .leaf (.text value none) before after ∧
      value.toOption = Glyph.text? glyphs
  | .list items, node =>
    ∃ start nodes after, node = .list start nodes (.closed after) ∧ HoldItems items nodes
  | .record members, node =>
    ∃ start nodes after, node = .record start nodes (.closed after) ∧ HoldMembers members nodes

/-- Says that nodes are what the items of a list are read as. -/
def HoldItems : List Written → List Node → Prop
  | [], nodes => nodes = []
  | item :: items, nodes =>
    ∃ node others, nodes = node :: others ∧ Holds item node ∧ HoldItems items others

/-- Says that keys and nodes are what the members of a record are read as. -/
def HoldMembers : List (List Glyph × Written) → List (Key × Node) → Prop
  | [], nodes => nodes = []
  | (glyphs, value) :: members, nodes =>
    ∃ key node others, nodes = (key, node) :: others ∧
      (key.text.toOption = Glyph.text? glyphs ∧ key.form = none ∧ Holds value node) ∧
      HoldMembers members others

end

/-- The nodes of a list are what its items are read as, one by one. -/
theorem holdItems_iff {items : List Written} {nodes : List Node} :
    HoldItems items nodes ↔ List.Forall₂ Holds items nodes := by
  induction items generalizing nodes with
  | nil => simp [HoldItems]
  | cons item items ih =>
    simp only [HoldItems, List.forall₂_cons_left_iff, ih]
    constructor
    · rintro ⟨node, others, rfl, holds, hold⟩
      exact ⟨node, others, holds, hold, rfl⟩
    · rintro ⟨node, others, holds, hold, rfl⟩
      exact ⟨node, others, rfl, holds, hold⟩

/-- Says that a key and a node are what a member of a record is read as. -/
def HoldsMember (member : List Glyph × Written) (read : Key × Node) : Prop :=
  read.1.text.toOption = Glyph.text? member.1 ∧ read.1.form = none ∧ Holds member.2 read.2

/-- The keys and nodes of a record are what its members are read as, one by one. -/
theorem holdMembers_iff {members : List (List Glyph × Written)} {nodes : List (Key × Node)} :
    HoldMembers members nodes ↔ List.Forall₂ HoldsMember members nodes := by
  induction members generalizing nodes with
  | nil => simp [HoldMembers]
  | cons member members ih =>
    simp only [HoldMembers, List.forall₂_cons_left_iff, ih]
    constructor
    · rintro ⟨key, node, others, rfl, holds, hold⟩
      exact ⟨(key, node), others, holds, hold, rfl⟩
    · rintro ⟨⟨key, node⟩, others, holds, hold, rfl⟩
      exact ⟨key, node, others, rfl, holds, hold⟩

/-- A node is what a written value is read as in one of six ways. -/
@[elab_as_elim]
theorem Holds.kinds {motive : (written : Written) → (node : Node) → Holds written node → Prop}
    (null : ∀ before after, motive .null (.leaf .null before after) ⟨before, after, rfl⟩)
    (flag : ∀ value before after,
      motive (.flag value) (.leaf (.flag value) before after) ⟨before, after, rfl⟩)
    (number : ∀ written value before after (same : countOf value = written.count?),
      motive (.number written) (.leaf (.number value none) before after)
        ⟨value, before, after, rfl, same⟩)
    (text : ∀ glyphs value before after (same : value.toOption = Glyph.text? glyphs),
      motive (.text glyphs) (.leaf (.text value none) before after)
        ⟨value, before, after, rfl, same⟩)
    (list : ∀ items start nodes after (hold : List.Forall₂ Holds items nodes),
      motive (.list items) (.list start nodes (.closed after))
        ⟨start, nodes, after, rfl, holdItems_iff.mpr hold⟩)
    (record : ∀ members start nodes after (hold : List.Forall₂ HoldsMember members nodes),
      motive (.record members) (.record start nodes (.closed after))
        ⟨start, nodes, after, rfl, holdMembers_iff.mpr hold⟩)
    (written : Written) (node : Node) (holds : Holds written node) :
    motive written node holds := by
  cases written with
  | null =>
    obtain ⟨before, after, rfl⟩ := holds
    exact null before after
  | flag value =>
    obtain ⟨before, after, rfl⟩ := holds
    exact flag value before after
  | number written =>
    obtain ⟨value, before, after, rfl, same⟩ := holds
    exact number written value before after same
  | text glyphs =>
    obtain ⟨value, before, after, rfl, same⟩ := holds
    exact text glyphs value before after same
  | list items =>
    obtain ⟨start, nodes, after, rfl, hold⟩ := holds
    exact list items start nodes after (holdItems_iff.mp hold)
  | record members =>
    obtain ⟨start, nodes, after, rfl, hold⟩ := holds
    exact record members start nodes after (holdMembers_iff.mp hold)

/-- Tokens of two rows of written ones are two rows of tokens. -/
theorem reads_append {first second : List Lexeme} {tokens : List Token}
    (reads : List.Forall₂ Lexeme.Reads (first ++ second) tokens) :
    ∃ before behind, tokens = before ++ behind ∧ List.Forall₂ Lexeme.Reads first before ∧
      List.Forall₂ Lexeme.Reads second behind := by
  induction first generalizing tokens with
  | nil => exact ⟨[], tokens, rfl, .nil, reads⟩
  | cons lexeme first ih =>
    cases reads with
    | cons head tail =>
      obtain ⟨before, behind, rfl, hfirst, hsecond⟩ := ih tail
      exact ⟨_ :: before, behind, rfl, .cons head hfirst, hsecond⟩

/-- One written token is read as one token. -/
theorem reads_single {lexeme : Lexeme} {tokens : List Token}
    (reads : List.Forall₂ Lexeme.Reads [lexeme] tokens) :
    ∃ token, tokens = [token] ∧ lexeme.Reads token := by
  obtain ⟨token, _, head, tail, rfl⟩ := List.forall₂_cons_left_iff.mp reads
  obtain rfl := List.forall₂_nil_left_iff.mp tail
  exact ⟨token, rfl, head⟩

namespace Node

/-- A value begins with a token that is neither punctuation nor a closing bracket nor the end of
the text. -/
theorem begins {written : Written} {first : Token} {more : List Token}
    (reads : List.Forall₂ Lexeme.Reads written.lexemes (first :: more)) :
    first.sign = .listOpen ∨ first.sign = .recordOpen ∨ ∃ leaf, first.sign = .leaf leaf := by
  cases written with
  | null | flag =>
    cases reads with
    | cons head _ => exact .inr (.inr ⟨_, head⟩)
  | number | text =>
    cases reads with
    | cons head _ =>
      obtain ⟨value, sign, -⟩ := head
      exact .inr (.inr ⟨_, sign⟩)
  | list =>
    cases reads with
    | cons head _ => exact .inl head
  | record =>
    cases reads with
    | cons head _ => exact .inr (.inl head)

/-- A value inside a list that goes on is built as one where a value is due. -/
theorem build_item {written : Written} {tokens : List Token}
    (reads : List.Forall₂ Lexeme.Reads written.lexemes tokens) (start : Text.Place)
    (items : List Node) (frames : List Frame) {stage : Stage} (due : stage ≠ .afterItem)
    (more : List Token) :
    build (.under (.list start items :: frames) (.rest stage)) (tokens ++ more) =
      build (.under (.list start items :: frames) .value) (tokens ++ more) := by
  cases tokens with
  | nil => cases written <;> simp [Written.lexemes] at reads
  | cons first tokens =>
    cases stage with
    | afterItem => exact absurd rfl due
    | fresh | afterComma =>
      rcases begins reads with sign | sign | ⟨leaf, sign⟩ <;>
        simp [build, take, takeRest, takeInList, sign]

/-- An opening bracket where a value is due begins a list. -/
theorem build_listOpen {token : Token} (sign : token.sign = .listOpen) (frames : List Frame)
    (more : List Token) :
    build (.under frames .value) (token :: more) =
      build (.under (.list token.before [] :: frames) (.rest .fresh)) more := by
  simp [build, take, takeValue, sign]

/-- An opening brace where a value is due begins a record. -/
theorem build_recordOpen {token : Token} (sign : token.sign = .recordOpen) (frames : List Frame)
    (more : List Token) :
    build (.under frames .value) (token :: more) =
      build (.under (.record token.before [] :: frames) (.rest .fresh)) more := by
  simp [build, take, takeValue, sign]

/-- A closing bracket behind an item, or behind none, completes a list. -/
theorem build_listClose {token : Token} (sign : token.sign = .listClose) {stage : Stage}
    (due : stage = .fresh ∨ stage = .afterItem) (start : Text.Place) (items : List Node)
    (frames : List Frame) (more : List Token) :
    build (.under (.list start items :: frames) (.rest stage)) (token :: more) =
      build (put (.list start items.reverse (.closed token.after)) frames) more := by
  rcases due with rfl | rfl <;>
    simp [build, take, takeRest, takeInList, sign, closeList]

/-- A closing bracket behind a member, or behind none, completes a record. -/
theorem build_recordClose {token : Token} (sign : token.sign = .recordClose) {stage : Stage}
    (due : stage = .fresh ∨ stage = .afterItem) (start : Text.Place) (members : List (Key × Node))
    (frames : List Frame) (more : List Token) :
    build (.under (.record start members :: frames) (.rest stage)) (token :: more) =
      build (put (.record start members.reverse (.closed token.after)) frames) more := by
  rcases due with rfl | rfl <;>
    simp [build, take, takeRest, takeInRecord, sign, closeRecord]

/-- A key and its colon leave the value of the key due. -/
theorem build_key {glyphs : List Glyph} {name colon : Token}
    (hname : (Lexeme.text glyphs).Reads name) (hcolon : Lexeme.colon.Reads colon) (stage : Stage)
    (due : stage ≠ .afterItem) :
    ∃ key : Key, (key.text.toOption = Glyph.text? glyphs ∧ key.form = none) ∧
      ∀ start members frames more,
        build (.under (.record start members :: frames) (.rest stage)) (name :: colon :: more) =
          build (.under (.member start members key :: frames) .value) more := by
  obtain ⟨value, sign, htext⟩ := hname
  have hsign : colon.sign = .colon := hcolon
  cases stage with
  | afterItem => exact absurd rfl due
  | fresh =>
    refine ⟨⟨value, none, name.before, name.after, colon.before⟩, ⟨htext, rfl⟩, ?_⟩
    intro start members frames more
    simp [build, take, takeRest, takeInRecord, key?, sign, takeColon, follow, hsign]
  | afterComma comma =>
    refine ⟨⟨value, none, comma, name.after, colon.before⟩, ⟨htext, rfl⟩, ?_⟩
    intro start members frames more
    simp [build, take, takeRest, takeInRecord, key?, sign, takeColon, follow, hsign]

/-- The tokens of a member put a key and a node into a record that goes on, provided that those of
its value put a node where a value is due. -/
theorem build_member {glyphs : List Glyph} {value : Written} {tokens : List Token}
    (reads : List.Forall₂ Lexeme.Reads (.text glyphs :: .colon :: value.lexemes) tokens)
    (builds : ∀ {tokens : List Token}, List.Forall₂ Lexeme.Reads value.lexemes tokens →
      ∃ node, Holds value node ∧ ∀ frames more,
        build (.under frames .value) (tokens ++ more) = build (put node frames) more)
    (stage : Stage) (due : stage ≠ .afterItem) :
    ∃ key node, (key.text.toOption = Glyph.text? glyphs ∧ key.form = none ∧ Holds value node) ∧
      ∀ start members frames more,
        build (.under (.record start members :: frames) (.rest stage)) (tokens ++ more) =
          build (.under (.record start ((key, node) :: members) :: frames) (.rest .afterItem))
            more := by
  obtain ⟨name, _, hname, behind, rfl⟩ := List.forall₂_cons_left_iff.mp reads
  obtain ⟨colon, inner, hcolon, hinner, rfl⟩ := List.forall₂_cons_left_iff.mp behind
  obtain ⟨key, ⟨htext, hform⟩, hkey⟩ := build_key hname hcolon stage due
  obtain ⟨node, holds, hbuild⟩ := builds hinner
  refine ⟨key, node, ⟨htext, hform, holds⟩, fun start members frames more => ?_⟩
  rw [List.cons_append, List.cons_append, hkey, hbuild, put]

/-- A comma behind an item leaves the next item due. -/
theorem build_comma {token : Token} (sign : token.sign = .comma) (start : Text.Place)
    (items : List Node) (frames : List Frame) (more : List Token) :
    build (.under (.list start items :: frames) (.rest .afterItem)) (token :: more) =
      build (.under (.list start items :: frames) (.rest (.afterComma token.before))) more := by
  simp [build, take, takeRest, takeInList, sign]

/-- A comma behind a member leaves the next member due. -/
theorem build_memberComma {token : Token} (sign : token.sign = .comma) (start : Text.Place)
    (members : List (Key × Node)) (frames : List Frame) (more : List Token) :
    build (.under (.record start members :: frames) (.rest .afterItem)) (token :: more) =
      build (.under (.record start members :: frames) (.rest (.afterComma token.before))) more := by
  simp [build, take, takeRest, takeInRecord, sign]

-- The frames and the tokens behind are arbitrary throughout, so that the node of a part is built
-- alike wherever the part stands.
mutual

/-- The tokens of a value put a node for it where a value is due. -/
theorem build_value : (written : Written) → {tokens : List Token} →
    List.Forall₂ Lexeme.Reads written.lexemes tokens →
    ∃ node, Holds written node ∧ ∀ frames more,
      build (.under frames .value) (tokens ++ more) = build (put node frames) more
  | .null, _, reads => by
    obtain ⟨token, rfl, sign⟩ := reads_single reads
    refine ⟨.leaf .null token.before token.after, ⟨_, _, rfl⟩, fun frames more => ?_⟩
    have sign : token.sign = .leaf .null := sign
    simp [build, take, takeValue, sign]
  | .flag value, _, reads => by
    obtain ⟨token, rfl, sign⟩ := reads_single reads
    refine ⟨.leaf (.flag value) token.before token.after, ⟨_, _, rfl⟩, fun frames more => ?_⟩
    have sign : token.sign = .leaf (.flag value) := sign
    simp [build, take, takeValue, sign]
  | .number written, _, reads => by
    obtain ⟨token, rfl, value, sign, same⟩ := reads_single reads
    refine ⟨.leaf (.number value none) token.before token.after, ⟨_, _, _, rfl, same⟩,
      fun frames more => ?_⟩
    simp [build, take, takeValue, sign]
  | .text glyphs, _, reads => by
    obtain ⟨token, rfl, value, sign, same⟩ := reads_single reads
    refine ⟨.leaf (.text value none) token.before token.after, ⟨_, _, _, rfl, same⟩,
      fun frames more => ?_⟩
    simp [build, take, takeValue, sign]
  | .list items, _, reads => by
    obtain ⟨opening, _, hopen, body, rfl⟩ := List.forall₂_cons_left_iff.mp reads
    obtain ⟨inner, _, rfl, hinner, behind⟩ := reads_append body
    obtain ⟨closing, rfl, hclose⟩ := reads_single behind
    -- An empty list is closed at once; any other goes on with a comma before each further item.
    cases items with
    | nil =>
      obtain rfl := List.forall₂_nil_left_iff.mp hinner
      refine ⟨.list opening.before [] (.closed closing.after), ⟨_, _, _, rfl, rfl⟩,
        fun frames more => ?_⟩
      rw [List.nil_append, List.cons_append, build_listOpen hopen]
      exact build_listClose hclose (.inl rfl) opening.before [] frames more
    | cons item items =>
      obtain ⟨first, others, rfl, hfirst, hothers⟩ := reads_append hinner
      obtain ⟨node, holds, hbuild⟩ := build_value item hfirst
      obtain ⟨nodes, hold, hbuilds⟩ := build_items items hothers
      refine ⟨.list opening.before (node :: nodes) (.closed closing.after),
        ⟨_, _, _, rfl, _, _, rfl, holds, hold⟩, fun frames more => ?_⟩
      rw [List.cons_append, build_listOpen hopen, List.append_assoc, List.append_assoc,
        build_item hfirst opening.before [] frames (by simp), hbuild, put, hbuilds]
      simpa using build_listClose hclose (.inr rfl) opening.before (nodes.reverse ++ [node])
        frames more
  | .record members, _, reads => by
    obtain ⟨opening, _, hopen, body, rfl⟩ := List.forall₂_cons_left_iff.mp reads
    obtain ⟨inner, _, rfl, hinner, behind⟩ := reads_append body
    obtain ⟨closing, rfl, hclose⟩ := reads_single behind
    match members with
    | [] =>
      obtain rfl := List.forall₂_nil_left_iff.mp hinner
      refine ⟨.record opening.before [] (.closed closing.after), ⟨_, _, _, rfl, rfl⟩,
        fun frames more => ?_⟩
      rw [List.nil_append, List.cons_append, build_recordOpen hopen]
      exact build_recordClose hclose (.inl rfl) opening.before [] frames more
    | (glyphs, value) :: members =>
      obtain ⟨first, others, rfl, hfirst, hothers⟩ := reads_append hinner
      obtain ⟨key, node, holds, hbuild⟩ :=
        build_member hfirst (build_value value) .fresh (by simp)
      obtain ⟨nodes, hold, hbuilds⟩ := build_members members hothers
      refine ⟨.record opening.before ((key, node) :: nodes) (.closed closing.after),
        ⟨_, _, _, rfl, _, _, _, rfl, holds, hold⟩, fun frames more => ?_⟩
      rw [List.cons_append, build_recordOpen hopen, List.append_assoc, List.append_assoc, hbuild,
        hbuilds]
      simpa using build_recordClose hclose (.inr rfl) opening.before
        (nodes.reverse ++ [(key, node)]) frames more

/-- The tokens of further items put a node for each of them into a list. -/
theorem build_items : (items : List Written) → {tokens : List Token} →
    List.Forall₂ Lexeme.Reads ((Written.itemLexemes items).flatMap (Lexeme.comma :: ·)) tokens →
    ∃ nodes, HoldItems items nodes ∧ ∀ start done frames more,
      build (.under (.list start done :: frames) (.rest .afterItem)) (tokens ++ more) =
        build (.under (.list start (nodes.reverse ++ done) :: frames) (.rest .afterItem)) more
  | [], _, reads => by
    obtain rfl := List.forall₂_nil_left_iff.mp reads
    exact ⟨[], rfl, fun _ _ _ _ => rfl⟩
  | item :: items, _, reads => by
    obtain ⟨comma, _, hcomma, body, rfl⟩ := List.forall₂_cons_left_iff.mp reads
    obtain ⟨first, others, rfl, hfirst, hothers⟩ := reads_append body
    obtain ⟨node, holds, hbuild⟩ := build_value item hfirst
    obtain ⟨nodes, hold, hbuilds⟩ := build_items items hothers
    refine ⟨node :: nodes, ⟨_, _, rfl, holds, hold⟩, fun start done frames more => ?_⟩
    rw [List.cons_append, build_comma hcomma, List.append_assoc,
      build_item hfirst start done frames (by simp), hbuild, put, hbuilds]
    simp

/-- The tokens of further members put a node for each of them into a record. -/
theorem build_members : (members : List (List Glyph × Written)) → {tokens : List Token} →
    List.Forall₂ Lexeme.Reads ((Written.memberLexemes members).flatMap (Lexeme.comma :: ·)) tokens →
    ∃ nodes, HoldMembers members nodes ∧ ∀ start done frames more,
      build (.under (.record start done :: frames) (.rest .afterItem)) (tokens ++ more) =
        build (.under (.record start (nodes.reverse ++ done) :: frames) (.rest .afterItem)) more
  | [], _, reads => by
    obtain rfl := List.forall₂_nil_left_iff.mp reads
    exact ⟨[], rfl, fun _ _ _ _ => rfl⟩
  | (glyphs, value) :: members, _, reads => by
    obtain ⟨comma, _, hcomma, body, rfl⟩ := List.forall₂_cons_left_iff.mp reads
    obtain ⟨first, others, rfl, hfirst, hothers⟩ := reads_append body
    obtain ⟨key, node, holds, hbuild⟩ :=
      build_member hfirst (build_value value) (.afterComma comma.before) (by simp)
    obtain ⟨nodes, hold, hbuilds⟩ := build_members members hothers
    refine ⟨(key, node) :: nodes, ⟨_, _, _, rfl, holds, hold⟩, fun start done frames more => ?_⟩
    rw [List.cons_append, build_memberComma hcomma, List.append_assoc, hbuild, hbuilds]
    simp

end

end Node

/-- The document of a layout of a value: its root is the value, and nothing follows it. -/
theorem document_of_layout {written : Written} {text : String}
    (laid : Laid written.lexemes text.toList) :
    (Document.ofText text).surplus = none ∧ Holds written (Document.ofText text).root := by
  have apart : Apart written.lexemes := by
    simpa using @Written.apart_lexemes written [] ⟨.nil, by simp⟩
  obtain ⟨tokens, last, hscan, hlast, reads⟩ :=
    Token.scanUpTo_laid laid apart (text.toList.length + 1) (Nat.lt_succ_self _) .start
  obtain ⟨node, holds, hbuild⟩ := Node.build_value written reads
  have document : Document.ofText text = ⟨node, none⟩ := by
    rw [Document.ofText, Document.ofTokens, Token.scan, hscan, hbuild]
    simp [Node.put, Node.build, Node.surplus?, hlast]
  rw [document]
  exact ⟨rfl, holds⟩

end SchemaPress.Json
