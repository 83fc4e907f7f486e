import SchemaPress.Export
import SchemaPress.Proofs.Json.PlainReading
import SchemaPress.Proofs.Json.Printing
import SchemaPress.Proofs.Text.Trimming
import SchemaPress.Settings.Reading

/-!
# Names of formats

Each reader of format names finds a format exactly if the name, put into the form that the reader
compares, is among some names of the format. These forms are the name itself, the name in small
letters and the name in small letters without the blanks around it, and the names that are allowed
get more from reader to reader. Since all of them are small and have no blanks around them, what one
reader reads as a format every later one reads as the same format (`ofChoice?_of_ofWord?` and the
two behind it).

The last reader knows eight names, in any case of ASCII letters and with blanks around them
(`ofName?_eq_some_iff`). A name that is none of these is given back as it is.
-/

set_option autoImplicit false

namespace SchemaPress.Format

open Text

/-! ## One format for each name -/

/-- Every format is listed. -/
theorem mem_all (format : Format) : format ∈ all := by
  cases format <;> decide

/-- No name belongs to two formats. -/
theorem eq_of_mem_names {format other : Format} {name : String} (mem : name ∈ format.names)
    (mem' : name ∈ other.names) : format = other := by
  have apart : ∀ first ∈ all, ∀ second ∈ all, ∀ name ∈ first.names, name ∈ second.names →
      first = second := by decide
  exact apart format (mem_all format) other (mem_all other) name mem mem'

/-- The word of a format is one of its choices. -/
theorem word_mem_choices (format : Format) : format.word ∈ format.choices := by
  cases format <;> decide

/-- The choices of a format are names of it. -/
theorem choices_subset_names (format : Format) : format.choices ⊆ format.names := by
  cases format <;> decide

/-- The search for a format finds the only one of which a condition holds. -/
theorem find?_all_eq_some_iff {holds : Format → Bool}
    (single : ∀ first second, holds first = true → holds second = true → first = second)
    {format : Format} : all.find? holds = some format ↔ holds format = true := by
  constructor
  · exact List.find?_some
  · intro here
    have some : (all.find? holds).isSome = true := by
      rw [List.find?_isSome]
      exact ⟨format, mem_all format, here⟩
    obtain ⟨found, found?⟩ := Option.isSome_iff_exists.mp some
    rw [found?, single found format (List.find?_some found?) here]

/-! ## What each reader finds -/

/-- A word is that of the format that it is read as. -/
theorem ofWord?_eq_some_iff {word : String} {format : Format} :
    ofWord? word = some format ↔ format.word = word := by
  have named (format : Format) : format.word ∈ format.names :=
    choices_subset_names format (word_mem_choices format)
  rw [ofWord?, find?_all_eq_some_iff, beq_iff_eq]
  intro first second same same'
  rw [beq_iff_eq] at same same'
  have shared : first.word ∈ second.names := by
    rw [same, ← same']
    exact named second
  exact eq_of_mem_names (named first) shared

/-- A choice is read as the format that has it. -/
theorem ofChoice?_eq_some_iff {choice : String} {format : Format} :
    ofChoice? choice = some format ↔ choice ∈ format.choices := by
  rw [ofChoice?, find?_all_eq_some_iff, List.contains_iff_mem]
  intro first second mem mem'
  rw [List.contains_iff_mem] at mem mem'
  exact eq_of_mem_names (choices_subset_names first mem) (choices_subset_names second mem')

/-- So it is in any case of its letters. -/
theorem ofChoiceAnyCase?_eq_some_iff {choice : String} {format : Format} :
    ofChoiceAnyCase? choice = some format ↔ lowered choice.toList ∈ format.choices :=
  ofChoice?_eq_some_iff

/-- A name is read in any case and with blanks around it. -/
theorem ofName?_eq_some_iff_mem {name : String} {format : Format} :
    ofName? name = some format ↔ lowered (trim name.toList) ∈ format.names := by
  simp only [ofName?]
  rw [find?_all_eq_some_iff, List.contains_iff_mem]
  intro first second mem mem'
  rw [List.contains_iff_mem] at mem mem'
  exact eq_of_mem_names mem mem'

/-! ## From reader to reader -/

/-- The names of the formats are small and have no blanks around them. -/
theorem small_of_mem_names {format : Format} {name : String} (mem : name ∈ format.names) :
    name.toList.map Char.toLower = name.toList ∧ trim name.toList = name.toList := by
  have small : ∀ format ∈ all, ∀ name ∈ format.names,
      name.toList.map Char.toLower = name.toList ∧ trim name.toList = name.toList := by decide
  exact small format (mem_all format) name mem

/-- What is read as a word is read as a choice. -/
theorem ofChoice?_of_ofWord? {name : String} {format : Format}
    (read : ofWord? name = some format) : ofChoice? name = some format := by
  rw [ofChoice?_eq_some_iff, ← ofWord?_eq_some_iff.mp read]
  exact word_mem_choices format

/-- What is read as a choice is read as one in any case. -/
theorem ofChoiceAnyCase?_of_ofChoice? {name : String} {format : Format}
    (read : ofChoice? name = some format) : ofChoiceAnyCase? name = some format := by
  have chosen : name ∈ format.choices := ofChoice?_eq_some_iff.mp read
  have small := (small_of_mem_names (choices_subset_names format chosen)).1
  rwa [ofChoiceAnyCase?_eq_some_iff, lowered, small, String.ofList_toList]

/-- What is read as a choice in any case is read as a name. -/
theorem ofName?_of_ofChoiceAnyCase? {name : String} {format : Format}
    (read : ofChoiceAnyCase? name = some format) : ofName? name = some format := by
  have mem : lowered name.toList ∈ format.names :=
    choices_subset_names format (ofChoiceAnyCase?_eq_some_iff.mp read)
  have trimmed := (small_of_mem_names mem).2
  rw [lowered, String.toList_ofList, trim_map isBlank_toLower] at trimmed
  rwa [ofName?_eq_some_iff_mem, lowered, trimmed]

/-! ## The names of all formats -/

/-- The names by which formats are known, each with its format. -/
def nameTable : List (String × Format) := [
  ("postgresql", postgresql), ("postgres", postgresql), ("mysql", mysql), ("prisma", prisma),
  ("prisma-style", prisma), ("drizzle", drizzle), ("drizzle-style", drizzle), ("json", json)]

/-- The table has the names of each format. -/
theorem mem_nameTable {name : String} {format : Format} :
    (name, format) ∈ nameTable ↔ name ∈ format.names := by
  cases format <;> simp [nameTable, names, choices, word]

/-- A text is read as a format exactly if it is the same word as a name in the table. -/
theorem ofName?_eq_some_iff {name : String} {format : Format} :
    ofName? name = some format ↔
      ∃ known, (known, format) ∈ nameTable ∧ SameWord name.toList known.toList := by
  -- A known name is small and without blanks around it, so to be the same word as one of them is to
  -- be that name when the letters are small and the blanks are gone.
  have same {known : String} (mem : known ∈ format.names) :
      SameWord name.toList known.toList ↔ lowered (trim name.toList) = known := by
    obtain ⟨small, trimmed⟩ := small_of_mem_names mem
    rw [sameWord_iff, trimmed, small, lowered]
    constructor
    · intro chars
      rw [chars, String.ofList_toList]
    · intro text
      rw [← text, String.toList_ofList]
  rw [ofName?_eq_some_iff_mem]
  constructor
  · intro mem
    exact ⟨_, mem_nameTable.mpr mem, (same mem).mpr rfl⟩
  · rintro ⟨known, mem, word⟩
    rw [mem_nameTable] at mem
    rwa [(same mem).mp word]

/-- A name is refused where it is that of no format. -/
theorem toOption_ofName (name : String) : (ofName name).toOption = ofName? name := by
  rw [ofName]
  cases ofName? name <;> rfl

/-- A name is read with an error just as it is without one. -/
theorem ofName_eq_ok_iff {name : String} {format : Format} :
    ofName name = .ok format ↔ ofName? name = some format := by
  rw [ofName]
  cases ofName? name <;> simp

/-- Blanks around a name and the case of its letters make no difference. -/
theorem ofName_of_sameWord {name other : String} (same : SameWord name.toList other.toList) :
    (ofName name).toOption = (ofName other).toOption := by
  have small : lowered (trim name.toList) = lowered (trim other.toList) :=
    congrArg String.ofList (sameWord_iff.mp same)
  rw [toOption_ofName, toOption_ofName, ofName?, ofName?, small]

/-- What is the same word as no name in the table is no format. -/
theorem ofName?_eq_none {name : String}
    (unknown : ∀ known format, (known, format) ∈ nameTable →
      ¬ SameWord name.toList known.toList) : ofName? name = none := by
  rw [Option.eq_none_iff_forall_ne_some]
  intro format read
  obtain ⟨known, mem, same⟩ := ofName?_eq_some_iff.mp read
  exact unknown known format mem same

/-! ## Names in JSON -/

/-- The words of the settings are those of the formats. -/
theorem lookup_words_eq (word : String) : words.lookup word = ofWord? word := by
  rw [words, ofWord?]
  induction all with
  | nil => rfl
  | cons format formats ih =>
    rw [List.map_cons, List.lookup_cons, List.find?_cons, ih, BEq.comm]

open Json in
/-- A text of JSON is read as the format with exactly that name, however it is written. -/
theorem read_json {glyphs : List Glyph} {name text : String}
    (stands : Glyph.text? glyphs = some name) (laid : Laid [.text glyphs] text.toList) :
    (Json.read (Document.Source.oneOf words) text).toOption = ofWord? name := by
  have written : Laid (Written.text glyphs).lexemes text.toList := laid
  rw [read_laid (Agree.oneOf words) written, ← lookup_words_eq]
  show (Glyph.text? glyphs).bind _ = _
  rw [stands]
  rfl

/-! ## The readers together -/

/-- What a JSON text names as a format can be chosen by the same name, what can be chosen can be
chosen in any case of letters, and what can be chosen so is known by that name. Eight names are
known, in any case of ASCII letters and with blanks around them. Any other name is given back as it
is, by an export too, and all readers read the name of a format. -/
theorem readers_agree :
    (∀ (glyphs : List Json.Glyph) (name text : String), Json.Glyph.text? glyphs = some name →
      Json.Laid [.text glyphs] text.toList →
      (Json.read (Document.Source.oneOf words) text).toOption = ofWord? name) ∧
    (∀ (name : String) (format : Format),
      (ofWord? name = some format → ofChoice? name = some format) ∧
      (ofChoice? name = some format → ofChoiceAnyCase? name = some format) ∧
      (ofChoiceAnyCase? name = some format → ofName name = .ok format)) ∧
    (∀ name other : String, SameWord name.toList other.toList →
      (ofName name).toOption = (ofName other).toOption) ∧
    (∀ (name : String) (format : Format), ofName name = .ok format ↔
      ∃ known, (known, format) ∈ nameTable ∧ SameWord name.toList known.toList) ∧
    (∀ name : String,
      (∀ known format, (known, format) ∈ nameTable → ¬ SameWord name.toList known.toList) →
      ofName name = .error ⟨name⟩ ∧ ∀ (settings : Settings) (schema : Schema),
        schema.exportByName settings name = .error (.unsupportedFormat name)) ∧
    ∀ format : Format, ofWord? format.word = some format ∧ ofChoice? format.word = some format ∧
      ofChoiceAnyCase? format.word = some format ∧ ofName format.word = .ok format := by
  have known {name : String} {format : Format} (read : ofChoiceAnyCase? name = some format) :
      ofName name = .ok format := ofName_eq_ok_iff.mpr (ofName?_of_ofChoiceAnyCase? read)
  refine ⟨fun glyphs name text => read_json, fun name format => ⟨ofChoice?_of_ofWord?,
    ofChoiceAnyCase?_of_ofChoice?, known⟩, fun name other => ofName_of_sameWord,
    fun name format => ofName_eq_ok_iff.trans ofName?_eq_some_iff, fun name unknown => ?_,
    fun format => ?_⟩
  · have none := ofName?_eq_none unknown
    refine ⟨?_, fun settings schema => ?_⟩
    · rw [ofName, none]
    · rw [Schema.exportByName, none]
  · have read := ofWord?_eq_some_iff.mpr (Eq.refl format.word)
    have chosen := ofChoice?_of_ofWord? read
    have anyCase := ofChoiceAnyCase?_of_ofChoice? chosen
    exact ⟨read, chosen, anyCase, known anyCase⟩

/-- `"mysql"` in JSON, `postgres` as a choice, a name with blanks around it and one that is
unknown. -/
theorem readers_agree_names :
    (Json.read (Document.Source.oneOf words) "\"mysql\"").toOption = some mysql ∧
    ofName "postgres" = .ok postgresql ∧ ofName " Prisma-Style\u2003" = .ok prisma ∧
    ofName "sqlite" = .error ⟨"sqlite"⟩ := by
  obtain ⟨json, chain, -, known, unknown, own⟩ := readers_agree
  have chosen : ofChoice? "postgres" = some postgresql := by
    rw [ofChoice?_eq_some_iff]
    decide
  have style : SameWord " Prisma-Style\u2003".toList "prisma-style".toList := by
    rw [sameWord_iff]
    decide +kernel
  have strange : ∀ known format, (known, format) ∈ nameTable →
      ¬ SameWord "sqlite".toList known.toList := by
    intro known format mem
    rw [sameWord_iff]
    have each : ∀ entry ∈ nameTable, (trim "sqlite".toList).map Char.toLower ≠
        (trim entry.1.toList).map Char.toLower := by decide +kernel
    exact each (known, format) mem
  refine ⟨?_, ?_, ?_, (unknown "sqlite" strange).1⟩
  · have written : Json.Laid [.text ("mysql".toList.map Json.Glyph.ofChar)] "\"mysql\"".toList :=
      Json.Value.laid_compact (.text "mysql")
    rw [json _ "mysql" _ (Json.Glyph.text?_ofChars "mysql") written]
    exact (own mysql).1
  · exact (chain "postgres" postgresql).2.2 ((chain "postgres" postgresql).2.1 chosen)
  · exact (known _ _).mpr ⟨"prisma-style", by simp [nameTable], style⟩

end SchemaPress.Format
