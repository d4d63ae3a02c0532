import Interview.Proofs.Document.Sheet

/-!
# Documents as they are written

Phases and questions can be written down line by line, all texts but the phases between quotes. The
document compiles, and the template has the very phases and questions: what is written is read back.
-/

namespace Interview.Document

open Interview.Text Interview.Yaml

/-! ## Writing a document -/

/-- A text between double quotes. -/
def quote (text : String) : List Char :=
  '"' :: (text.toList ++ ['"'])

/-- The lines of a question. One without options has no line for them. -/
def questionLines (question : Question) : List Line :=
  ["- id: ".toList ++ quote question.id,
    "  phase: ".toList ++ quote question.phase,
    "  text: ".toList ++ quote question.text,
    "  type: ".toList ++ question.type.name.toList] ++
  (question.options.map fun options =>
    "  options: [".toList ++ List.intercalate ", ".toList (options.map quote) ++ "]".toList).toList

/-- The document of phases and questions, with any number of line feeds at its end. -/
def written (phases : List String) (questions : List Question) (feeds : Nat) : String :=
  String.ofList <| unlines <|
    "## Phases".toList :: (phases.map fun phase => "- ".toList ++ phase.toList) ++
      "## Questions".toList :: (questions.flatMap questionLines ++ List.replicate feeds [])

/-- Texts that can be written as they are: visible characters of the basic alphabet without the
double quote and the backslash, and no spaces around them. -/
structure IsPrinted (text : String) : Prop where
  ne_empty : text ≠ ""
  chars : text.toList.all isQuotable = true
  begins : text.toList.head? ≠ some ' '
  ends : text.toList.getLast? ≠ some ' '

instance (text : String) : Decidable (IsPrinted text) :=
  decidable_of_iff (text ≠ "" ∧ text.toList.all isQuotable = true ∧
      text.toList.head? ≠ some ' ' ∧ text.toList.getLast? ≠ some ' ')
    ⟨fun ⟨ne_empty, chars, begins, ends⟩ => ⟨ne_empty, chars, begins, ends⟩,
      fun ⟨ne_empty, chars, begins, ends⟩ => ⟨ne_empty, chars, begins, ends⟩⟩

/-- Phases and questions that fit together and can be written as they are. -/
structure CanBeWritten (phases : List String) (questions : List Question) : Prop where
  phases_ne_nil : phases ≠ []
  phases_nodup : phases.Nodup
  questions_ne_nil : questions ≠ []
  ids_nodup : (questions.map (·.id)).Nodup
  declared : ∀ question ∈ questions, question.phase ∈ phases
  known : ∀ question ∈ questions, question.type.isKnown = true
  offered : ∀ question ∈ questions, question.type.needsOptions = true → question.hasOptions = true
  phases_printed : ∀ phase ∈ phases, IsPrinted phase
  ids_printed : ∀ question ∈ questions, IsPrinted question.id
  texts_printed : ∀ question ∈ questions, IsPrinted question.text
  options_printed : ∀ question ∈ questions, ∀ option ∈ question.options.getD [], IsPrinted option

/-! ## Questions as entries of a sheet -/

/-- A field under a key. -/
def fieldOf (key : String) (content : Sheet.Content) : Sheet.Field := ⟨key.toList, content⟩

def quotedScalar (text : String) : Sheet.Scalar := .quoted text.toList

def plainScalar (word : String) : Sheet.Scalar := .plain word.toList

/-- The entry that the lines of a question are. -/
def questionEntry (question : Question) : Sheet.Entry where
  first := fieldOf "id" (.scalar (quotedScalar question.id))
  others :=
    [fieldOf "phase" (.scalar (quotedScalar question.phase)),
      fieldOf "text" (.scalar (quotedScalar question.text)),
      fieldOf "type" (.scalar (plainScalar question.type.name))] ++
    (question.options.map fun options => fieldOf "options" (.list (options.map quotedScalar))).toList

theorem lines_questionEntry (question : Question) :
    (questionEntry question).lines = questionLines question := by
  have options (options : List String) :
      (fieldOf "options" (.list (options.map quotedScalar))).line =
        "  options: [".toList ++ List.intercalate ", ".toList (options.map quote) ++ "]".toList := by
    have items : (options.map quotedScalar).map Sheet.Scalar.text = options.map quote := by
      rw [List.map_map]
      rfl
    simp [fieldOf, Sheet.Field.line, Sheet.Field.text, Sheet.Content.text, items]
  cases given : question.options with
  | none =>
      simp only [questionEntry, questionLines, given]
      rfl
  | some listed =>
      simp only [questionEntry, questionLines, given, Sheet.Entry.lines, Sheet.Entry.otherLines,
        Option.map_some, Option.toList_some, List.map_append, List.map_cons, List.map_nil, options]
      rfl

/-- The keys that the reader of questions knows. -/
def fieldKeys : List String := ["id", "phase", "text", "type", "options"]

theorem forall_fieldKeys : ∀ key ∈ fieldKeys,
    isKeyWord key.toList = true ∧ Tag.ofPlain key.toList = .text := by
  decide

theorem isSound_fieldOf {key : String} {content : Sheet.Content} (isKey : key ∈ fieldKeys)
    (sound : content.isSound = true) : (fieldOf key content).isSound = true := by
  rw [Sheet.Field.isSound, fieldOf, (forall_fieldKeys key isKey).1, sound]
  rfl

/-- The name of a known type is a plain word that is read as a text. -/
theorem ofPlain_name {type : QuestionType} (known : type.isKnown = true) :
    isPlainWord type.name.toList = true ∧ Tag.ofPlain type.name.toList = .text := by
  cases type with
  | other name => cases known
  | _ => decide

theorem isSound_questionEntry {question : Question} (known : question.type.isKnown = true)
    (id : IsPrinted question.id) (phase : IsPrinted question.phase) (text : IsPrinted question.text)
    (options : ∀ option ∈ question.options.getD [], IsPrinted option) :
    (questionEntry question).isSound = true := by
  rw [Sheet.Entry.isSound, List.all_eq_true]
  intro field member
  simp only [Sheet.Entry.fields, questionEntry, List.mem_cons, List.mem_append, List.not_mem_nil,
    or_false, Option.mem_toList, Option.map_eq_some_iff] at member
  rcases member with rfl | (rfl | rfl | rfl) | ⟨given, same, rfl⟩
  · exact isSound_fieldOf (by decide) id.chars
  · exact isSound_fieldOf (by decide) phase.chars
  · exact isSound_fieldOf (by decide) text.chars
  · exact isSound_fieldOf (by decide) (ofPlain_name known).1
  · rw [same] at options
    refine isSound_fieldOf (by decide) ?_
    rw [Sheet.Content.isSound, List.all_map, List.all_eq_true]
    exact fun option member => (options option member).chars

/-! ## What the entries are read as -/

/-- The fields of a question as values. -/
def questionFields (question : Question) : List (String × Value) :=
  [("id", .text question.id), ("phase", .text question.phase), ("text", .text question.text),
    ("type", .text question.type.name)] ++
  (question.options.map fun options => ("options", Value.list (options.map .text))).toList

theorem read_quotedScalar (text : String) : (quotedScalar text).read = .ok (.text text) := by
  simp [quotedScalar, Sheet.Scalar.read, Sheet.Scalar.tag, Sheet.Scalar.content, Tag.read]

theorem read_name {type : QuestionType} (known : type.isKnown = true) :
    (plainScalar type.name).read = .ok (.text type.name) := by
  simp [plainScalar, Sheet.Scalar.read, Sheet.Scalar.tag, Sheet.Scalar.content,
    (ofPlain_name known).2, Tag.read]

theorem reads_fieldOf {key : String} {content : Sheet.Content} {value : Value}
    (isKey : key ∈ fieldKeys) (reads : content.Reads value) :
    (fieldOf key content).Reads (key, value) :=
  ⟨(forall_fieldKeys key isKey).2, String.ofList_toList.symm, reads⟩

theorem reads_quotedScalars (texts : List String) :
    (Sheet.Content.list (texts.map quotedScalar)).Reads (.list (texts.map .text)) := by
  refine .list ?_
  rw [List.forall₂_map_left_iff, List.forall₂_map_right_iff, List.forall₂_same]
  exact fun text _ => read_quotedScalar text

theorem reads_questionEntry {question : Question} (known : question.type.isKnown = true) :
    (questionEntry question).Reads (questionFields question) := by
  have quoted {key : String} (isKey : key ∈ fieldKeys) (text : String) :
      (fieldOf key (.scalar (quotedScalar text))).Reads (key, .text text) :=
    reads_fieldOf isKey (.scalar (read_quotedScalar text))
  have fixed : List.Forall₂ Sheet.Field.Reads
      [fieldOf "id" (.scalar (quotedScalar question.id)),
        fieldOf "phase" (.scalar (quotedScalar question.phase)),
        fieldOf "text" (.scalar (quotedScalar question.text)),
        fieldOf "type" (.scalar (plainScalar question.type.name))]
      [("id", .text question.id), ("phase", .text question.phase), ("text", .text question.text),
        ("type", .text question.type.name)] :=
    .cons (quoted (by decide) _) <| .cons (quoted (by decide) _) <| .cons (quoted (by decide) _) <|
      .cons (reads_fieldOf (by decide) (.scalar (read_name known))) .nil
  cases given : question.options with
  | none =>
      refine ⟨?_, by simp [questionFields, given]⟩
      simpa [Sheet.Entry.fields, questionEntry, questionFields, given] using fixed
  | some listed =>
      refine ⟨?_, by simp [questionFields, given]⟩
      have options : (fieldOf "options" (.list (listed.map quotedScalar))).Reads
          ("options", .list (listed.map .text)) :=
        reads_fieldOf (by decide) (reads_quotedScalars listed)
      have whole := List.rel_append fixed (.cons options .nil)
      simpa [Sheet.Entry.fields, questionEntry, questionFields, given] using whole

theorem IsPrinted.isLineText {text : String} (printed : IsPrinted text) : IsLineText text := by
  have visible : ∀ c ∈ text.toList, isVisible c = true := fun c member =>
    isVisible_of_isQuotable (List.all_eq_true.mp printed.chars c member)
  have trimmed := trim_eq_self_of_isVisible visible printed.begins printed.ends
  have some : text.toList ≠ [] := by simpa using printed.ne_empty
  refine ⟨?_, visible⟩
  rw [← String.ofList_toList (s := text), String.isTidy_ofList_iff]
  exact ⟨trimmed, some⟩

theorem questionFields_lookup (question : Question) :
    let fields := (questionFields question).map fun entry => (Value.text entry.1, entry.2)
    Value.lookup (.text "id") fields = some (.text question.id) ∧
      Value.lookup (.text "phase") fields = some (.text question.phase) ∧
      Value.lookup (.text "text") fields = some (.text question.text) ∧
      Value.lookup (.text "type") fields = some (.text question.type.name) ∧
      Value.lookup (.text "options") fields =
        question.options.map fun options => Value.list (options.map .text) := by
  cases given : question.options <;>
    simp [questionFields, given, Value.lookup, Value.sameKey]

/-- The fields of a question give the question. -/
theorem questionOf_questionFields {question : Question} {place : Nat}
    (known : question.type.isKnown = true) (id : question.id.IsTidy) (phase : question.phase.IsTidy)
    (text : question.text.IsTidy) :
    questionOf place (Value.ofEntries (questionFields question)) = .ok (.ok question) := by
  obtain ⟨atId, atPhase, atText, atType, atOptions⟩ := questionFields_lookup question
  refine questionOf_of_shows known ⟨_, atId, nofun, rfl⟩ id ⟨_, atPhase, nofun, rfl⟩ phase
    ⟨_, atText, nofun, rfl⟩ text atType ?_
  rw [optionsOf, atOptions]
  cases question.options with
  | none => rfl
  | some options =>
      have texts : (options.map Value.text).mapM textOf = .ok options := by
        rw [mapM_eq_ok_iff, List.forall₂_map_left_iff, List.forall₂_same]
        exact fun option _ => rfl
      simp [texts, bind, Except.bind]

/-- Fields that give a question each give the questions. -/
theorem questionsFrom_map {questions : List Question} {entry : Question → Value} (place : Nat)
    (each : ∀ question ∈ questions, ∀ place, questionOf place (entry question) = .ok (.ok question)) :
    questionsFrom place (questions.map entry) = .ok (questions, []) := by
  induction questions generalizing place with
  | nil => rfl
  | cons question questions ih =>
      have later := ih (place + 1) fun other member => each other (List.mem_cons_of_mem _ member)
      rw [List.map_cons, questionsFrom, each question List.mem_cons_self, later]
      rfl

theorem CanBeWritten.structuralProblems_eq_nil {phases : List String} {questions : List Question}
    (can : CanBeWritten phases questions) : structuralProblems phases questions = [] := by
  refine Interview.structuralProblems_eq_nil.mpr ⟨can.phases_ne_nil, can.phases_nodup,
    fun phase member => (can.phases_printed phase member).isLineText.1.2, can.ids_nodup,
    fun question member => ⟨can.declared question member, can.offered question member⟩⟩

/-! ## The document is read back -/

/-- Phases and questions that can be written are read back from the document as they are. -/
theorem written_document_is_read_back (phases : List String) (questions : List Question)
    (can : CanBeWritten phases questions) (feeds : Nat) :
    ∃ template, compile (written phases questions feeds) .none = .ok template ∧
      template.phases = phases ∧ template.questions = questions := by
  have phasePrinted {question : Question} (member : question ∈ questions) :
      IsPrinted question.phase := can.phases_printed _ (can.declared question member)
  have sheet : written phases questions feeds =
      String.ofList (unlines (sheetDocument phases (questions.map questionEntry) feeds)) := by
    have lines : Sheet.lines (questions.map questionEntry) = questions.flatMap questionLines := by
      rw [Sheet.lines, List.flatMap_map]
      exact List.flatMap_congr fun question _ => lines_questionEntry question
    rw [written, sheetDocument, lines]
    rfl
  have reads : List.Forall₂ Sheet.Entry.Reads (questions.map questionEntry)
      (questions.map questionFields) := by
    rw [List.forall₂_map_left_iff, List.forall₂_map_right_iff, List.forall₂_same]
    exact fun question member => reads_questionEntry (can.known question member)
  rw [sheet, exists_compile_sheetDocument_iff _ _ _ reads]
  · refine ⟨?_, can.structuralProblems_eq_nil⟩
    rw [List.map_map]
    exact questionsFrom_map 1 fun question member place =>
      questionOf_questionFields (can.known question member)
        (can.ids_printed question member).isLineText.1 (phasePrinted member).isLineText.1
        (can.texts_printed question member).isLineText.1
  · exact fun phase member => (can.phases_printed phase member).isLineText
  · simpa using can.questions_ne_nil
  · intro entry member
    obtain ⟨question, among, rfl⟩ := List.mem_map.mp member
    exact isSound_questionEntry (can.known question among) (can.ids_printed question among)
      (phasePrinted among) (can.texts_printed question among) (can.options_printed question among)

/-- Marks of the formats around them do not matter: number signs, hyphens, colons, commas, brackets
and words with another meaning are read back. -/
theorem written_document_is_read_back_sample :
    let phases := ["# first: [a, b]", "- 2nd \x7bx\x7d"]
    let questions : List Question :=
      [⟨"id: 1 # no", "# first: [a, b]", "What's \x7bup\x7d, & why? - [no]: #", .singleChoice,
        some ["yes", "1.10", "a, b", "# c"]⟩,
        ⟨"null", "- 2nd \x7bx\x7d", "~", .freeText, none⟩]
    CanBeWritten phases questions ∧
      ∃ template, compile (written phases questions 1) .none = .ok template ∧
        template.phases = phases ∧ template.questions = questions := by
  intro phases questions
  have can : CanBeWritten phases questions :=
    { phases_ne_nil := by decide
      phases_nodup := by decide
      questions_ne_nil := by decide
      ids_nodup := by decide
      declared := by decide
      known := by decide
      offered := by decide
      phases_printed := by decide
      ids_printed := by decide
      texts_printed := by decide
      options_printed := by decide }
  exact ⟨can, written_document_is_read_back phases questions can 1⟩

end Interview.Document
