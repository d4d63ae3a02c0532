import Interview.Proofs.Document.Written
import Interview.Proofs.Yaml.Word

/-!
# Words as names

A phase is read as the text of its line, the fields of a question by the rules of YAML. For a word
without quotes the two readings agree unless YAML has another meaning for the word.
-/

namespace Interview.Document

open Interview.Text Interview.Yaml

/-- The document with one phase and one question, in which a word names the phase, the question and
its option. -/
def wordDocument (word : String) (feeds : Nat) : String :=
  String.ofList <| unlines <|
    ["## Phases".toList, "- ".toList ++ word.toList, "## Questions".toList,
      "- id: ".toList ++ word.toList, "  phase: ".toList ++ word.toList, "  text: \"t\"".toList,
      "  type: single_choice".toList, "  options: [".toList ++ word.toList ++ "]".toList] ++
    List.replicate feeds []

/-- The question that is meant. -/
def wordQuestion (word : String) : Question :=
  ⟨word, word, "t", .singleChoice, some [word]⟩

/-! ## The entry of the question -/

section

variable {word : String} {value : Value} {shown : String} {feeds : Nat}

def wordEntry (word : String) : Sheet.Entry where
  first := fieldOf "id" (.scalar (plainScalar word))
  others :=
    [fieldOf "phase" (.scalar (plainScalar word)), fieldOf "text" (.scalar (quotedScalar "t")),
      fieldOf "type" (.scalar (plainScalar "single_choice")),
      fieldOf "options" (.list [plainScalar word])]

theorem wordDocument_eq (word : String) (feeds : Nat) :
    wordDocument word feeds =
      String.ofList (unlines (sheetDocument [word] [wordEntry word] feeds)) := by
  simp [wordDocument, sheetDocument, phaseLine, Sheet.lines, Sheet.Entry.lines,
    Sheet.Entry.firstLine, Sheet.Entry.otherLines, wordEntry, fieldOf, quotedScalar, plainScalar,
    Sheet.Field.line, Sheet.Field.text, Sheet.Content.text, Sheet.Scalar.text, List.intercalate]

theorem isPlainWord_of_isWord (is : isWord word.toList = true) : isPlainWord word.toList = true := by
  have chars := isWordChar_of_isWord is
  obtain ⟨c, rest, split, letter, -⟩ := exists_letter is
  rw [split] at chars ⊢
  have apart : c :: rest ≠ ['-'] := by
    rintro ⟨⟩
    cases letter
  simpa [isPlainWord, apart] using chars

theorem isLineText_of_isWord (is : isWord word.toList = true) : IsLineText word := by
  have chars := isWordChar_of_isWord is
  have tidy := isTidy_of_isWordChar (ne_nil_of_isWord is) chars
  rw [String.ofList_toList] at tidy
  exact ⟨tidy, fun c member => isVisible_of_isWordChar (chars c member)⟩

theorem isSound_wordEntry (is : isWord word.toList = true) : (wordEntry word).isSound = true := by
  have plain : (plainScalar word).isSound = true := isPlainWord_of_isWord is
  have list : (Sheet.Content.list [plainScalar word]).isSound = true := by
    simpa [Sheet.Content.isSound] using plain
  rw [Sheet.Entry.isSound, List.all_eq_true]
  simp only [Sheet.Entry.fields, wordEntry, List.forall_mem_cons, List.not_mem_nil,
    false_imp_iff, implies_true, and_true]
  exact ⟨isSound_fieldOf (by decide) plain, isSound_fieldOf (by decide) plain,
    isSound_fieldOf (by decide) rfl, isSound_fieldOf (by decide) (by decide),
    isSound_fieldOf (by decide) list⟩

/-- The fields of the entry, where the word has a value. -/
def wordFields (value : Value) : List (String × Value) :=
  [("id", value), ("phase", value), ("text", .text "t"), ("type", .text "single_choice"),
    ("options", .list [value])]

theorem reads_wordEntry (read : (plainScalar word).read = .ok value) :
    (wordEntry word).Reads (wordFields value) := by
  refine ⟨?_, by simp [wordFields]⟩
  exact .cons (reads_fieldOf (by decide) (.scalar read)) <|
    .cons (reads_fieldOf (by decide) (.scalar read)) <|
    .cons (reads_fieldOf (by decide) (.scalar (read_quotedScalar "t"))) <|
    .cons (reads_fieldOf (by decide) (.scalar (@read_name .singleChoice rfl))) <|
    .cons (reads_fieldOf (by decide) (.list (.cons read .nil))) .nil

/-! ## What the word is read as -/

/-- A value with a text gives a question that has the text as its names. -/
theorem questionsFrom_wordFields (given : value ≠ .null) (text : value.text? = some shown)
    (tidy : shown.IsTidy) :
    questionsFrom 1 [Value.ofEntries (wordFields value)] = .ok ([wordQuestion shown], []) := by
  have tidyText : "t".IsTidy := by decide
  have read : questionOf 1 (Value.ofEntries (wordFields value)) = .ok (.ok (wordQuestion shown)) := by
    refine questionOf_of_shows rfl ⟨value, rfl, given, text⟩ tidy ⟨value, rfl, given, text⟩ tidy
      ⟨_, rfl, nofun, rfl⟩ tidyText rfl ?_
    have listed : Value.lookup (.text "options")
        ((wordFields value).map fun entry => (Value.text entry.1, entry.2)) =
          some (.list [value]) := rfl
    rw [optionsOf, listed]
    simp [textOf, text, bind, Except.bind, pure, Except.pure, wordQuestion]
  rw [questionsFrom, read]
  rfl

/-- Without a value there is no id, which is reported. -/
theorem exists_questionsFrom_null :
    ∃ problem, questionsFrom 1 [Value.ofEntries (wordFields .null)] = .ok ([], [problem]) :=
  ⟨_, rfl⟩

theorem structuralProblems_wordQuestion (tidy : word.IsTidy) :
    structuralProblems [word] [wordQuestion shown] = [] ↔ shown = word := by
  rw [Interview.structuralProblems_eq_nil]
  simp [wordQuestion, tidy.2, Question.isChoice, Question.hasOptions]

/-! ## What the document is read as -/

/-- The document compiles with its phase and the questions of its entry, if these fit. -/
theorem exists_compile_wordDocument_iff (is : isWord word.toList = true)
    (read : (plainScalar word).read = .ok value) {questions : List Question} :
    (∃ template, compile (wordDocument word feeds) .none = .ok template ∧
        template.phases = [word] ∧ template.questions = questions) ↔
      questionsFrom 1 [Value.ofEntries (wordFields value)] = .ok (questions, []) ∧
        structuralProblems [word] questions = [] := by
  rw [wordDocument_eq]
  refine exists_compile_sheetDocument_iff ?_ (List.cons_ne_nil _ _) ?_
    (.cons (reads_wordEntry read) .nil)
  · simpa using isLineText_of_isWord is
  · simpa using isSound_wordEntry is

/-- The template has the phase and the questions of the entry. -/
theorem of_compile_wordDocument {template : Template} (is : isWord word.toList = true)
    (read : (plainScalar word).read = .ok value)
    (compiled : compile (wordDocument word feeds) .none = .ok template) :
    template.phases = [word] ∧
      questionsFrom 1 [Value.ofEntries (wordFields value)] = .ok (template.questions, []) ∧
      structuralProblems [word] template.questions = [] := by
  rw [wordDocument_eq] at compiled
  refine of_compile_sheetDocument ?_ (List.cons_ne_nil _ _) ?_
    (.cons (reads_wordEntry read) .nil) compiled
  · simpa using isLineText_of_isWord is
  · simpa using isSound_wordEntry is

/-- An entry without an id is never passed over. -/
theorem compile_wordDocument_of_null {template : Template} (is : isWord word.toList = true)
    (read : (plainScalar word).read = .ok .null) :
    compile (wordDocument word feeds) .none ≠ .ok template := by
  intro compiled
  obtain ⟨-, gives, -⟩ := of_compile_wordDocument is read compiled
  obtain ⟨problem, reported⟩ := exists_questionsFrom_null
  have none := (Prod.mk.inj (Except.ok.inj (gives.symm.trans reported))).2
  cases none

/-- A question that is bound to another phase is never passed over. -/
theorem compile_wordDocument_of_text (is : isWord word.toList = true)
    (read : (plainScalar word).read = .ok value) (given : value ≠ .null)
    (text : value.text? = some shown) (tidy : shown.IsTidy) :
    (∀ template, compile (wordDocument word feeds) .none = .ok template →
      template.phases = [word] ∧ template.questions = [wordQuestion word]) ∧
    ((∃ template, compile (wordDocument word feeds) .none = .ok template) ↔ shown = word) := by
  have asked := questionsFrom_wordFields given text tidy
  have tidyWord := (isLineText_of_isWord is).1
  have meant (template : Template) (compiled : compile (wordDocument word feeds) .none =
      .ok template) :
      template.phases = [word] ∧ template.questions = [wordQuestion shown] ∧ shown = word := by
    obtain ⟨phases, gives, fit⟩ := of_compile_wordDocument is read compiled
    have questions := (Prod.mk.inj (Except.ok.inj (gives.symm.trans asked))).1
    rw [questions] at fit
    exact ⟨phases, questions, (structuralProblems_wordQuestion tidyWord).mp fit⟩
  constructor
  · intro template compiled
    obtain ⟨phases, questions, rfl⟩ := meant template compiled
    exact ⟨phases, questions⟩
  · constructor
    · rintro ⟨template, compiled⟩
      exact (meant template compiled).2.2
    · rintro rfl
      obtain ⟨template, compiled, -⟩ := (exists_compile_wordDocument_iff is read).mpr
        ⟨asked, (structuralProblems_wordQuestion tidyWord).mpr rfl⟩
      exact ⟨template, compiled⟩

end

/-- A word names a phase, a question and an option as it is written, unless its value in YAML has
another text: then the document does not compile. -/
theorem word_document_compiles_unless_renamed (word : String) (is : isWord word.toList = true)
    (feeds : Nat) :
    (∀ template, compile (wordDocument word feeds) .none = .ok template →
      template.phases = [word] ∧ template.questions = [wordQuestion word]) ∧
    ((∃ template, compile (wordDocument word feeds) .none = .ok template) ↔
      word ∉ renamedWords) := by
  obtain ⟨value, shown, read, text, same⟩ := exists_text_of_isWord is
  rw [String.ofList_toList] at same
  rcases null_or_tidy_of_read (ne_nil_of_isWord is) (isWordChar_of_isWord is) read with
    ⟨rfl, nullWord⟩ | ⟨given, tidy⟩
  · rw [String.ofList_toList] at nullWord
    have renamed : word ∈ renamedWords := mem_renamedWords_iff.mpr (.inr nullWord)
    refine ⟨fun template compiled => absurd compiled (compile_wordDocument_of_null is read), ?_⟩
    constructor
    · rintro ⟨template, compiled⟩
      exact absurd compiled (compile_wordDocument_of_null is read)
    · exact fun other => absurd renamed other
  · rw [← same]
    exact compile_wordDocument_of_text is read given text (tidy shown text)

/-- A word that no rule of YAML knows names the phase, the question and its option. -/
theorem word_document_compiles_unless_renamed_yesterday :
    isWord "yesterday".toList = true ∧
      ∃ template, compile (wordDocument "yesterday" 1) .none = .ok template ∧
        template.phases = ["yesterday"] ∧
        template.questions = [wordQuestion "yesterday"] := by
  have is : isWord "yesterday".toList = true := by decide
  obtain ⟨meant, compiles⟩ := word_document_compiles_unless_renamed "yesterday" is 1
  obtain ⟨template, compiled⟩ := compiles.mpr (by decide)
  exact ⟨is, template, compiled, meant template compiled⟩

/-- The question of a positive answer is bound to the phase `True`, which is not declared. -/
theorem word_document_of_yes_does_not_compile :
    isWord "yes".toList = true ∧
      ¬ ∃ template, compile (wordDocument "yes" 1) .none = .ok template := by
  have is : isWord "yes".toList = true := by decide
  have read : (plainScalar "yes").read = .ok (.bool true) := rfl
  have tidy : "True".IsTidy := by decide
  refine ⟨is, fun compiled => ?_⟩
  have same := (compile_wordDocument_of_text is read nofun rfl tidy).2.mp compiled
  exact absurd same (by decide)

end Interview.Document
