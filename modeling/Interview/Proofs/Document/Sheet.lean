import Interview.Proofs.Document.Account
import Interview.Proofs.Document.Assembly
import Interview.Proofs.Document.Outline
import Interview.Proofs.Yaml.Content

/-!
# Documents of phases and questions

A document that has phases as bullets, questions as a sheet and nothing else is decided by the
questions that the entries of its sheet give: `exists_compile_sheetDocument_iff`.
-/

namespace Interview

open Interview.Text Interview.Yaml

/-! ## Visible characters -/

/-- A text of visible characters, none of its ends a space, is trimmed. -/
theorem trim_eq_self_of_isVisible {text : List Char} (visible : ∀ c ∈ text, isVisible c = true)
    (begins : text.head? ≠ some ' ') (ends : text.getLast? ≠ some ' ') : trim text = text := by
  refine strip_eq_self_iff.mpr ⟨fun first found => ?_, fun last found => ?_⟩
  · exact isBlank_of_isVisible (visible first (List.mem_of_head? found))
      fun same => begins (found.trans (congrArg some same))
  · exact isBlank_of_isVisible (visible last (List.mem_of_getLast? found))
      fun same => ends (found.trans (congrArg some same))

namespace Document

variable {line : Line} {heading : List Char} {before rest : List Line} {text : List Char}

/-- A line is no heading if its first character that is not blank is no number sign. -/
theorem headingOf?_eq_none {c : Char} {others : List Char} (visible : isBlank c = false)
    (other : c ≠ '#') (spaces : Nat) :
    headingOf? (List.replicate spaces ' ' ++ c :: others) = none := by
  induction spaces with
  | zero =>
      obtain ⟨kept, trimmed⟩ := exists_trim_cons visible others
      rw [List.replicate_zero, List.nil_append, headingOf?, trimmed]
      split
      next same => exact absurd (List.head_eq_of_cons_eq same) other
      next => rfl
  | succ spaces ih =>
      rw [List.replicate_succ, List.cons_append, headingOf?, trim_cons_of_blank rfl]
      exact ih

/-! ## Documents of phases and questions -/

/-- The bullet of a phase. -/
def phaseLine (phase : String) : Line := '-' :: ' ' :: phase.toList

/-- The lines of a document with phases as bullets, and questions as a sheet with empty lines behind
it. -/
def sheetDocument (phases : List String) (entries : List Sheet.Entry) (blank : Nat) : List Line :=
  "## Phases".toList :: phases.map phaseLine ++
    "## Questions".toList :: (Sheet.lines entries ++ List.replicate blank [])

/-- A text that a line can hold: visible, and without spaces around it. -/
def IsLineText (text : String) : Prop :=
  text.IsTidy ∧ ∀ c ∈ text.toList, isVisible c = true

variable {phases : List String} {entries : List Sheet.Entry}

theorem headingOf?_phases : headingOf? "## Phases".toList = some "Phases".toList := by
  decide

theorem headingOf?_questions : headingOf? "## Questions".toList = some "Questions".toList := by
  decide

theorem headingOf?_sheetLine (sound : ∀ entry ∈ entries, entry.isSound = true)
    (member : line ∈ Sheet.lines entries) : headingOf? line = none := by
  obtain ⟨entry, among, member⟩ := List.mem_flatMap.mp member
  rcases List.mem_cons.mp member with rfl | member
  · exact headingOf?_eq_none (c := '-') rfl (by decide) 0
  · obtain ⟨field, listed, rfl⟩ := List.mem_map.mp member
    have soundField := List.all_eq_true.mp (sound entry among) field
      (List.mem_cons_of_mem entry.first listed)
    simp only [Sheet.Field.isSound, isKeyWord, Bool.and_eq_true] at soundField
    have plain := soundField.1.1.1
    rw [Sheet.Field.line, Sheet.Field.text]
    cases key : field.key with
    | nil =>
        rw [key] at plain
        cases plain
    | cons c others =>
        have char := Stage.isWordChar_of_isPlainWord plain c (by rw [key]; exact List.mem_cons_self)
        have visible := isVisible_of_isWordChar char
        exact headingOf?_eq_none (isBlank_of_isVisible visible (ne_of_class char rfl))
          (ne_of_class char rfl) 2

variable {values : List (List (String × Value))} {blank : Nat}

/-- The sections of such a document. -/
def sheetSections (phases : List String) (entries : List Sheet.Entry) (blank : Nat) :
    List Section :=
  [⟨"Phases".toList, phases.map phaseLine⟩,
    ⟨"Questions".toList, Sheet.lines entries ++ List.replicate blank []⟩]

theorem isVisible_of_phaseLine {phase : String} (lineText : IsLineText phase) :
    ∀ c ∈ phaseLine phase, isVisible c = true := by
  intro c member
  simp only [phaseLine, List.mem_cons] at member
  rcases member with rfl | rfl | inside
  · rfl
  · rfl
  · exact lineText.2 c inside

/-- No line of the document holds a line end. -/
theorem notMem_of_mem_sheetDocument (lineTexts : ∀ phase ∈ phases, IsLineText phase)
    (sound : ∀ entry ∈ entries, entry.isSound = true)
    (member : line ∈ sheetDocument phases entries blank) : '\n' ∉ line ∧ '\r' ∉ line := by
  have visible : ∀ c ∈ line, isVisible c = true := by
    simp only [sheetDocument, List.mem_cons, List.mem_append, List.mem_map] at member
    rcases member with (rfl | ⟨phase, among, rfl⟩) | rfl | among | empty
    · exact List.all_eq_true.mp rfl
    · exact isVisible_of_phaseLine (lineTexts phase among)
    · exact List.all_eq_true.mp rfl
    · exact Sheet.isVisible_of_line sound among
    · rw [List.eq_of_mem_replicate empty]
      simp
  exact ⟨fun inside => absurd (visible _ inside) (by decide),
    fun inside => absurd (visible _ inside) (by decide)⟩

theorem splitSections_sheetDocument (sound : ∀ entry ∈ entries, entry.isSound = true) :
    splitSections (sheetDocument phases entries blank) = ([], sheetSections phases entries blank) := by
  have bullets : ∀ line ∈ phases.map phaseLine, headingOf? line = none := by
    intro line member
    obtain ⟨phase, -, rfl⟩ := List.mem_map.mp member
    exact headingOf?_eq_none (c := '-') rfl (by decide) 0
  have sheet : ∀ line ∈ Sheet.lines entries ++ List.replicate blank [], headingOf? line = none := by
    intro line member
    rcases List.mem_append.mp member with among | empty
    · exact headingOf?_sheetLine sound among
    · rw [List.eq_of_mem_replicate empty]
      rfl
  have questions := splitSections_append sheet []
  rw [List.append_nil] at questions
  rw [sheetDocument, List.cons_append, splitSections_heading headingOf?_phases,
    splitSections_append bullets, splitSections_heading headingOf?_questions, questions]
  simp [splitSections, sheetSections]

theorem outline_sheetDocument (lineTexts : ∀ phase ∈ phases, IsLineText phase)
    (sound : ∀ entry ∈ entries, entry.isSound = true) :
    outline (unlines (sheetDocument phases entries blank)) =
      .ok (⟨[], ⟨none, .empty⟩⟩, sheetSections phases entries blank) := by
  have split : lines (unlines (sheetDocument phases entries blank)) =
      sheetDocument phases entries blank :=
    lines_unlines fun line member => (notMem_of_mem_sheetDocument lineTexts sound member).1
  have fence : isFence "## Phases".toList = false := by decide
  have begins : Opening.ofLines (lines (unlines (sheetDocument phases entries blank))) =
      .plain (sheetDocument phases entries blank) := by
    rw [split, sheetDocument, List.cons_append, Opening.ofLines, fence]
    rfl
  have distinct : repeatedSection? [] (sheetSections phases entries blank) = none := by
    have apart : lower "Questions".toList ≠ lower "Phases".toList := by decide
    simpa [sheetSections, repeatedSection?, Section.key] using apart
  refine outline_eq_ok.mpr ⟨[], _, .plain begins, ?_, ?_, ?_⟩
  · rw [splitSections_sheetDocument sound]
    exact distinct
  · rw [splitSections_sheetDocument sound]
    rfl
  · rw [splitSections_sheetDocument sound]

theorem trim_toList {text : String} (tidy : text.IsTidy) :
    trim text.toList = text.toList ∧ text.toList ≠ [] := by
  rw [← String.isTidy_ofList_iff, String.ofList_toList]
  exact tidy

theorem trim_phaseLine {phase : String} (tidy : phase.IsTidy) :
    trim (phaseLine phase) = phaseLine phase := by
  obtain ⟨same, some⟩ := trim_toList tidy
  obtain ⟨c, others, split⟩ := List.exists_cons_of_ne_nil some
  rw [split] at same
  obtain ⟨-, ends⟩ := strip_eq_self_iff.mp same
  refine strip_eq_self_iff.mpr ⟨?_, ?_⟩
  · rintro first ⟨⟩
    rfl
  · rw [phaseLine, split, List.getLast?_cons_cons, List.getLast?_cons_cons]
    exact ends

/-- What is left of a phase's line without its bullet is the phase. -/
theorem ofList_trim_dropBullet {phase : String} (tidy : phase.IsTidy) :
    String.ofList (trim (dropBullet (trim (phaseLine phase)))) = phase := by
  obtain ⟨same, some⟩ := trim_toList tidy
  obtain ⟨c, others, split⟩ := List.exists_cons_of_ne_nil some
  have visible : isBlank c = false := by
    rw [split] at same
    exact (strip_eq_self_iff.mp same).1 c rfl
  have space : isBlank ' ' = true := rfl
  have dropped : dropBullet (phaseLine phase) = phase.toList := by
    simp [phaseLine, dropBullet, split, visible, space]
  rw [trim_phaseLine tidy, dropped, same, String.ofList_toList]

theorem phasesOf_bullets (lineTexts : ∀ phase ∈ phases, IsLineText phase) :
    phasesOf (unlines (phases.map phaseLine)) = phases := by
  cases phases with
  | nil => rfl
  | cons phase others =>
      have split : lines (unlines ((phase :: others).map phaseLine)) =
          (phase :: others).map phaseLine :=
        lines_unlines fun line member => by
          have member : line ∈ (phase :: others).map phaseLine := member
          obtain ⟨each, among, rfl⟩ := List.mem_map.mp member
          exact fun inside => absurd (isVisible_of_phaseLine (lineTexts each among) _ inside)
            (by decide)
      rw [phasesOf, split, List.map_map, List.filter_eq_self.mpr, List.map_map]
      · exact (List.map_congr_left fun each among =>
          ofList_trim_dropBullet (lineTexts each among).1).trans (List.map_id _)
      · intro text member
        obtain ⟨each, among, rfl⟩ := List.mem_map.mp member
        rw [Function.comp_apply, trim_phaseLine (lineTexts each among).1]
        rfl

theorem sectionText?_phases :
    sectionText? "phases" (sheetSections phases entries blank) =
      some (unlines (phases.map phaseLine)) := by
  have key : (lower "Phases".toList == "phases".toList) = true := by decide
  simp only [sectionText?, sheetSections, List.find?_cons, Section.key, key]
  rfl

theorem sectionText?_questions :
    sectionText? "questions" (sheetSections phases entries blank) =
      some (unlines (Sheet.lines entries ++ List.replicate blank [])) := by
  have first : (lower "Phases".toList == "questions".toList) = false := by decide
  have second : (lower "Questions".toList == "questions".toList) = true := by decide
  simp only [sectionText?, sheetSections, List.find?_cons, Section.key, first, second]
  rfl

theorem sectionText?_other {name : String}
    (phasesApart : (lower "Phases".toList == name.toList) = false)
    (questionsApart : (lower "Questions".toList == name.toList) = false) :
    sectionText? name (sheetSections phases entries blank) = none := by
  simp only [sectionText?, sheetSections, List.find?_cons, Section.key, phasesApart, questionsApart]
  rfl

/-- The questions of a section that is a sheet are those that its entries give. -/
theorem questionsIn_sheet {sections : List Section} (some : entries ≠ [])
    (sound : ∀ entry ∈ entries, entry.isSound = true)
    (reads : List.Forall₂ Sheet.Entry.Reads entries values)
    (text : sectionText? "questions" sections =
      .some (unlines (Sheet.lines entries ++ List.replicate blank []))) :
    questionsIn sections = orLong (questionsFrom 1 (values.map Value.ofEntries)) := by
  simp only [questionsIn, text, contentOf, Sheet.content_eq some sound reads blank]
  rfl

/-- What the sections say is decided by the questions that the entries give. -/
theorem bodyOf_sheetSections (lineTexts : ∀ phase ∈ phases, IsLineText phase)
    (some : entries ≠ []) (sound : ∀ entry ∈ entries, entry.isSound = true)
    (reads : List.Forall₂ Sheet.Entry.Reads entries values) {body : Body} :
    bodyOf (sheetSections phases entries blank) = .ok body ↔
      ∃ questions, questionsFrom 1 (values.map Value.ofEntries) = .ok (questions, []) ∧
        structuralProblems phases questions = [] ∧
        body = ⟨phases, false, questions, .empty, none, none⟩ := by
  have declared : phasesIn (sheetSections phases entries blank) =
      (phases, false, if phases.isEmpty then [.noPhaseLines] else []) := by
    simp only [phasesIn, sectionText?_phases, phasesOf_bullets lineTexts]
  have asked : questionsIn (sheetSections phases entries blank) =
      orLong (questionsFrom 1 (values.map Value.ofEntries)) :=
    questionsIn_sheet some sound reads sectionText?_questions
  have ruled : rulesIn (sheetSections phases entries blank) = .ok (.empty, []) := by
    rw [rulesIn, sectionText?_other (by decide) (by decide)]
    rfl
  have scoring : sectionText? "scoring" (sheetSections phases entries blank) = none :=
    sectionText?_other (by decide) (by decide)
  have report : sectionText? "report" (sheetSections phases entries blank) = none :=
    sectionText?_other (by decide) (by decide)
  rw [bodyOf_eq_ok]
  constructor
  · intro said
    have isPhases : body.phases = phases := by rw [said.phases, declared]
    have isStandard : body.usesStandardPhases = false := by rw [said.usesStandardPhases, declared]
    have noRules : body.rules = .empty :=
      (Prod.mk.inj (Except.ok.inj (said.rules.symm.trans ruled))).1
    have noScoring : body.scoring = none := by rw [said.scoring, scoring]; rfl
    have noReport : body.report = none := by rw [said.report, report]; rfl
    refine ⟨body.questions, orLong_eq_ok.mp (asked ▸ said.questions), isPhases ▸ said.sound, ?_⟩
    cases body
    simp only at isPhases isStandard noRules noScoring noReport
    rw [isPhases, isStandard, noRules, noScoring, noReport]
  · rintro ⟨questions, read, sound, rfl⟩
    have some : phases.isEmpty = false :=
      List.isEmpty_eq_false_iff.mpr (structuralProblems_eq_nil.mp sound).1
    exact
      { phases := by rw [declared]
        usesStandardPhases := by rw [declared]
        noPhaseProblem := by simp [declared, some]
        questions := asked ▸ orLong_eq_ok.mpr read
        rules := ruled
        scoring := by rw [scoring]; rfl
        report := by rw [report]; rfl
        sound }

/-- The document has no header. -/
theorem states_nothing : Header.States ⟨[], ⟨none, .empty⟩⟩ fun _ => none :=
  fun _ _ => rfl

theorem outline_dropReturns_sheetDocument (lineTexts : ∀ phase ∈ phases, IsLineText phase)
    (sound : ∀ entry ∈ entries, entry.isSound = true) :
    outline (dropReturns (String.ofList (unlines (sheetDocument phases entries blank))).toList) =
      .ok (⟨[], ⟨none, .empty⟩⟩, sheetSections phases entries blank) := by
  rw [String.toList_ofList, dropReturns_of_notMem, outline_sheetDocument lineTexts sound]
  intro inside
  rcases eq_feed_or_mem_of_mem_unlines inside with feed | ⟨line, among, inside⟩
  · cases feed
  · exact (notMem_of_mem_sheetDocument lineTexts sound among).2 inside

/-- The template of a document of phases and questions has these phases, and the questions that its
entries give. -/
theorem of_compile_sheetDocument {template : Template}
    (lineTexts : ∀ phase ∈ phases, IsLineText phase) (some : entries ≠ [])
    (sound : ∀ entry ∈ entries, entry.isSound = true)
    (reads : List.Forall₂ Sheet.Entry.Reads entries values)
    (compiled : compile (String.ofList (unlines (sheetDocument phases entries blank))) .none =
      .ok template) :
    template.phases = phases ∧
      questionsFrom 1 (values.map Value.ofEntries) = .ok (template.questions, []) ∧
      structuralProblems phases template.questions = [] := by
  obtain ⟨header, sections, texts, body, outlined, -, read, rfl⟩ := compile_none_eq_ok.mp compiled
  cases (outline_dropReturns_sheetDocument lineTexts sound).symm.trans outlined
  obtain ⟨questions, gives, fit, rfl⟩ := (bodyOf_sheetSections lineTexts some sound reads).mp read
  exact ⟨rfl, gives, fit⟩

/-- A document of phases and questions compiles as it is written if its entries give questions that
fit the phases. -/
theorem exists_compile_sheetDocument_iff (lineTexts : ∀ phase ∈ phases, IsLineText phase)
    (some : entries ≠ []) (sound : ∀ entry ∈ entries, entry.isSound = true)
    (reads : List.Forall₂ Sheet.Entry.Reads entries values) {questions : List Question} :
    (∃ template,
        compile (String.ofList (unlines (sheetDocument phases entries blank))) .none = .ok template ∧
          template.phases = phases ∧ template.questions = questions) ↔
      questionsFrom 1 (values.map Value.ofEntries) = .ok (questions, []) ∧
        structuralProblems phases questions = [] := by
  constructor
  · rintro ⟨template, compiled, -, rfl⟩
    exact (of_compile_sheetDocument lineTexts some sound reads compiled).2
  · rintro ⟨gives, fit⟩
    exact ⟨_, compile_none_eq_ok.mpr ⟨_, _, _, _,
      outline_dropReturns_sheetDocument lineTexts sound, states_nothing,
      (bodyOf_sheetSections lineTexts some sound reads).mpr ⟨questions, gives, fit, rfl⟩, rfl⟩,
      rfl, rfl⟩

/-! ## Entries that give questions -/

section

variable {fields : List (Value × Value)} {field shown : String} {question : Question} {place : Nat}

/-- A field of an entry is there, and its value has a text. -/
def Shows (fields : List (Value × Value)) (field shown : String) : Prop :=
  ∃ value, Value.lookup (.text field) fields = some value ∧ value ≠ .null ∧
    value.text? = some shown

theorem isFieldMissing_of_shows (shows : Shows fields field shown) (tidy : shown.IsTidy) :
    isFieldMissing fields field = .ok false := by
  obtain ⟨value, there, given, text⟩ := shows
  rw [isFieldMissing, there]
  cases value with
  | null => exact absurd rfl given
  | _ => simp [textOf, text, bind, Except.bind, tidy.2]

theorem fieldText_of_shows (shows : Shows fields field shown) (tidy : shown.IsTidy) :
    fieldText fields field = .ok shown := by
  obtain ⟨value, there, -, text⟩ := shows
  simp [fieldText, there, textOf, text, bind, Except.bind, tidy.1]

theorem typeOf_name {type : QuestionType} (known : type.isKnown = true)
    (there : Value.lookup (.text "type") fields = some (.text type.name)) :
    typeOf fields = .ok type := by
  have name : type.name.trimBlank = type.name ∧ (Value.text type.name).isTruthy = true := by
    cases type with
    | other name => cases known
    | _ => decide
  simp [typeOf, there, name, textOf, Value.text?, bind, Except.bind, known]

/-- An entry that shows the parts of a question gives the question. -/
theorem questionOf_of_shows (known : question.type.isKnown = true)
    (id : Shows fields "id" question.id) (tidyId : question.id.IsTidy)
    (phase : Shows fields "phase" question.phase) (tidyPhase : question.phase.IsTidy)
    (text : Shows fields "text" question.text) (tidyText : question.text.IsTidy)
    (type : Value.lookup (.text "type") fields = some (.text question.type.name))
    (options : optionsOf fields = .ok (some question.options)) :
    questionOf place (.mapping fields) = .ok (.ok question) := by
  have there : ∀ field ∈ neededFields, isFieldMissing fields field = .ok false := by
    simp only [neededFields, List.forall_mem_cons, List.not_mem_nil, false_imp_iff, implies_true,
      and_true]
    exact ⟨isFieldMissing_of_shows id tidyId, isFieldMissing_of_shows phase tidyPhase,
      isFieldMissing_of_shows text tidyText⟩
  have complete : missingFields fields = .ok [] := by
    refine filterM_eq_ok.mpr ⟨fun field member => ⟨false, there field member⟩, ?_⟩
    rw [List.filter_eq_nil_iff.mpr]
    intro field member
    simp [there field member]
  exact questionOf_eq_ok.mpr ⟨fields, rfl, complete, fieldText_of_shows id tidyId,
    typeOf_name known type, known, options, fieldText_of_shows phase tidyPhase,
    fieldText_of_shows text tidyText⟩

end

end Document

end Interview
