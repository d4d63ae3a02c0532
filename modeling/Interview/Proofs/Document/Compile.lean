import Interview.Proofs.Document.Outcome

/-!
# How a document is compiled

A template comes out of a document by way of its outline, its sections and their entries. Each lemma
here says for one of these steps what a success consists of, so that later proofs need not open the
definitions. `compile_eq_ok` puts the steps together.
-/

namespace Interview.Document

open Interview.Text

variable {text : List Char} {header : Header} {sections : List Section} {body : Body}
variable {fields : List (Value × Value)} {question : Question} {entry : Value} {place : Nat}

/-! ## The outline -/

/-- How the lines of a document fall into the entries of a frontmatter and a body. -/
inductive Opens (text : List Char) : List (Value × Value) → List Line → Prop where
  | plain {body : List Line} (begins : Opening.ofLines (lines text) = .plain body) :
      Opens text [] body
  | fenced {frontmatter body : List Line} {entries : List (Value × Value)}
      (begins : Opening.ofLines (lines text) = .fenced frontmatter body)
      (read : frontmatterEntries (unlines frontmatter) = .ok entries) :
      Opens text entries body

/-- Once a document has opened, its outline depends on whether a section comes twice. -/
theorem outline_of_opens {entries : List (Value × Value)} {body : List Line}
    (opens : Opens text entries body) :
    outline text =
      match repeatedSection? [] (splitSections body).2 with
      | some part => refuse (.repeatedSection (String.ofList part.heading))
      | none =>
        .ok (⟨entries, Preamble.ofLines (splitSections body).1⟩, (splitSections body).2) := by
  cases opens with
  | plain begins =>
      simp only [outline, begins]
      rfl
  | fenced begins read =>
      simp only [outline, begins, read]
      rfl

theorem exists_opens_of_outline (outlined : outline text = .ok (header, sections)) :
    ∃ entries body, Opens text entries body := by
  cases begins : Opening.ofLines (lines text) with
  | plain body => exact ⟨[], body, .plain begins⟩
  | fenced frontmatter body =>
      cases read : frontmatterEntries (unlines frontmatter) with
      | ok entries => exact ⟨entries, body, .fenced begins read⟩
      | error fault =>
          simp only [outline, begins, read] at outlined
          cases outlined
  | unclosed =>
      simp only [outline, begins] at outlined
      cases outlined

/-- The outline is had when the document opens, and no section comes twice. -/
theorem outline_eq_ok :
    outline text = .ok (header, sections) ↔
      ∃ entries body, Opens text entries body ∧
        repeatedSection? [] (splitSections body).2 = none ∧
        header = ⟨entries, Preamble.ofLines (splitSections body).1⟩ ∧
        sections = (splitSections body).2 := by
  constructor
  · intro outlined
    obtain ⟨entries, body, opens⟩ := exists_opens_of_outline outlined
    rw [outline_of_opens opens] at outlined
    split at outlined
    · cases outlined
    next distinct =>
        cases outlined
        exact ⟨entries, body, opens, distinct, rfl, rfl⟩
  · rintro ⟨entries, body, opens, distinct, rfl, rfl⟩
    rw [outline_of_opens opens, distinct]

/-! ## The sections -/

/-- A body has what the sections say, and neither their lines and entries nor their structure has a
problem. -/
structure Body.IsSaidBy (body : Body) (sections : List Section) : Prop where
  phases : body.phases = (phasesIn sections).1
  usesStandardPhases : body.usesStandardPhases = (phasesIn sections).2.1
  noPhaseProblem : (phasesIn sections).2.2 = []
  questions : questionsIn sections = .ok (body.questions, [])
  rules : rulesIn sections = .ok (body.rules, [])
  scoring : body.scoring = verbatim? (sectionText? "scoring" sections)
  report : body.report = verbatim? (sectionText? "report" sections)
  sound : structuralProblems body.phases body.questions = []

theorem bodyOf_eq_ok : bodyOf sections = .ok body ↔ body.IsSaidBy sections := by
  simp only [bodyOf, bind_eq_ok, Prod.exists]
  constructor
  · rintro ⟨questions, questionProblems, readQuestions, rules, ruleProblems, readRules, rest⟩
    split at rest
    next none =>
        simp only [List.isEmpty_iff, List.append_eq_nil_iff, List.map_eq_nil_iff] at none
        obtain ⟨⟨⟨noPhaseProblem, rfl⟩, rfl⟩, sound⟩ := none
        cases rest
        exact ⟨rfl, rfl, noPhaseProblem, readQuestions, readRules, rfl, rfl, sound⟩
    next => cases rest
  · obtain ⟨phases, usesStandardPhases, questions, rules, scoring, report⟩ := body
    rintro ⟨rfl, rfl, noPhaseProblem, readQuestions, readRules, rfl, rfl, sound⟩
    exact ⟨questions, [], readQuestions, rules, [], readRules, by simp [noPhaseProblem, sound]⟩

/-- An entry gives a question when it is a mapping in which nothing needed is missing, its type is
known, and its options, if there are any, are a list. -/
theorem questionOf_eq_ok :
    questionOf place entry = .ok (.ok question) ↔
      ∃ fields, entry = .mapping fields ∧ missingFields fields = .ok [] ∧
        fieldText fields "id" = .ok question.id ∧ typeOf fields = .ok question.type ∧
        question.type.isKnown = true ∧ optionsOf fields = .ok (some question.options) ∧
        fieldText fields "phase" = .ok question.phase ∧
        fieldText fields "text" = .ok question.text := by
  constructor
  · intro read
    cases entry with
    | mapping fields =>
        simp only [questionOf, bind_eq_ok] at read
        obtain ⟨missing, found, read⟩ := read
        split at read
        · rw [bind_eq_ok] at read
          obtain ⟨_, -, ⟨⟩⟩ := read
        next complete =>
          simp only [bind_eq_ok] at read
          obtain ⟨id, readId, type, readType, read⟩ := read
          split at read
          · cases read
          next known =>
            rw [bind_eq_ok] at read
            obtain ⟨options, readOptions, read⟩ := read
            cases options with
            | none => cases read
            | some options =>
                simp only [bind_eq_ok, Except.ok.injEq] at read
                obtain ⟨phase, readPhase, wording, readWording, rfl⟩ := read
                obtain rfl : missing = [] := by simpa using complete
                exact ⟨fields, rfl, found, readId, readType, by simpa using known, readOptions,
                  readPhase, readWording⟩
    | _ => cases read
  · rintro ⟨fields, rfl, found, readId, readType, known, readOptions, readPhase, readWording⟩
    simp only [questionOf, found, readId, readType, readOptions, readPhase, readWording, known,
      bind, Except.bind]
    rfl

/-- Every question of a list comes from one of its entries. -/
theorem exists_entry_of_mem {entries : List Value} {questions : List Question}
    {problems : List DocumentProblem} (read : questionsFrom place entries = .ok (questions, problems))
    (member : question ∈ questions) :
    ∃ place, ∃ entry ∈ entries, questionOf place entry = .ok (.ok question) := by
  induction entries generalizing place questions problems with
  | nil =>
      cases read
      cases member
  | cons entry entries ih =>
      simp only [questionsFrom, bind_eq_ok, Prod.exists] at read
      obtain ⟨outcome, first, others, otherProblems, rest, whole⟩ := read
      have later (inside : question ∈ others) :
          ∃ place, ∃ other ∈ entry :: entries, questionOf place other = .ok (.ok question) := by
        obtain ⟨place, other, among, found⟩ := ih rest inside
        exact ⟨place, other, List.mem_cons_of_mem _ among, found⟩
      cases outcome with
      | ok made =>
          cases whole
          rcases List.mem_cons.mp member with rfl | inside
          · exact ⟨place, entry, List.mem_cons_self, first⟩
          · exact later inside
      | error problem =>
          cases whole
          exact later member

/-- Questions come out of a section that holds a list of entries in YAML. -/
theorem questionsIn_eq_ok {questions : List Question} {problems : List DocumentProblem} :
    questionsIn sections = .ok (questions, problems) ↔
      (sectionText? "questions" sections = none ∧ questions = [] ∧ problems = [.noQuestions]) ∨
        ∃ text, sectionText? "questions" sections = some text ∧
          ((∃ why, Yaml.content text = .error (.malformed why) ∧ questions = [] ∧
              problems = [.questionsNotYaml text why]) ∨
            ∃ value, Yaml.content text = .ok value ∧
              questionsOf value = .ok (questions, problems)) := by
  unfold questionsIn
  cases sectionText? "questions" sections with
  | none => simp [eq_comm]
  | some text =>
      cases read : Yaml.content text with
      | ok value => simp [contentOf, read, bind, Except.bind]
      | error fault =>
          cases fault with
          | malformed why => simp [contentOf, read, bind, Except.bind, eq_comm]
          | scalar why => simp [contentOf, read, bind, Except.bind]

/-! ## The template -/

/-- All that is read of a document on the way to its template: the outline, what the sections say,
the names that are chosen, the other texts of the header, and the names as texts. -/
structure Compilation (text : String) (overrides : Overrides) where
  header : Header
  sections : List Section
  body : Body
  identifier : Value
  name : Value
  category : Value
  objective : Option String
  version : Option String
  protocolRef : Option String
  personaRef : Option String
  sourceRef : String
  identifierText : String
  nameText : String
  categoryText : String
  outlined : outline (dropReturns text.toList) = .ok (header, sections)
  readBody : bodyOf sections = .ok body
  readIdentifier :
    identifierOf overrides.identifier header (Digest.ofText text) = .ok identifier
  readName : nameOf overrides.name header identifier = .ok name
  readCategory : categoryOf overrides.category header = .ok category
  readObjective : header.text? "objective" = .ok objective
  readVersion : header.text? "version" = .ok version
  readProtocol : header.text? "protocol" = .ok protocolRef
  readPersona : header.text? "persona" = .ok personaRef
  readSource : Record.readText (sourceRefOf overrides.sourceRef (Digest.ofText text)) = .ok sourceRef
  identified : Record.readText identifier = .ok identifierText
  named : Record.readText name = .ok nameText
  categorized : Record.readText category = .ok categoryText

namespace Compilation

variable {text : String} {overrides : Overrides}

/-- The template that is put together. -/
def template (made : Compilation text overrides) : Template where
  identifier := some made.identifierText
  name := some made.nameText
  category := some made.categoryText
  phases := made.body.phases
  questions := made.body.questions
  objective := made.objective
  version := made.version
  protocolRef := made.protocolRef
  personaRef := made.personaRef
  rules := made.body.rules
  scoring := made.body.scoring
  report := made.body.report
  info := some
    { phaseCount := made.body.phases.length
      questionCount := made.body.questions.length
      sourceRef := some made.sourceRef
      usedDefaultPhases := made.body.usesStandardPhases }

theorem said (made : Compilation text overrides) : made.body.IsSaidBy made.sections :=
  bodyOf_eq_ok.mp made.readBody

end Compilation

/-- What is read of a name that is a text is this text. -/
theorem eq_of_readText {value : Value} {own found : String} (isText : value = .text own)
    (read : Record.readText value = .ok found) : found = own := by
  subst isText
  cases read
  rfl

/-- A document compiles when its outline and its sections are in order, the texts of its header can
be had, and what is known better are texts. The template is then put together from them. -/
theorem compile_eq_ok {text : String} {overrides : Overrides} {template : Template} :
    compile text overrides = .ok template ↔
      ∃ made : Compilation text overrides, made.template = template := by
  simp only [compile, bind_eq_ok, Prod.exists, orLong_eq_ok, orProblems_eq_ok,
    Record.Checked.seq_eq_ok, Record.Checked.map_eq_ok]
  constructor
  · rintro ⟨header, sections, outlined, identifier, readIdentifier, name, readName, category,
      readCategory, body, readBody, objective, readObjective, version, readVersion, protocolRef,
      readProtocol, personaRef, readPersona, sourceRef, readSource, identifierText, nameText,
      categoryText, ⟨_, _, ⟨_, _, ⟨_, identified, rfl⟩, named, rfl⟩, categorized, together⟩, made⟩
    cases together
    cases made
    exact
      ⟨{ header, sections, body, identifier, name, category, objective, version, protocolRef,
          personaRef, sourceRef, identifierText, nameText, categoryText, outlined, readBody,
          readIdentifier, readName, readCategory, readObjective, readVersion, readProtocol,
          readPersona, readSource, identified, named, categorized }, rfl⟩
  · rintro ⟨made, rfl⟩
    exact ⟨_, _, made.outlined, _, made.readIdentifier, _, made.readName, _, made.readCategory, _,
      made.readBody, _, made.readObjective, _, made.readVersion, _, made.readProtocol, _,
      made.readPersona, _, made.readSource, _, _, _,
      ⟨_, _, ⟨_, _, ⟨_, made.identified, rfl⟩, made.named, rfl⟩, made.categorized, rfl⟩, rfl⟩

end Interview.Document
