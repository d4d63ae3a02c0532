import Interview.Template.Problem

/-!
# Drafts

A draft is a template that was put together without any check, as happens when templates are
brought back from where they were kept. Every field that a template has to have can be lacking in
it. `Draft.template?` is the template that a draft amounts to, if nothing is lacking that the check
of its structure looks at.
-/

namespace Interview

/-- A question as part of a draft. -/
structure DraftQuestion where
  id : Option String
  phase : Option String
  text : Option String
  type : QuestionType
  options : Option (List String)
deriving DecidableEq, Repr

/-- Compile information as part of a draft. A source that is there can still be unknown. -/
structure DraftInfo where
  phaseCount : Option Int
  questionCount : Option Int
  sourceRef : Option (Option String)
  usedDefaultPhases : Bool
deriving DecidableEq, Repr

/-- A template put together without any check. Where a text has to be, it can be lacking, and it can
be there without a value. -/
structure Draft where
  identifier : Option (Option String)
  name : Option (Option String)
  category : Option (Option String)
  phases : Option (List String)
  questions : Option (List DraftQuestion)
  objective : Option String
  version : Option String
  protocolRef : Option String
  personaRef : Option String
  rules : Entries Value
  scoring : Option String
  report : Option String
  info : Option DraftInfo

/-- The question that a part of a draft amounts to. Its text is not looked at, so that one without a
text counts as one with an empty text. -/
def DraftQuestion.question? (draft : DraftQuestion) : Option Question := do
  let id ← draft.id
  let phase ← draft.phase
  some { id, phase, text := draft.text.getD "", type := draft.type, options := draft.options }

/-- Compile information without its source counts as lacking as a whole. -/
def DraftInfo.info? (draft : DraftInfo) : Option CompileInfo := do
  let sourceRef ← draft.sourceRef
  some
    { phaseCount := draft.phaseCount.getD 0
      questionCount := draft.questionCount.getD 0
      sourceRef
      usedDefaultPhases := draft.usedDefaultPhases }

/-- The template that a draft amounts to. -/
def Draft.template? (draft : Draft) : Option Template := do
  let phases ← draft.phases
  let questions ← (← draft.questions).mapM DraftQuestion.question?
  let identifier ← draft.identifier
  some
    { identifier, phases, questions
      name := draft.name.join
      category := draft.category.join
      objective := draft.objective
      version := draft.version
      protocolRef := draft.protocolRef
      personaRef := draft.personaRef
      rules := draft.rules
      scoring := draft.scoring
      report := draft.report
      info := draft.info.bind DraftInfo.info? }

/-! ## Drafts in which nothing is lacking -/

/-- A question as it stands in a draft. -/
def Question.draft (question : Question) : DraftQuestion :=
  { id := some question.id
    phase := some question.phase
    text := some question.text
    type := question.type
    options := question.options }

/-- Compile information as it stands in a draft. -/
def CompileInfo.draft (info : CompileInfo) : DraftInfo :=
  { phaseCount := some info.phaseCount
    questionCount := some info.questionCount
    sourceRef := some info.sourceRef
    usedDefaultPhases := info.usedDefaultPhases }

/-- A template as a draft. -/
def Template.draft (template : Template) : Draft :=
  { identifier := some template.identifier
    name := some template.name
    category := some template.category
    phases := some template.phases
    questions := some (template.questions.map Question.draft)
    objective := template.objective
    version := template.version
    protocolRef := template.protocolRef
    personaRef := template.personaRef
    rules := template.rules
    scoring := template.scoring
    report := template.report
    info := template.info.map CompileInfo.draft }

@[simp] theorem Question.question?_draft (question : Question) :
    question.draft.question? = some question :=
  rfl

@[simp] theorem CompileInfo.info?_draft (info : CompileInfo) : info.draft.info? = some info :=
  rfl

/-- A template that is taken for a draft amounts to itself. -/
@[simp] theorem Template.template?_draft (template : Template) :
    template.draft.template? = some template := by
  have questions : (template.questions.map Question.draft).mapM DraftQuestion.question? =
      some template.questions := by
    induction template.questions with
    | nil => rfl
    | cons question questions ih => simp [List.mapM_cons, ih]
  have info : (template.info.map CompileInfo.draft).bind DraftInfo.info? = template.info := by
    cases template.info <;> rfl
  simp [Draft.template?, Template.draft, questions, info]

end Interview
