import Interview.Entries
import Interview.Question
import Interview.Value.Basic

/-!
# Templates

A template is a playbook in executable form: phases in order, questions in order, and what its
document says beyond them. It normally comes from a document or from a checked record. Records that
were not checked can lack fields; those that such records do lack are optional here, and
`Template.IsChecked` says that none is lacking and that the structure is sound.
-/

namespace Interview

/-- What was seen when a document was made into a template. -/
structure CompileInfo where
  phaseCount : Int
  questionCount : Int
  sourceRef : Option String
  usedDefaultPhases : Bool
deriving DecidableEq, Repr

/-- A playbook in executable form. -/
structure Template where
  identifier : Option String
  name : Option String
  category : Option String
  phases : List String
  questions : List Question
  objective : Option String
  version : Option String
  protocolRef : Option String
  personaRef : Option String
  rules : Entries Value
  scoring : Option String
  report : Option String
  info : Option CompileInfo

/-- A text that may be lacking, as it appears in messages and prompts. -/
def shownOr (text : Option String) : String :=
  text.getD "None"

namespace Template

/-- Whether a question is declared. -/
def declares (template : Template) (id : String) : Bool :=
  template.questions.any (·.id == id)

/-- The question with an id: the first one. -/
def question? (template : Template) (id : String) : Option Question :=
  template.questions.find? (·.id == id)

/-- The questions of a phase, in the order of their declaration. -/
def inPhase (template : Template) (phase : String) : List Question :=
  template.questions.filter (·.phase == phase)

/-- The questions by the order of their phases, and within a phase by that of their declaration. -/
def ordered (template : Template) : List Question :=
  template.phases.flatMap template.inPhase

/-- The reference to the document that the template was made from, if it is recorded. -/
def sourceRef? (template : Template) : Option String :=
  template.info.bind (·.sourceRef)

end Template

end Interview
