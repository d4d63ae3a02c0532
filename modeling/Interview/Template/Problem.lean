import Interview.Template.Basic
import Interview.Text.Blank

/-!
# Structural problems

The phases and questions of a template have to fit together. `structuralProblems` lists everything
that does not, in a fixed order: first what concerns the phases, then the questions one by one. The
same list decides about documents, about records and about activation.
-/

namespace Interview

/-- Something that keeps phases and questions from being a template. -/
inductive StructuralProblem where
  | noIdentifier
  | noPhases
  | blankPhase
  | repeatedPhase (phase : String)
  | repeatedQuestion (id : String)
  | undeclaredPhase (id phase : String)
  | noOptions (id : String) (type : QuestionType)
deriving DecidableEq, Repr

/-- The problem in words. -/
def StructuralProblem.message : StructuralProblem → String
  | .noIdentifier => "template has no identifier"
  | .noPhases => "template declares no phases"
  | .blankPhase => "phase names must be non-empty"
  | .repeatedPhase phase => "duplicate phase '" ++ phase ++ "'"
  | .repeatedQuestion id => "duplicate question id '" ++ id ++ "'"
  | .undeclaredPhase id phase =>
    "question '" ++ id ++ "' references undeclared phase '" ++ phase ++ "'"
  | .noOptions id type => "question '" ++ id ++ "' of type '" ++ type.name ++ "' requires options"

/-- The problems of phase names, where `seen` are the names before them. -/
def phaseProblems (seen : List String) : (phases : List String) → List StructuralProblem
  | [] => []
  | phase :: phases =>
    (if phase.isBlankText then [.blankPhase]
      else if seen.contains phase then [.repeatedPhase phase]
      else []) ++ phaseProblems (phase :: seen) phases

/-- The problems of one question, where `seen` are the ids of the questions before it. -/
def questionProblems (phases seen : List String) (question : Question) : List StructuralProblem :=
  (if seen.contains question.id then [.repeatedQuestion question.id] else []) ++
    (if phases.contains question.phase then []
      else [.undeclaredPhase question.id question.phase]) ++
    (if question.isChoice && !question.hasOptions then [.noOptions question.id question.type]
      else [])

/-- The problems of a list of questions, where `seen` are the ids of the questions before them. -/
def questionsProblems (phases seen : List String) :
    (questions : List Question) → List StructuralProblem
  | [] => []
  | question :: questions =>
    questionProblems phases seen question ++
      questionsProblems phases (question.id :: seen) questions

/-- All structural problems of a list of phases and a list of questions. -/
def structuralProblems (phases : List String) (questions : List Question) :
    List StructuralProblem :=
  (if phases.isEmpty then [.noPhases] else []) ++ phaseProblems [] phases ++
    questionsProblems phases [] questions

namespace Template

/-- Whether the identifier is lacking or blank. -/
def lacksIdentifier (template : Template) : Bool :=
  template.identifier.all String.isBlankText

/-- What keeps a template from being activated. -/
def problems (template : Template) : List StructuralProblem :=
  (if template.lacksIdentifier then [.noIdentifier] else []) ++
    structuralProblems template.phases template.questions

/-- Nothing is lacking, every question is checked, and the structure is sound. -/
structure IsChecked (template : Template) : Prop where
  identifier : template.identifier.isSome
  name : template.name.isSome
  category : template.category.isSome
  info : template.info.isSome
  sourceRef : template.sourceRef?.isSome
  questions : ∀ question ∈ template.questions, question.IsChecked
  sound : structuralProblems template.phases template.questions = []

end Template

end Interview
