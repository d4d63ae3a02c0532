import Interview.Protocol.Basic
import Interview.Session.Basic

/-!
# Where a session stands

What has been answered of a template decides which question comes next, how far each phase is, and
which phases are open. Nothing here changes a session.
-/

namespace Interview

/-- Where a session stands against a template. -/
inductive Status where
  | notStarted
  | inPhase
  | completed
deriving DecidableEq, Repr

def Status.name : Status → String
  | .notStarted => "not_started"
  | .inPhase => "in_phase"
  | .completed => "completed"

/-- How many questions of a phase are answered. -/
structure PhaseProgress where
  phase : String
  answered : Nat
  total : Nat
deriving DecidableEq, Repr

/-- Whether all questions of the phase are answered. A phase without questions never is complete. -/
def PhaseProgress.isComplete (progress : PhaseProgress) : Bool :=
  0 < progress.total && progress.answered == progress.total

/-- An answered question with its answer. -/
structure Exchange where
  id : String
  question : String
  answer : Value
  skipped : Bool

/-- Whether a phase has questions and all of them are answered. -/
def isPhaseComplete (template : Template) (answers : Entries Value) (phase : String) : Bool :=
  let questions := template.inPhase phase
  !questions.isEmpty && questions.all fun question => answers.contains question.id

namespace Session

/-- The first question without an answer, by the order of the template. -/
def nextQuestion (session : Session) (template : Template) : Option Question :=
  template.ordered.find? fun question => !session.hasAnswer question.id

/-- Where the session stands. -/
def status (session : Session) (template : Template) : Status :=
  if !template.questions.isEmpty &&
      template.questions.all fun question => session.hasAnswer question.id then .completed
  else if session.phase.isNone then .notStarted
  else .inPhase

/-- How far each phase of the template is. -/
def progress (session : Session) (template : Template) : List PhaseProgress :=
  template.phases.map fun phase =>
    let questions := template.inPhase phase
    { phase
      answered := questions.countP fun question => session.hasAnswer question.id
      total := questions.length }

/-- The phases whose questions may be answered: a phase and, when it is complete, the one after it
in the protocol. -/
def openFrom (session : Session) (template : Template) (protocol : Protocol) (phase : String) :
    List String :=
  phase ::
    if isPhaseComplete template session.answers phase then (protocol.nextPhase phase).toList
    else []

/-- The open phases: those from the current phase on or, before the first answer, from the phase of
the next question on. -/
def openPhases (session : Session) (template : Template) (protocol : Protocol) : List String :=
  match session.phase with
  | some phase => session.openFrom template protocol phase
  | none =>
    match session.nextQuestion template with
    | some question => session.openFrom template protocol question.phase
    | none => []

/-- The answered questions with their answers, by the order of the template. -/
def history (session : Session) (template : Template) : List Exchange :=
  template.ordered.filterMap fun question =>
    (session.answers.find? question.id).map fun answer =>
      { id := question.id
        question := question.text
        answer
        skipped := session.skipped.contains question.id }

end Session

end Interview
