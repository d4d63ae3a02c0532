import Interview.Template.Basic

/-!
# Sessions

A session records the progress of one conversation: its answers in the order in which the questions
were first answered, the current phase, and how often something was asked. A skipped question has
an absent value as its answer and is marked as skipped.
-/

namespace Interview

/-- The progress of one conversation. `askedInPhase` counts the answers since the current phase
began, the other counters run through the whole session. -/
structure Session where
  id : String
  phase : Option String
  question : Option String
  answers : Entries Value
  askedInPhase : Int
  asked : Int
  followups : Int
  drifts : Int
  skipped : List String

namespace Session

/-- A new session: no phase, no answers, nothing counted. -/
def start (id : String) : Session :=
  { id, phase := none, question := none, answers := .empty, askedInPhase := 0, asked := 0,
    followups := 0, drifts := 0, skipped := [] }

/-- Whether a question is answered or skipped. -/
def hasAnswer (session : Session) (id : String) : Bool :=
  session.answers.contains id

/-- The current phase, or that of a question if the session has none yet. A blank name of no
characters counts as none. -/
def phaseOr (session : Session) (phase : String) : String :=
  match session.phase with
  | some current => if current.isEmpty then phase else current
  | none => phase

end Session

end Interview
