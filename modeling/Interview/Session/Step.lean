import Interview.Session.Progress
import Interview.Text.Quoted

/-!
# Steps of a session

A step is an answer, a skip, a follow-up or a digression. It is either refused for one reason and
leaves the session as it is, or accepted and gives the session after it. An answer that completes
the phase of its question moves the session on by one phase of the protocol.
-/

namespace Interview

/-- A limit of a protocol on the steps of a session. -/
inductive Limit where
  | questions
  | followups
  | drift
deriving DecidableEq, Repr

def Limit.name : Limit → String
  | .questions => "maxQuestions"
  | .followups => "maxFollowups"
  | .drift => "driftHardLimit"

/-- Why a step is refused. -/
inductive Refusal where
  | unknownQuestion (id : String) (template : Option String)
  | phaseClosed (id phase : String) (openPhases : List String)
  | limitReached (limit : Limit) (maximum : Int)
  | skipForbidden (id : String)
deriving DecidableEq, Repr

/-- Texts in a list, as a message shows them. -/
def quotedList (texts : List String) : String :=
  "[" ++ ", ".intercalate (texts.map String.quoted) ++ "]"

/-- The refusal in words. -/
def Refusal.message : Refusal → String
  | .unknownQuestion id template =>
    "Question '" ++ id ++ "' not found in template '" ++ shownOr template ++ "'"
  | .phaseClosed id phase openPhases =>
    "Question '" ++ id ++ "' belongs to phase '" ++ phase ++ "'; only " ++ quotedList openPhases ++
      " may be answered now"
  | .limitReached limit maximum =>
    "Limit " ++ limit.name ++ " exceeded (max " ++ toString maximum ++ ")"
  | .skipForbidden id =>
    "Cannot skip '" ++ id ++ "': protocol does not allow question skipping"

/-- What is given for a question: an answer, or that it is skipped. -/
inductive Reply where
  | answer (value : Value)
  | skip

/-- The value that is kept for a reply. -/
def Reply.value : Reply → Value
  | .answer value => value
  | .skip => .null

namespace Session

/-- Why a reply to a question is refused, if it is: its phase has to be open, and the session must
have questions left. -/
def refusal? (session : Session) (template : Template) (protocol : Protocol)
    (question : Question) : Option Refusal :=
  let openPhases := session.openPhases template protocol
  if protocol.strictPhases && !openPhases.contains question.phase then
    some (.phaseClosed question.id question.phase openPhases)
  else if protocol.maxQuestions < session.asked + 1 then
    some (.limitReached .questions protocol.maxQuestions)
  else none

/-- The skipped questions after a reply to one of them. -/
def skippedAfter (skipped : List String) (id : String) : Reply → List String
  | .answer _ => skipped.filter (· != id)
  | .skip => if skipped.contains id then skipped else skipped ++ [id]

/-- The session after an accepted reply. The current phase is that of the session or, at its start,
that of the question. When the phase of the question is complete, the session moves on to the phase
after the current one, if the protocol has one. -/
def record (session : Session) (template : Template) (protocol : Protocol) (question : Question)
    (reply : Reply) : Session :=
  let answers := session.answers.put question.id reply.value
  let current := session.phaseOr question.phase
  let next :=
    if isPhaseComplete template answers question.phase then protocol.nextPhase current else none
  { session with
    answers
    phase := some (next.getD current)
    question := some question.id
    askedInPhase := if next.isSome then 0 else session.askedInPhase + 1
    asked := session.asked + 1
    skipped := skippedAfter session.skipped question.id reply }

/-- A reply to a question, checked and recorded. -/
def reply (session : Session) (template : Template) (protocol : Protocol) (id : String)
    (reply : Reply) : Except Refusal Session :=
  match template.question? id with
  | none => .error (.unknownQuestion id template.identifier)
  | some question =>
    match session.refusal? template protocol question with
    | some refusal => .error refusal
    | none => .ok (session.record template protocol question reply)

/-- An answer to a question. Answering again replaces the answer and counts again. -/
def answer (session : Session) (template : Template) (protocol : Protocol) (id : String)
    (value : Value) : Except Refusal Session :=
  session.reply template protocol id (.answer value)

/-- A question is skipped, if the protocol allows that. -/
def skip (session : Session) (template : Template) (protocol : Protocol) (id : String) :
    Except Refusal Session :=
  if protocol.allowSkipping then session.reply template protocol id .skip
  else .error (.skipForbidden id)

/-- A follow-up to a question is counted. -/
def followUp (session : Session) (protocol : Protocol) : Except Refusal Session :=
  if protocol.maxFollowups < session.followups + 1 then
    .error (.limitReached .followups protocol.maxFollowups)
  else .ok { session with followups := session.followups + 1 }

/-- A digression is counted. The result tells whether it goes past the soft limit. -/
def drift (session : Session) (protocol : Protocol) : Except Refusal (Bool × Session) :=
  let count := session.drifts + 1
  if protocol.driftHardLimit < count then .error (.limitReached .drift protocol.driftHardLimit)
  else .ok (protocol.driftSoftLimit < count, { session with drifts := count })

end Session

end Interview
