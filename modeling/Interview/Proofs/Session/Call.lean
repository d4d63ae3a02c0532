import Interview.Session.Step

/-!
# Calls and runs

A caller replies to questions, reports follow-ups and reports digressions. Each call is accepted or
refused, and a run is a list of accepted calls, each made on the session that the one before left.
What an accepted call does is said once, in `perform_ok_cases`; statements about runs are proved
from it, one call at a time.
-/

namespace Interview

/-- What a caller asks of a session. -/
inductive Call where
  | reply (id : String) (reply : Reply)
  | followUp
  | drift

namespace Call

/-- Whether a call answers or skips a question. -/
def isReply : Call → Bool
  | .reply _ _ => true
  | .followUp | .drift => false

/-- Whether a call answers or skips a question of a phase. -/
def repliesIn (template : Template) (phase : String) : Call → Bool
  | .reply id _ => (template.question? id).any (·.phase == phase)
  | .followUp | .drift => false

theorem isReply_of_repliesIn {template : Template} {phase : String} {call : Call}
    (replies : call.repliesIn template phase) : call.isReply := by
  cases call <;> simp_all [isReply, repliesIn]

end Call

namespace Session

variable {session next later : Session} {template : Template} {protocol : Protocol}
variable {question : Question} {reply : Reply} {call : Call} {calls more : List Call} {id : String}

/-- The session after a call, or why the call is refused. Of a digression only the session is kept,
not the advice that goes with it. -/
def perform (session : Session) (template : Template) (protocol : Protocol) :
    Call → Except Refusal Session
  | .reply id (.answer value) => session.answer template protocol id value
  | .reply id .skip => session.skip template protocol id
  | .followUp => session.followUp protocol
  | .drift => (session.drift protocol).map Prod.snd

/-- The session after a list of calls, or why the first of them that is not accepted is refused. -/
def performAll (session : Session) (template : Template) (protocol : Protocol)
    (calls : List Call) : Except Refusal Session :=
  calls.foldlM (fun session call => session.perform template protocol call) session

/-! ## Single replies -/

/-- The phase that a reply moves the session on to: it completes the phase of its question, and the
protocol goes on from the current phase. -/
def advance? (session : Session) (template : Template) (protocol : Protocol) (question : Question)
    (reply : Reply) : Option String :=
  if isPhaseComplete template (session.answers.put question.id reply.value) question.phase then
    protocol.nextPhase (session.phaseOr question.phase)
  else none

/-- A session is moved on to the successor of the phase that the reply is made from. -/
theorem nextPhase_of_advance? {further : String}
    (moves : session.advance? template protocol question reply = some further) :
    protocol.nextPhase (session.phaseOr question.phase) = some further := by
  unfold advance? at moves
  split at moves
  next => exact moves
  next => cases moves

@[simp] theorem record_phase :
    (session.record template protocol question reply).phase =
      some ((session.advance? template protocol question reply).getD
        (session.phaseOr question.phase)) :=
  rfl

@[simp] theorem record_answers :
    (session.record template protocol question reply).answers =
      session.answers.put question.id reply.value :=
  rfl

@[simp] theorem record_askedInPhase :
    (session.record template protocol question reply).askedInPhase =
      if (session.advance? template protocol question reply).isSome then 0
      else session.askedInPhase + 1 :=
  rfl

@[simp] theorem record_asked :
    (session.record template protocol question reply).asked = session.asked + 1 :=
  rfl

@[simp] theorem record_followups :
    (session.record template protocol question reply).followups = session.followups :=
  rfl

@[simp] theorem record_drifts :
    (session.record template protocol question reply).drifts = session.drifts :=
  rfl

@[simp] theorem record_skipped :
    (session.record template protocol question reply).skipped =
      skippedAfter session.skipped question.id reply :=
  rfl

/-- A reply marks or unmarks its own question only. -/
theorem mem_skippedAfter_of_ne {skipped : List String} {other : String} (differs : other ≠ id) :
    other ∈ skippedAfter skipped id reply ↔ other ∈ skipped := by
  cases reply with
  | answer value => simp [skippedAfter, differs]
  | skip =>
      simp only [skippedAfter]
      split
      · rfl
      · simp [differs]

/-- A reply is admitted when its phase is open or phases are not enforced, and the session has
questions left. -/
theorem refusal?_eq_none :
    session.refusal? template protocol question = none ↔
      (protocol.strictPhases → question.phase ∈ session.openPhases template protocol) ∧
        session.asked + 1 ≤ protocol.maxQuestions := by
  cases strict : protocol.strictPhases <;>
    by_cases opened : question.phase ∈ session.openPhases template protocol <;>
      simp [refusal?, strict, opened]

theorem reply_eq_ok :
    session.reply template protocol id reply = .ok next ↔
      ∃ question, template.question? id = some question ∧
        session.refusal? template protocol question = none ∧
          next = session.record template protocol question reply := by
  unfold Session.reply
  cases template.question? id with
  | none => simp
  | some question =>
      cases admitted : session.refusal? template protocol question with
      | none => simp [admitted, eq_comm]
      | some refusal => simp [admitted]

/-- What an accepted call does: a reply passes the checks and is recorded, a follow-up or a
digression stays within its limit and is counted. -/
theorem perform_ok_cases (accepted : session.perform template protocol call = .ok next) :
    (∃ id reply question, call = .reply id reply ∧ (reply = .skip → protocol.allowSkipping) ∧
      template.question? id = some question ∧
        session.refusal? template protocol question = none ∧
          next = session.record template protocol question reply) ∨
    (call = .followUp ∧ session.followups + 1 ≤ protocol.maxFollowups ∧
      next = { session with followups := session.followups + 1 }) ∨
    (call = .drift ∧ session.drifts + 1 ≤ protocol.driftHardLimit ∧
      next = { session with drifts := session.drifts + 1 }) := by
  cases call with
  | reply id reply =>
      left
      cases reply with
      | answer value =>
          rcases reply_eq_ok.mp accepted with ⟨question, found, admitted, recorded⟩
          exact ⟨id, _, question, rfl, by simp, found, admitted, recorded⟩
      | skip =>
          simp only [perform, skip] at accepted
          split at accepted
          next allowed =>
              rcases reply_eq_ok.mp accepted with ⟨question, found, admitted, recorded⟩
              exact ⟨id, _, question, rfl, fun _ => allowed, found, admitted, recorded⟩
          next => cases accepted
  | followUp =>
      right; left
      simp only [perform, followUp] at accepted
      split at accepted
      next => cases accepted
      next within =>
          cases accepted
          exact ⟨rfl, Int.not_lt.mp within, rfl⟩
  | drift =>
      right; right
      simp only [perform, drift] at accepted
      split at accepted
      next => cases accepted
      next within =>
          cases accepted
          exact ⟨rfl, Int.not_lt.mp within, rfl⟩

/-- What an accepted reply does. -/
theorem perform_reply_ok
    (accepted : session.perform template protocol (.reply id reply) = .ok next) :
    ∃ question, template.question? id = some question ∧
      session.refusal? template protocol question = none ∧
        next = session.record template protocol question reply := by
  rcases perform_ok_cases accepted with
    ⟨_, _, question, called, -, found, admitted, recorded⟩ | ⟨called, -, -⟩ | ⟨called, -, -⟩
  · cases called
    exact ⟨question, found, admitted, recorded⟩
  · cases called
  · cases called

/-- Where the protocol does not forbid it, a reply is made as it is. -/
theorem perform_reply (skippable : reply = .skip → protocol.allowSkipping = true) :
    session.perform template protocol (.reply id reply) =
      session.reply template protocol id reply := by
  cases reply with
  | answer value => rfl
  | skip => simp [perform, skip, skippable rfl]

/-! ## Runs -/

@[simp] theorem performAll_nil : session.performAll template protocol [] = .ok session :=
  rfl

theorem performAll_cons_eq_ok :
    session.performAll template protocol (call :: calls) = .ok later ↔
      ∃ next, session.perform template protocol call = .ok next ∧
        next.performAll template protocol calls = .ok later := by
  unfold performAll
  rw [List.foldlM_cons]
  cases session.perform template protocol call with
  | error refusal => simp [bind, Except.bind]
  | ok next => simp [bind, Except.bind]

/-- A run of two parts is a run of the second part from where the first one leads. -/
theorem performAll_append_eq_ok :
    session.performAll template protocol (calls ++ more) = .ok later ↔
      ∃ next, session.performAll template protocol calls = .ok next ∧
        next.performAll template protocol more = .ok later := by
  induction calls generalizing session with
  | nil => simp
  | cons call calls ih =>
      simp only [List.cons_append, performAll_cons_eq_ok, ih]
      constructor
      · rintro ⟨first, accepted, next, run, rest⟩
        exact ⟨next, ⟨first, accepted, run⟩, rest⟩
      · rintro ⟨next, ⟨first, accepted, run⟩, rest⟩
        exact ⟨first, accepted, next, run, rest⟩

/-- The session after a list of replies, or why the first of them that is not accepted is
refused. -/
def replyAll (session : Session) (template : Template) (protocol : Protocol)
    (replies : List (String × Reply)) : Except Refusal Session :=
  session.performAll template protocol (replies.map fun (id, given) => .reply id given)

@[simp] theorem replyAll_nil : session.replyAll template protocol [] = .ok session :=
  rfl

theorem replyAll_cons {given : String × Reply} {replies : List (String × Reply)} :
    session.replyAll template protocol (given :: replies) =
      (session.perform template protocol (.reply given.1 given.2)).bind fun next =>
        next.replyAll template protocol replies :=
  rfl

/-- What holds of a session, and is kept by every accepted call, holds after a run. -/
theorem performAll_induction {motive : Session → Prop} (begun : motive session)
    (step : ∀ call session next, motive session →
      session.perform template protocol call = .ok next → motive next)
    (run : session.performAll template protocol calls = .ok later) : motive later := by
  induction calls generalizing session with
  | nil =>
      cases run
      exact begun
  | cons call calls ih =>
      rcases performAll_cons_eq_ok.mp run with ⟨next, accepted, rest⟩
      exact ih (step call session next begun accepted) rest

/-- A session has a current phase from its first accepted reply on. -/
theorem performAll_phase_isSome (run : session.performAll template protocol calls = .ok later) :
    later.phase.isSome = (session.phase.isSome || calls.any Call.isReply) := by
  induction calls generalizing session with
  | nil =>
      cases run
      simp
  | cons call calls ih =>
      rcases performAll_cons_eq_ok.mp run with ⟨next, accepted, rest⟩
      rw [ih rest]
      rcases perform_ok_cases accepted with
        ⟨id, reply, question, rfl, -, -, -, rfl⟩ | ⟨rfl, -, rfl⟩ | ⟨rfl, -, rfl⟩ <;>
          simp [Call.isReply]

/-- A reply is accepted only where there are questions. -/
theorem exists_question_of_replied (run : session.performAll template protocol calls = .ok later)
    (replied : calls.any Call.isReply) : ∃ question, question ∈ template.questions := by
  induction calls generalizing session with
  | nil => simp at replied
  | cons call calls ih =>
      rcases performAll_cons_eq_ok.mp run with ⟨next, accepted, rest⟩
      rcases perform_ok_cases accepted with
        ⟨id, reply, question, rfl, -, found, -, -⟩ | ⟨rfl, -, -⟩ | ⟨rfl, -, -⟩
      · exact ⟨question, List.mem_of_find?_eq_some found⟩
      · exact ih rest (by simpa [Call.isReply] using replied)
      · exact ih rest (by simpa [Call.isReply] using replied)

end Session

end Interview
