import Interview.Proofs.Session.Traversal
import Interview.Proofs.Protocol.Order

/-!
# What steers a session

How a session goes on depends on which questions of the template have an answer, and not on what
was answered, on whether a question was skipped, or on answers to questions of another template.
Sessions that are `Alike` agree in that, in the current phase and in the counters of replies. They
answer every query in the same way, refuse the same replies for the same reasons, and are alike again
after the replies that they accept.
-/

namespace Interview

variable {template : Template} {protocol : Protocol} {question : Question}
variable {session other : Session} {given otherGiven : Reply}
variable {replies otherReplies : List (String × Reply)} {phase : String}

/-! ## Queries -/

/-- Two sessions have answers to the same questions of a template. -/
def SameCoverage (template : Template) (session other : Session) : Prop :=
  ∀ question ∈ template.questions, session.hasAnswer question.id = other.hasAnswer question.id

instance : Decidable (SameCoverage template session other) :=
  inferInstanceAs (Decidable (∀ question ∈ template.questions,
    session.hasAnswer question.id = other.hasAnswer question.id))

namespace SameCoverage

variable (same : SameCoverage template session other)
include same

theorem isPhaseComplete_eq (phase : String) :
    isPhaseComplete template session.answers phase =
      isPhaseComplete template other.answers phase := by
  rw [Bool.eq_iff_iff, isPhaseComplete_iff, isPhaseComplete_iff]
  refine and_congr_right fun _ => forall₃_congr fun question declared _ => ?_
  exact Bool.eq_iff_iff.mp (same question declared)

theorem nextQuestion_eq : session.nextQuestion template = other.nextQuestion template := by
  unfold Session.nextQuestion
  rw [← List.head?_filter, ← List.head?_filter]
  congr 1
  refine List.filter_congr fun question member => ?_
  rw [same question (Template.declared_of_mem_ordered member)]

theorem progress_eq : session.progress template = other.progress template := by
  refine List.map_congr_left fun phase _ => ?_
  have counted : (template.inPhase phase).countP (session.hasAnswer ·.id) =
      (template.inPhase phase).countP (other.hasAnswer ·.id) := by
    refine List.countP_congr fun question member => ?_
    rw [same question (Template.mem_inPhase.mp member).1]
  simp only [counted]

/-- Where both sessions are in a phase or neither is, the status is the same as well. -/
theorem status_eq (begun : session.phase.isNone = other.phase.isNone) :
    session.status template = other.status template := by
  have all : (template.questions.all fun question => session.hasAnswer question.id) =
      template.questions.all fun question => other.hasAnswer question.id := by
    rw [Bool.eq_iff_iff, List.all_eq_true, List.all_eq_true]
    exact forall₂_congr fun question declared => by rw [same question declared]
  unfold Session.status
  rw [all, begun]

/-- Replies to the same question keep the coverage the same. -/
theorem record :
    SameCoverage template (session.record template protocol question given)
      (other.record template protocol question otherGiven) := by
  intro asked declared
  rw [Bool.eq_iff_iff, Session.hasAnswer_record, Session.hasAnswer_record, same asked declared]

end SameCoverage

/-! ## Sessions that go on in the same way -/

/-- Two sessions agree in all that decides how they go on: the current phase, the counters of
replies, and which questions of the template have an answer. -/
structure Alike (template : Template) (session other : Session) : Prop where
  phase : session.phase = other.phase
  asked : session.asked = other.asked
  askedInPhase : session.askedInPhase = other.askedInPhase
  coverage : SameCoverage template session other

/-- Two outcomes are alike: refusals for the same reason, or sessions that are alike. -/
inductive AlikeOutcome (template : Template) :
    Except Refusal Session → Except Refusal Session → Prop where
  | refused (refusal : Refusal) : AlikeOutcome template (.error refusal) (.error refusal)
  | accepted {session other : Session} (alike : Alike template session other) :
      AlikeOutcome template (.ok session) (.ok other)

/-- Going on from alike outcomes in alike ways gives alike outcomes. -/
theorem AlikeOutcome.bind {first second : Except Refusal Session}
    {go otherGo : Session → Except Refusal Session} (outcome : AlikeOutcome template first second)
    (onward : ∀ session other, Alike template session other →
      AlikeOutcome template (go session) (otherGo other)) :
    AlikeOutcome template (first.bind go) (second.bind otherGo) := by
  cases outcome with
  | refused refusal => exact .refused refusal
  | accepted alike => exact onward _ _ alike

namespace Alike

variable (alike : Alike template session other)
include alike

theorem openPhases_eq :
    session.openPhases template protocol = other.openPhases template protocol := by
  have same : ∀ phase, session.openFrom template protocol phase =
      other.openFrom template protocol phase := by
    intro phase
    rw [Session.openFrom, Session.openFrom, alike.coverage.isPhaseComplete_eq]
  unfold Session.openPhases
  rw [alike.phase, alike.coverage.nextQuestion_eq]
  simp only [same]

theorem refusal?_eq :
    session.refusal? template protocol question = other.refusal? template protocol question := by
  unfold Session.refusal?
  rw [alike.openPhases_eq, alike.asked]

theorem phaseOr_eq : session.phaseOr phase = other.phaseOr phase := by
  unfold Session.phaseOr
  rw [alike.phase]

/-- What is replied does not matter for the phase that the session moves on to. -/
theorem advance?_eq (given otherGiven : Reply) :
    session.advance? template protocol question given =
      other.advance? template protocol question otherGiven := by
  -- Whatever is replied, the question is answered afterwards, which is all that completion asks.
  have recorded : SameCoverage template (session.record template protocol question given)
      (other.record template protocol question otherGiven) := alike.coverage.record
  have complete := recorded.isPhaseComplete_eq question.phase
  rw [Session.record_answers, Session.record_answers] at complete
  rw [Session.advance?, Session.advance?, complete, alike.phaseOr_eq]

/-- Alike sessions stay alike after replies to the same question. -/
theorem record :
    Alike template (session.record template protocol question given)
      (other.record template protocol question otherGiven) where
  phase := by
    rw [Session.record_phase, Session.record_phase, alike.phaseOr_eq,
      alike.advance?_eq given otherGiven]
  asked := by rw [Session.record_asked, Session.record_asked, alike.asked]
  askedInPhase := by
    rw [Session.record_askedInPhase, Session.record_askedInPhase, alike.askedInPhase,
      alike.advance?_eq given otherGiven]
  coverage := alike.coverage.record

theorem reply (id : String) (given otherGiven : Reply) :
    AlikeOutcome template (session.reply template protocol id given)
      (other.reply template protocol id otherGiven) := by
  unfold Session.reply
  cases template.question? id with
  | none => exact .refused _
  | some question =>
      simp only [alike.refusal?_eq]
      cases other.refusal? template protocol question with
      | some refusal => exact .refused refusal
      | none => exact .accepted alike.record

/-- Where skips are allowed, any two replies to a question come out alike. -/
theorem perform (skippable : protocol.allowSkipping = true) (id : String)
    (given otherGiven : Reply) :
    AlikeOutcome template (session.perform template protocol (.reply id given))
      (other.perform template protocol (.reply id otherGiven)) := by
  rw [Session.perform_reply fun _ => skippable, Session.perform_reply fun _ => skippable]
  exact alike.reply id given otherGiven

/-- Whole runs of replies to the same questions come out alike. -/
theorem replyAll (skippable : protocol.allowSkipping = true)
    (sameIds : replies.map Prod.fst = otherReplies.map Prod.fst) :
    AlikeOutcome template (session.replyAll template protocol replies)
      (other.replyAll template protocol otherReplies) := by
  induction replies generalizing session other otherReplies with
  | nil =>
      cases otherReplies with
      | nil => exact .accepted alike
      | cons first rest => cases sameIds
  | cons given replies ih =>
      cases otherReplies with
      | nil => cases sameIds
      | cons otherGiven otherReplies =>
          rcases List.cons.inj sameIds with ⟨sameId, sameIds⟩
          rw [Session.replyAll_cons, Session.replyAll_cons, sameId]
          apply (alike.perform skippable otherGiven.1 given.2 otherGiven.2).bind
          intro next otherNext nextAlike
          exact ih nextAlike sameIds

end Alike

/-! ## Main result -/

/-- Where skips are allowed, sessions that differ only in values, skip marks, answers to foreign
questions, follow-ups and digressions answer every query in the same way. Whatever is replied to a
question in the one and in the other, both refuse it for the same reason or both accept it and are
alike again, and so it is with every run of replies to the same questions. -/
theorem course_depends_on_coverage (skippable : protocol.allowSkipping = true)
    (alike : Alike template session other) :
    session.nextQuestion template = other.nextQuestion template ∧
      session.status template = other.status template ∧
      session.progress template = other.progress template ∧
      session.openPhases template protocol = other.openPhases template protocol ∧
      (∀ id given otherGiven,
        AlikeOutcome template (session.perform template protocol (.reply id given))
          (other.perform template protocol (.reply id otherGiven))) ∧
      ∀ replies otherReplies, replies.map Prod.fst = otherReplies.map Prod.fst →
        AlikeOutcome template (session.replyAll template protocol replies)
          (other.replyAll template protocol otherReplies) := by
  refine ⟨alike.coverage.nextQuestion_eq, ?_, alike.coverage.progress_eq, alike.openPhases_eq,
    alike.perform skippable, ?_⟩
  · exact alike.coverage.status_eq (by rw [alike.phase])
  · intro replies otherReplies sameIds
    exact alike.replyAll skippable sameIds

theorem course_depends_on_coverage_sample :
    ∃ session other,
      (Session.start "s").replyAll .sample .sample [("name", .answer (.text "Ann"))] =
        .ok session ∧
      { Session.start "t" with answers := Entries.empty.put "stale" .null, drifts := 1 }.replyAll
        .sample .sample [("name", .skip)] = .ok other ∧
      Protocol.sample.allowSkipping = true ∧ Alike .sample session other ∧
      AlikeOutcome .sample
        (session.replyAll .sample .sample [("often", .skip), ("pain", .answer (.bool false))])
        (other.replyAll .sample .sample [("often", .answer .null), ("pain", .skip)]) := by
  refine ⟨_, _, rfl, rfl, rfl, ?alike,
    (course_depends_on_coverage rfl ?alike).2.2.2.2.2 _ _ rfl⟩
  exact ⟨rfl, rfl, rfl, by decide⟩

end Interview
