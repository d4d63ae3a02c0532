import Interview.Proofs.Session.Advance
import Interview.Proofs.Session.Coverage

/-!
# Replies in another order

Replies to different questions can come in more than one order. What they add to a session, as
`Adds` says it, does not mention the order: each question has the answer and the mark of its reply,
everything else is as it was, and the replies are counted. Where phases are enforced, a session from
the start is moreover in the phase that its answers lead to, however it came there. Where they are
not, no order is refused.
-/

namespace Interview

variable {template : Template} {protocol : Protocol} {question : Question} {reply : Reply}
variable {session other first second later : Session} {id : String}
variable {replies rearranged : List (String × Reply)}

/-! ## What replies add to a session -/

/-- Between two sessions, replies to different questions were recorded and nothing else. -/
structure Adds (replies : List (String × Reply)) (session later : Session) : Prop where
  given : ∀ id reply, (id, reply) ∈ replies →
    later.answers.find? id = some reply.value ∧ (id ∈ later.skipped ↔ reply = .skip)
  kept : ∀ id, id ∉ replies.map Prod.fst →
    later.answers.find? id = session.answers.find? id ∧
      (id ∈ later.skipped ↔ id ∈ session.skipped)
  asked : later.asked = session.asked + replies.length
  followups : later.followups = session.followups
  drifts : later.drifts = session.drifts

/-- Two sessions hold the same answers and marks and have the same counters, except for that of the
current phase. Answers may stand in different orders. -/
structure SameContent (session other : Session) : Prop where
  answers : ∀ id, session.answers.find? id = other.answers.find? id
  skipped : ∀ id, id ∈ session.skipped ↔ id ∈ other.skipped
  asked : session.asked = other.asked
  followups : session.followups = other.followups
  drifts : session.drifts = other.drifts

namespace Adds

theorem nil : Adds [] session session where
  given := by simp
  kept _ _ := ⟨rfl, Iff.rfl⟩
  asked := by simp
  followups := rfl
  drifts := rfl

/-- A reply and then replies to other questions: these leave its answer as it is. -/
theorem cons (fresh : question.id ∉ replies.map Prod.fst)
    (adds : Adds replies (session.record template protocol question reply) later) :
    Adds ((question.id, reply) :: replies) session later where
  given id given member := by
    rcases List.mem_cons.mp member with head | tail
    · cases head
      rcases adds.kept question.id fresh with ⟨answer, mark⟩
      rw [answer, mark, Session.record_answers, Session.record_skipped, Entries.find?_put_self,
        mem_skippedAfter_self]
      exact ⟨rfl, Iff.rfl⟩
    · exact adds.given id given tail
  kept id absent := by
    simp only [List.map_cons, List.mem_cons, not_or] at absent
    rcases adds.kept id absent.2 with ⟨answer, mark⟩
    rw [answer, mark, Session.record_answers, Session.record_skipped,
      Entries.find?_put_of_ne (Ne.symm absent.1), Session.mem_skippedAfter_of_ne absent.1]
    exact ⟨rfl, Iff.rfl⟩
  asked := by
    rw [adds.asked, Session.record_asked, List.length_cons]
    omega
  followups := adds.followups
  drifts := adds.drifts

/-- A run of replies to different questions adds just these. -/
theorem of_run (distinct : (replies.map Prod.fst).Nodup)
    (run : session.replyAll template protocol replies = .ok later) : Adds replies session later := by
  -- From the first reply on: those after it are to other questions and keep what it wrote.
  induction replies generalizing session with
  | nil =>
      cases run
      exact nil
  | cons given replies ih =>
      rcases List.nodup_cons.mp distinct with ⟨fresh, distinct⟩
      rcases Session.performAll_cons_eq_ok.mp run with ⟨next, accepted, rest⟩
      obtain ⟨question, found, -, rfl⟩ := Session.perform_reply_ok accepted
      obtain ⟨-, same⟩ := Template.mem_of_question? found
      have added := cons (same ▸ fresh) (ih distinct rest)
      rwa [same] at added

theorem perm (adds : Adds replies session later) (order : rearranged.Perm replies) :
    Adds rearranged session later where
  given id reply member := adds.given id reply (order.mem_iff.mp member)
  kept id absent := adds.kept id fun member => absent ((order.map Prod.fst).mem_iff.mpr member)
  asked := by rw [adds.asked, order.length_eq]
  followups := adds.followups
  drifts := adds.drifts

/-- What replies add to a session determines its content. -/
theorem sameContent (adds : Adds replies session first) (again : Adds replies session second) :
    SameContent first second := by
  have agree : ∀ id, first.answers.find? id = second.answers.find? id ∧
      (id ∈ first.skipped ↔ id ∈ second.skipped) := by
    intro id
    by_cases replied : id ∈ replies.map Prod.fst
    · rcases List.mem_map.mp replied with ⟨⟨_, reply⟩, member, rfl⟩
      rcases adds.given _ reply member with ⟨answer, mark⟩
      rcases again.given _ reply member with ⟨otherAnswer, otherMark⟩
      exact ⟨answer.trans otherAnswer.symm, mark.trans otherMark.symm⟩
    · rcases adds.kept id replied with ⟨answer, mark⟩
      rcases again.kept id replied with ⟨otherAnswer, otherMark⟩
      exact ⟨answer.trans otherAnswer.symm, mark.trans otherMark.symm⟩
  exact
    { answers := fun id => (agree id).1
      skipped := fun id => (agree id).2
      asked := adds.asked.trans again.asked.symm
      followups := adds.followups.trans again.followups.symm
      drifts := adds.drifts.trans again.drifts.symm }

end Adds

namespace SameContent

variable (same : SameContent session other)
include same

theorem coverage : SameCoverage template session other := by
  intro question _
  exact congrArg Option.isSome (same.answers question.id)

theorem history_eq : session.history template = other.history template := by
  refine List.filterMap_congr fun question _ => ?_
  have marked : session.skipped.contains question.id = other.skipped.contains question.id := by
    rw [Bool.eq_iff_iff, List.contains_iff_mem, List.contains_iff_mem]
    exact same.skipped question.id
  rw [same.answers, marked]

end SameContent

/-- After replies in two orders, both sessions are in a phase or neither is. -/
theorem phase_isNone_eq (order : rearranged.Perm replies)
    (run : session.replyAll template protocol replies = .ok first)
    (again : session.replyAll template protocol rearranged = .ok second) :
    first.phase.isNone = second.phase.isNone := by
  have calls := order.map fun given => Call.reply given.1 given.2
  rw [← Option.not_isSome, ← Option.not_isSome, Session.performAll_phase_isSome run,
    Session.performAll_phase_isSome again, calls.any_eq]

/-! ## Strict sessions from the start -/

/-- Two strict sessions on course with the same coverage are in the same phase. -/
theorem OnCourse.current_eq_of_coverage {opening current otherCurrent : String}
    {passed otherPassed : List String} {calls otherCalls : List Call}
    (course : OnCourse template protocol opening calls session passed current)
    (otherCourse : OnCourse template protocol opening otherCalls other otherPassed otherCurrent)
    (same : SameCoverage template session other) : current = otherCurrent := by
  have walk : Walk template protocol other.answers opening passed current :=
    course.walk.congr same.isPhaseComplete_eq
  exact (walk.unique otherCourse.walk).2

/-- Two strict runs of the same replies from a new session end in the same phase and count the same
replies in it. -/
theorem strict_position_eq (checked : template.IsChecked) (sound : protocol.IsChecked)
    (strict : protocol.strictPhases = true) (order : rearranged.Perm replies)
    (run : (Session.start id).replyAll template protocol replies = .ok first)
    (again : (Session.start id).replyAll template protocol rearranged = .ok second)
    (same : SameCoverage template first second) :
    first.phase = second.phase ∧ first.askedInPhase = second.askedInPhase := by
  -- Without replies both sessions are the new one. With some there is a question, so that the
  -- template has an opening phase and both runs are on course from it.
  cases replies with
  | nil =>
      cases order.eq_nil
      cases run.symm.trans again
      exact ⟨rfl, rfl⟩
  | cons given replies =>
      have calls := order.symm.map fun given => Call.reply given.1 given.2
      rcases Session.exists_question_of_replied run (by simp [Call.isReply]) with
        ⟨question, declared⟩
      rcases checked.openingPhase?_isSome declared with ⟨opening, opens⟩
      rcases OnCourse.of_run checked sound strict opens run with ⟨passed, current, course⟩
      rcases OnCourse.of_run checked sound strict opens again with ⟨_, _, otherCourse⟩
      obtain rfl := course.current_eq_of_coverage otherCourse same
      rw [course.phase, otherCourse.phase, course.counted, otherCourse.counted]
      exact ⟨by rw [calls.any_eq], by rw [calls.countP_eq]⟩

/-! ## Sessions that are not strict -/

/-- Where phases are not enforced, replies are accepted as long as their questions are declared,
the limit leaves room for them, and those that skip may do so. -/
theorem exists_replyAll (free : protocol.strictPhases = false)
    (room : session.asked + replies.length ≤ protocol.maxQuestions)
    (skippable : ∀ given ∈ replies, given.2 = .skip → protocol.allowSkipping = true)
    (declared : ∀ given ∈ replies, template.declares given.1 = true) :
    ∃ later, session.replyAll template protocol replies = .ok later := by
  induction replies generalizing session with
  | nil => exact ⟨session, Session.replyAll_nil⟩
  | cons given replies ih =>
      rw [List.forall_mem_cons] at skippable declared
      rw [List.length_cons] at room
      rcases Template.exists_question?_of_declares declared.1 with ⟨question, found⟩
      have admitted : session.refusal? template protocol question = none :=
        Session.refusal?_eq_none.mpr ⟨by simp [free], by omega⟩
      have accepted : session.perform template protocol (.reply given.1 given.2) =
          .ok (session.record template protocol question given.2) := by
        rw [Session.perform_reply skippable.1]
        exact Session.reply_eq_ok.mpr ⟨question, found, admitted, rfl⟩
      rw [Session.replyAll_cons, accepted]
      refine ih ?_ skippable.2 declared.2
      rw [Session.record_asked]
      omega

/-! ## Main result -/

/-- Replies to different questions, accepted in two orders from the same session, lead to the same
answers, marks and counts, and so to the same next question, progress, history and status. A strict
session from the start is also in the same phase, with the same count in it. And where phases are
not enforced, every order of replies that are possible at all is accepted. -/
theorem order_of_replies_is_immaterial (checked : template.IsChecked) (sound : protocol.IsChecked)
    (session : Session) (distinct : (replies.map Prod.fst).Nodup)
    (order : rearranged.Perm replies) :
    (∀ first second, session.replyAll template protocol replies = .ok first →
      session.replyAll template protocol rearranged = .ok second →
        SameContent first second ∧
        first.nextQuestion template = second.nextQuestion template ∧
        first.progress template = second.progress template ∧
        first.history template = second.history template ∧
        first.status template = second.status template ∧
        (protocol.strictPhases = true → (∃ id, session = Session.start id) →
          first.phase = second.phase ∧ first.askedInPhase = second.askedInPhase)) ∧
    (protocol.strictPhases = false →
      session.asked + replies.length ≤ protocol.maxQuestions →
      (∀ given ∈ replies, given.2 = .skip → protocol.allowSkipping = true) →
      (∀ given ∈ replies, template.declares given.1 = true) →
        ∃ later, session.replyAll template protocol rearranged = .ok later) := by
  constructor
  · intro first second run again
    have adds : Adds rearranged session first := (Adds.of_run distinct run).perm order
    have addsAgain : Adds rearranged session second :=
      Adds.of_run ((order.map Prod.fst).nodup_iff.mpr distinct) again
    have same : SameContent first second := adds.sameContent addsAgain
    refine ⟨same, same.coverage.nextQuestion_eq, same.coverage.progress_eq, same.history_eq,
      same.coverage.status_eq (phase_isNone_eq order run again), ?_⟩
    rintro strict ⟨id, rfl⟩
    exact strict_position_eq checked sound strict order run again same.coverage
  · intro free room skippable declared
    apply exists_replyAll free
    · rwa [order.length_eq]
    · exact fun given member => skippable given (order.mem_iff.mp member)
    · exact fun given member => declared given (order.mem_iff.mp member)

theorem order_of_replies_is_immaterial_sample :
    (∃ first second,
      (Session.start "s").replyAll .sample .sample
        [("name", .answer (.text "Ann")), ("pain", .skip), ("often", .answer (.text "daily"))] =
          .ok first ∧
      (Session.start "s").replyAll .sample .sample
        [("name", .answer (.text "Ann")), ("often", .answer (.text "daily")), ("pain", .skip)] =
          .ok second ∧
      SameContent first second ∧ first.phase = second.phase ∧
        first.askedInPhase = second.askedInPhase) ∧
    ∃ later,
      (Session.start "s").replyAll .sample .free [("often", .skip), ("name", .skip)] =
        .ok later := by
  constructor
  · refine ⟨_, _, rfl, rfl, ?_⟩
    have order := List.Perm.cons ("name", Reply.answer (.text "Ann"))
      (List.Perm.swap ("pain", Reply.skip) ("often", .answer (.text "daily")) [])
    obtain ⟨agree, -⟩ := order_of_replies_is_immaterial Template.sample_isChecked
      Protocol.sample_isChecked (Session.start "s") (by decide) order
    obtain ⟨same, -, -, -, -, position⟩ := agree _ _ rfl rfl
    exact ⟨same, position rfl ⟨"s", rfl⟩⟩
  · obtain ⟨-, accepted⟩ := order_of_replies_is_immaterial Template.sample_isChecked
      Protocol.free_isChecked (Session.start "s") (by decide)
      (List.Perm.swap ("name", Reply.skip) ("often", Reply.skip) [])
    exact accepted rfl (by decide) (fun _ _ _ => rfl) (by decide)

end Interview
