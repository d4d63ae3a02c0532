import Interview.Proofs.Session.Strict

/-!
# Where a strict session stands, and what it leaves behind

Main results on strict sessions. After the first reply, the current phase, the open phases and the
counter of a session are determined by the answers and the calls made. A phase that was left never
becomes the current one again, and what was recorded in it stays as it was.
-/

namespace Interview

variable {template : Template} {protocol : Protocol} {session next later : Session}
variable {calls more : List Call} {call : Call} {id phase : String}

/-- After the first reply a strict session is in the phase that the walk from the opening phase
leads to. The phases passed are fully answered, no answer lies beyond the current phase, the gate
is open for the current phase alone, and the counter tells the replies in it. -/
theorem strict_position (checked : template.IsChecked) (sound : protocol.IsChecked)
    (strict : protocol.strictPhases = true)
    (run : (Session.start id).performAll template protocol calls = .ok session)
    (replied : calls.any Call.isReply = true) :
    ∃ opening passed current,
      template.openingPhase? = some opening ∧ session.phase = some current ∧
      Walk template protocol session.answers opening passed current ∧
      (∀ question ∈ template.questions, question.phase ∈ passed →
        session.hasAnswer question.id) ∧
      (∀ id, session.hasAnswer id →
        ∃ question, template.question? id = some question ∧
          question.phase ∈ passed ++ [current]) ∧
      session.openPhases template protocol = [current] ∧
      session.askedInPhase = calls.countP (Call.repliesIn template current) := by
  rcases Session.exists_question_of_replied run replied with ⟨question, declared⟩
  rcases checked.openingPhase?_isSome declared with ⟨opening, opens⟩
  rcases OnCourse.of_run checked sound strict opens run with ⟨passed, current, course⟩
  refine ⟨opening, passed, current, opens, ?_, ?_, ?_, course.answered,
    course.openPhases_eq opens, course.counted⟩
  · simpa [replied] using course.phase
  · exact .of_chain course.chain course.complete course.waits course.start
  · intro question declared behind
    exact (isPhaseComplete_iff.mp (course.complete _ behind)).2 question declared rfl

theorem strict_position_sample :
    ∃ session,
      (Session.start "s").performAll .sample .sample
          [.reply "name" (.answer (.text "Ann")), .drift, .reply "often" .skip] =
        .ok session ∧
      ∃ opening passed current,
        Template.sample.openingPhase? = some opening ∧ session.phase = some current ∧
        Walk .sample .sample session.answers opening passed current ∧
        (∀ question ∈ Template.sample.questions, question.phase ∈ passed →
          session.hasAnswer question.id) ∧
        (∀ id, session.hasAnswer id →
          ∃ question, Template.sample.question? id = some question ∧
            question.phase ∈ passed ++ [current]) ∧
        session.openPhases .sample .sample = [current] ∧
        session.askedInPhase =
          [Call.reply "name" (.answer (.text "Ann")), .drift, .reply "often" .skip].countP
            (Call.repliesIn .sample current) :=
  ⟨_, rfl, strict_position Template.sample_isChecked Protocol.sample_isChecked rfl rfl rfl⟩

/-- The phase that a strict call is made from: the current one or, at the first reply, that of the
question. -/
theorem OnCourse.current_eq {passed : List String} {current opening : String}
    (course : OnCourse template protocol opening calls session passed current)
    (strict : protocol.strictPhases = true) (opens : template.openingPhase? = some opening)
    (accepted : session.perform template protocol call = .ok next)
    (leaves : session.phase = some phase ∨ call.repliesIn template phase = true) :
    phase = current := by
  rcases leaves with current | replies
  · rw [course.phase] at current
    split at current <;> cases current
    rfl
  · rcases Session.perform_ok_cases accepted with
      ⟨id, reply, question, rfl, -, found, admitted, -⟩ | ⟨rfl, -, -⟩ | ⟨rfl, -, -⟩
    · have belongs : question.phase = phase := by simpa [Call.repliesIn, found] using replies
      exact belongs.symm.trans (course.phase_eq_of_admitted opens strict admitted)
    · simp [Call.repliesIn] at replies
    · simp [Call.repliesIn] at replies

/-- Once a strict session has left a phase, be it that it was its current phase or that the first
reply began in it, that phase never becomes current again, and no later call changes the answer or
the skip mark of a question in it. -/
theorem left_phase_is_final (checked : template.IsChecked) (sound : protocol.IsChecked)
    (strict : protocol.strictPhases = true)
    (before : (Session.start id).performAll template protocol calls = .ok session)
    (accepted : session.perform template protocol call = .ok next)
    (after : next.performAll template protocol more = .ok later)
    (leaves : session.phase = some phase ∨ call.repliesIn template phase = true)
    (left : next.phase ≠ some phase) :
    later.phase ≠ some phase ∧
      ∀ question ∈ template.questions, question.phase = phase →
        later.answers.find? question.id = next.answers.find? question.id ∧
          (question.id ∈ later.skipped ↔ question.id ∈ next.skipped) := by
  have run : (Session.start id).performAll template protocol (calls ++ [call]) = .ok next :=
    Session.performAll_append_eq_ok.mpr
      ⟨session, before, Session.performAll_cons_eq_ok.mpr ⟨next, accepted, rfl⟩⟩
  have replied : (calls ++ [call]).any Call.isReply = true := by
    rcases leaves with current | replies
    · have begun := Session.performAll_phase_isSome before
      simp_all [Session.start]
    · simp [Call.isReply_of_repliesIn replies]
  rcases Session.exists_question_of_replied run replied with ⟨question, declared⟩
  rcases checked.openingPhase?_isSome declared with ⟨opening, opens⟩
  rcases OnCourse.of_run checked sound strict opens before with ⟨passed, current, course⟩
  obtain rfl := course.current_eq strict opens accepted leaves
  rcases course.perform checked sound strict opens accepted with stayed | ⟨_, moved⟩
  · exact absurd (by simpa [replied] using stayed.phase) left
  · obtain ⟨laterPassed, laterCurrent, reached, further, kept⟩ :=
      moved.performAll checked sound strict opens after
    have behind : phase ∈ laterPassed := further.subset (by simp)
    constructor
    · intro again
      rw [reached.phase] at again
      split at again <;> cases again
      exact reached.ne_current sound.phases_nodup behind rfl
    · intro question declared belongs
      exact kept question declared (by simp [belongs])

theorem left_phase_is_final_sample :
    ∃ session next later,
      (Session.start "s").performAll .sample .sample
          [.reply "name" (.answer (.text "Ann")), .reply "pain" .skip] = .ok session ∧
      session.perform .sample .sample (.reply "often" (.answer (.text "daily"))) = .ok next ∧
      next.performAll .sample .sample [.followUp, .drift] = .ok later ∧
      session.phase = some "discover" ∧ next.phase = some "close" ∧
      later.phase ≠ some "discover" ∧
      ∀ question ∈ Template.sample.questions, question.phase = "discover" →
        later.answers.find? question.id = next.answers.find? question.id ∧
          (question.id ∈ later.skipped ↔ question.id ∈ next.skipped) := by
  refine ⟨_, _, _, rfl, rfl, rfl, rfl, rfl, ?_⟩
  refine left_phase_is_final Template.sample_isChecked Protocol.sample_isChecked rfl
    (?before : (Session.start "s").performAll .sample .sample
      [.reply "name" (.answer (.text "Ann")), .reply "pain" .skip] = .ok ?session)
    (?accepted : Session.perform ?session .sample .sample
      (.reply "often" (.answer (.text "daily"))) = .ok _)
    (?after : Session.performAll _ .sample .sample [.followUp, .drift] = .ok _)
    (.inl ?current) (by decide)
  case before => rfl
  case accepted => rfl
  case after => rfl
  case current => rfl

end Interview
