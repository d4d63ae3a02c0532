import Interview.Proofs.Session.Log
import Interview.Proofs.Session.Position

/-!
# How the current phase moves

With or without enforced phases, a reply moves a session on by one phase of the protocol or not at
all, as long as the current phase has a name; a phase without a name counts as none when a reply is
recorded. A reply to a question that has an answer moves the session on as well, if the phase of the
question is complete and the session may go on. Only where phases are enforced can that not happen,
for there a session does not stay in a complete phase that another one follows.
-/

namespace Interview

variable {template : Template} {protocol : Protocol} {session next later : Session}
variable {question : Question} {reply : Reply} {call : Call} {calls more : List Call}
variable {id sessionId phase other : String} {value : Value}

namespace Session

/-- A current phase with a name is the one that a reply is made from. -/
theorem phaseOr_of_named (standing : session.phase = some phase) (named : phase ≠ "") :
    session.phaseOr other = phase := by
  simp [phaseOr, standing, named]

/-- Where phases are enforced, no reply is admitted from a phase without a name. -/
theorem named_of_admitted (checked : template.IsChecked) (strict : protocol.strictPhases = true)
    (standing : session.phase = some phase) (declared : question ∈ template.questions)
    (admitted : session.refusal? template protocol question = none) : phase ≠ "" := by
  rintro rfl
  have opened := (refusal?_eq_none.mp admitted).1 strict
  have incomplete : ¬ isPhaseComplete template session.answers "" := by
    intro complete
    rcases exists_answered_of_complete complete with ⟨other, otherDeclared, belongs, -⟩
    exact checked.phase_ne_empty otherDeclared belongs
  have only : session.openPhases template protocol = [""] := by
    simp [openPhases, openFrom, standing, incomplete]
  rw [only, List.mem_singleton] at opened
  exact checked.phase_ne_empty declared opened

/-- From a named phase, or where phases are enforced, an accepted call leaves the session in its
phase or moves it to the one after it. -/
theorem phase_of_perform (checked : template.IsChecked) (standing : session.phase = some phase)
    (settled : protocol.strictPhases = true ∨ phase ≠ "")
    (accepted : session.perform template protocol call = .ok next) :
    next.phase = some phase ∨
      ∃ further, protocol.nextPhase phase = some further ∧ next.phase = some further := by
  rcases perform_ok_cases accepted with
    ⟨id, reply, question, rfl, -, found, admitted, rfl⟩ | ⟨rfl, -, rfl⟩ | ⟨rfl, -, rfl⟩
  · have named : phase ≠ "" := by
      rcases settled with strict | named
      · have declared := (Template.mem_of_question? found).1
        exact named_of_admitted checked strict standing declared admitted
      · exact named
    rw [record_phase, phaseOr_of_named standing named]
    cases moved : session.advance? template protocol question reply with
    | none => exact .inl rfl
    | some further =>
        have successor := nextPhase_of_advance? moved
        rw [phaseOr_of_named standing named] at successor
        exact .inr ⟨further, successor, rfl⟩
  · exact .inl standing
  · exact .inl standing

/-- The phase that a reply is made from is the current one or that of its question. -/
theorem phaseOr_mem {phases : List String}
    (inside : ∀ current, session.phase = some current → current ∈ phases)
    (member : other ∈ phases) : session.phaseOr other ∈ phases := by
  unfold phaseOr
  split
  next current standing =>
      split
      · exact member
      · exact inside current standing
  next => exact member

/-- If the protocol has all phases of the template, a session stands in a phase of the protocol. -/
theorem phase_mem_of_run (checked : template.IsChecked) (within : template.phases ⊆ protocol.phases)
    (run : (Session.start id).performAll template protocol calls = .ok session) :
    ∀ phase, session.phase = some phase → phase ∈ protocol.phases := by
  refine performAll_induction
    (motive := fun session => ∀ phase, session.phase = some phase → phase ∈ protocol.phases)
    (by simp [Session.start]) ?step run
  case step =>
    intro call session next inside accepted phase standing
    rcases perform_ok_cases accepted with
      ⟨id, reply, question, rfl, -, found, -, rfl⟩ | ⟨rfl, -, rfl⟩ | ⟨rfl, -, rfl⟩
    · rw [record_phase, Option.some.injEq] at standing
      subst standing
      cases moved : session.advance? template protocol question reply with
      | none =>
          have declared := (Template.mem_of_question? found).1
          exact phaseOr_mem inside (within (checked.phase_mem declared))
      | some further => exact Protocol.mem_of_nextPhase (nextPhase_of_advance? moved)
    · exact inside phase standing
    · exact inside phase standing

/-- A session with answers is in a phase. -/
theorem phase_of_answered
    (run : (Session.start sessionId).performAll template protocol calls = .ok session)
    (answered : session.hasAnswer id) : ∃ phase, session.phase = some phase := by
  have records := Records.of_run run
  rcases records.hasAnswer_iff.mp answered with ⟨reply, member⟩
  rw [← Option.ne_none_iff_exists']
  intro outside
  rw [records.phase.mp outside] at member
  cases member

end Session

/-! ## Replies to answered questions -/

/-- From a named phase, a reply to a question that has an answer leaves the session in its phase
exactly when the phase of the question is not complete or the current phase is the last one. What
counts is that the phase is complete, not that it was completed just now. -/
theorem record_phase_eq_iff (sound : protocol.IsChecked) (standing : session.phase = some phase)
    (named : phase ≠ "") (answered : session.hasAnswer question.id) :
    (session.record template protocol question reply).phase = some phase ↔
      (isPhaseComplete template session.answers question.phase →
        protocol.nextPhase phase = none) := by
  have moves : session.advance? template protocol question reply =
      if isPhaseComplete template session.answers question.phase then protocol.nextPhase phase
      else none := by
    simp only [Session.advance?, isPhaseComplete_put_of_answered answered,
      Session.phaseOr_of_named standing named]
  rw [Session.record_phase, Session.phaseOr_of_named standing named, moves]
  by_cases complete : isPhaseComplete template session.answers question.phase
  · cases successor : protocol.nextPhase phase with
    | none => simp
    | some further =>
        have differs := Protocol.ne_of_nextPhase sound.phases_nodup successor
        simp [complete, differs]
  · simp [complete]

/-- A strict session does not move on at a reply to a question that has an answer: it would have
left the phase before, had that been complete and not the last. -/
theorem OnCourse.advance?_of_answered {opening : String} {passed : List String}
    (course : OnCourse template protocol opening calls session passed phase)
    (belongs : question.phase = phase) (answered : session.hasAnswer question.id) :
    session.advance? template protocol question reply = none := by
  rw [course.advance?_eq belongs]
  split
  next complete => exact course.waits ((isPhaseComplete_put_of_answered answered).mp complete)
  next => rfl

/-! ## The position of the current phase -/

section

variable (checked : template.IsChecked) (sound : protocol.IsChecked)
include checked sound

/-- An accepted call does not lower the position of the current phase, and raises it by one at
most. -/
theorem idxOf_phase_of_perform (standing : session.phase = some phase)
    (settled : protocol.strictPhases = true ∨ phase ≠ "") (inside : phase ∈ protocol.phases)
    (accepted : session.perform template protocol call = .ok next) :
    ∃ further, next.phase = some further ∧ further ∈ protocol.phases ∧
      protocol.phases.idxOf phase ≤ protocol.phases.idxOf further ∧
      protocol.phases.idxOf further ≤ protocol.phases.idxOf phase + 1 := by
  rcases Session.phase_of_perform checked standing settled accepted with
    stayed | ⟨further, successor, moved⟩
  · exact ⟨phase, stayed, inside, Nat.le_refl _, Nat.le_succ _⟩
  · have position := Protocol.idxOf_nextPhase sound.phases_nodup successor
    refine ⟨further, moved, Protocol.mem_of_nextPhase successor, ?_, ?_⟩
    · rw [position]
      exact Nat.le_succ _
    · rw [position]

/-- Along a run the position of the current phase never falls, where phases are enforced or all
have a name. -/
theorem idxOf_phase_of_performAll (standing : session.phase = some phase)
    (settled : protocol.strictPhases = true ∨ "" ∉ protocol.phases)
    (inside : phase ∈ protocol.phases)
    (run : session.performAll template protocol more = .ok later) :
    ∃ further, later.phase = some further ∧ further ∈ protocol.phases ∧
      protocol.phases.idxOf phase ≤ protocol.phases.idxOf further := by
  refine Session.performAll_induction
    (motive := fun session => ∃ further, session.phase = some further ∧
      further ∈ protocol.phases ∧ protocol.phases.idxOf phase ≤ protocol.phases.idxOf further)
    ⟨phase, standing, inside, Nat.le_refl _⟩ ?step run
  case step =>
    rintro call session next ⟨current, standing, inside, above⟩ accepted
    have named := settled.imp_right fun absent => ne_of_mem_of_not_mem inside absent
    obtain ⟨further, reached, member, rises, -⟩ :=
      idxOf_phase_of_perform checked sound standing named inside accepted
    exact ⟨further, reached, member, Nat.le_trans above rises⟩

end

/-! ## Main results -/

/-- If the protocol has all phases of the template, then once a session is in a phase, it stays in
the phases of the protocol. No call lowers the position of the current phase or raises it by more
than one, where phases are enforced or the current one has a name; and where phases are enforced or
all have a name, the position never falls along a run. -/
theorem position_never_falls (checked : template.IsChecked) (sound : protocol.IsChecked)
    (within : template.phases ⊆ protocol.phases)
    (before : (Session.start id).performAll template protocol calls = .ok session)
    (standing : session.phase = some phase) :
    phase ∈ protocol.phases ∧
      (protocol.strictPhases = true ∨ phase ≠ "" →
        ∀ call next, session.perform template protocol call = .ok next →
          ∃ further, next.phase = some further ∧ further ∈ protocol.phases ∧
            protocol.phases.idxOf phase ≤ protocol.phases.idxOf further ∧
            protocol.phases.idxOf further ≤ protocol.phases.idxOf phase + 1) ∧
      (protocol.strictPhases = true ∨ "" ∉ protocol.phases →
        ∀ more later, session.performAll template protocol more = .ok later →
          ∃ further, later.phase = some further ∧ further ∈ protocol.phases ∧
            protocol.phases.idxOf phase ≤ protocol.phases.idxOf further) := by
  have inside := Session.phase_mem_of_run checked within before phase standing
  refine ⟨inside, ?_, ?_⟩
  · intro settled call next accepted
    exact idxOf_phase_of_perform checked sound standing settled inside accepted
  · intro settled more later run
    exact idxOf_phase_of_performAll checked sound standing settled inside run

/-- The sample without enforced phases. -/
def Protocol.free : Protocol :=
  { Protocol.sample with strictPhases := false }

theorem Protocol.free_isChecked : Protocol.free.IsChecked :=
  { Protocol.sample_isChecked with }

theorem position_never_falls_sample :
    ∃ session next,
      (Session.start "s").performAll .sample .free [.reply "pain" (.answer (.text "Queues"))] =
        .ok session ∧
      session.perform .sample .free (.reply "name" (.answer (.text "Ann"))) = .ok next ∧
      session.phase = some "discover" ∧
      ∃ further, next.phase = some further ∧ further ∈ Protocol.free.phases ∧
        Protocol.free.phases.idxOf "discover" ≤ Protocol.free.phases.idxOf further ∧
        Protocol.free.phases.idxOf further ≤ Protocol.free.phases.idxOf "discover" + 1 := by
  refine ⟨_, _, rfl, rfl, rfl, ?_⟩
  have before : (Session.start "s").performAll .sample .free
      [.reply "pain" (.answer (.text "Queues"))] = .ok _ := rfl
  obtain ⟨-, rises, -⟩ := position_never_falls Template.sample_isChecked Protocol.free_isChecked
    (by decide) before rfl
  exact rises (.inr (by decide)) (.reply "name" (.answer (.text "Ann"))) _ rfl

/-- A free protocol in which a phase without a name comes before the last one. -/
def Protocol.nameless : Protocol :=
  { Protocol.free with phases := ["discover", "greet", "", "close"] }

theorem Protocol.nameless_isChecked : Protocol.nameless.IsChecked :=
  { Protocol.free_isChecked with
    phases_ne_nil := by decide
    phases_nodup := by decide }

/-- A free session does fall back from a phase without a name: the next reply begins anew in the
phase of its question. -/
theorem position_falls_from_nameless :
    ¬ ∀ (template : Template) (protocol : Protocol) (id : String) (calls : List Call)
      (session : Session) (phase : String) (call : Call) (next : Session),
        template.IsChecked → protocol.IsChecked → template.phases ⊆ protocol.phases →
          (Session.start id).performAll template protocol calls = .ok session →
            session.phase = some phase → session.perform template protocol call = .ok next →
              ∃ further, next.phase = some further ∧
                protocol.phases.idxOf phase ≤ protocol.phases.idxOf further := by
  intro claim
  obtain ⟨further, reached, rises⟩ := claim .sample .nameless "s"
    [.reply "name" (.answer (.text "Ann"))] _ "" (.reply "pain" (.answer (.text "Queues"))) _
    Template.sample_isChecked Protocol.nameless_isChecked (by decide) rfl rfl rfl
  cases reached
  exact absurd rises (by decide)

/-- An answer to a question that has one leaves the current phase as it is where phases are
enforced. Where they are not, it does so from a named phase exactly when the phase of the question
is not complete or the current phase is the last one. -/
theorem repeated_answer_keeps_phase_iff (checked : template.IsChecked)
    (sound : protocol.IsChecked)
    (before : (Session.start sessionId).performAll template protocol calls = .ok session)
    (answered : session.hasAnswer id = true)
    (accepted : session.answer template protocol id value = .ok next) :
    ∃ current question, session.phase = some current ∧ template.question? id = some question ∧
      (protocol.strictPhases = true → next.phase = some current) ∧
      (current ≠ "" → (next.phase = some current ↔
        (isPhaseComplete template session.answers question.phase →
          protocol.nextPhase current = none))) := by
  rcases Session.reply_eq_ok.mp accepted with ⟨question, found, admitted, recorded⟩
  obtain ⟨current, standing⟩ := Session.phase_of_answered before answered
  obtain ⟨declared, rfl⟩ := Template.mem_of_question? found
  refine ⟨current, question, standing, found, ?_, ?_⟩
  · intro strict
    rcases checked.openingPhase?_isSome declared with ⟨opening, opens⟩
    rcases OnCourse.of_run checked sound strict opens before with ⟨passed, reached, course⟩
    have performed : session.perform template protocol (.reply question.id (.answer value)) =
        .ok next := accepted
    obtain rfl := course.current_eq strict opens performed (.inl standing)
    have belongs := course.phase_eq_of_admitted opens strict admitted
    rw [recorded, Session.record_phase, course.advance?_of_answered belongs answered, belongs,
      course.phaseOr_eq]
    rfl
  · intro named
    rw [recorded]
    exact record_phase_eq_iff sound standing named answered

theorem repeated_answer_keeps_phase_sample :
    ∃ session next,
      (Session.start "s").performAll .sample .free [.reply "pain" (.answer (.text "Queues"))] =
        .ok session ∧
      session.answer .sample .free "pain" (.text "Noise") = .ok next ∧
      session.hasAnswer "pain" = true ∧
      ∃ current question, session.phase = some current ∧
        Template.sample.question? "pain" = some question ∧
        (Protocol.free.strictPhases = true → next.phase = some current) ∧
        (current ≠ "" → (next.phase = some current ↔
          (isPhaseComplete .sample session.answers question.phase →
            Protocol.free.nextPhase current = none))) := by
  refine ⟨_, _, rfl, rfl, rfl, ?_⟩
  have before : (Session.start "s").performAll .sample .free
      [.reply "pain" (.answer (.text "Queues"))] = .ok _ := rfl
  exact repeated_answer_keeps_phase_iff Template.sample_isChecked Protocol.free_isChecked before
    rfl rfl

/-- A free session does move on when the only question of a phase is answered a second time. -/
theorem repeated_answer_moves_on :
    ¬ ∀ (template : Template) (protocol : Protocol) (sessionId : String) (calls : List Call)
      (session : Session) (id : String) (value : Value) (next : Session),
        template.IsChecked → protocol.IsChecked →
          (Session.start sessionId).performAll template protocol calls = .ok session →
            session.hasAnswer id = true →
              session.answer template protocol id value = .ok next →
                next.phase = session.phase := by
  intro claim
  have same := claim .sample .free "s" [.reply "name" (.answer (.text "Ann"))] _ "name"
    (.text "Bob") _ Template.sample_isChecked Protocol.free_isChecked rfl rfl rfl
  exact absurd same (by decide)

end Interview
