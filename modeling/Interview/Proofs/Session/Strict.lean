import Interview.Proofs.Protocol.Order
import Interview.Proofs.Session.Call
import Interview.Proofs.Session.Progress

/-!
# Strict sessions

Where phases are enforced, a session goes through the phases of its protocol one by one. It begins
with the phase of the first question of the template, and leaves a phase when all its questions are
answered and the protocol has a phase after it. `OnCourse` relates the phases left behind, the
current phase, the answers and the counter of a session to the calls made so far. Every accepted
call keeps it, with the same current phase or with the one after it.
-/

namespace Interview

variable {template : Template} {protocol : Protocol} {question : Question} {reply : Reply}
variable {calls more : List Call} {call : Call} {session later : Session}
variable {opening current next id : String} {passed : List String}

/-- From a phase on, complete phases are passed as long as the protocol goes on. The walk ends at
the first phase that is not complete or has no phase after it. -/
inductive Walk (template : Template) (protocol : Protocol) (answers : Entries Value) :
    String → List String → String → Prop where
  | rest {phase : String}
      (waits : isPhaseComplete template answers phase → protocol.nextPhase phase = none) :
      Walk template protocol answers phase [] phase
  | pass {phase next last : String} {passed : List String}
      (complete : isPhaseComplete template answers phase)
      (successor : protocol.nextPhase phase = some next)
      (walk : Walk template protocol answers next passed last) :
      Walk template protocol answers phase (phase :: passed) last

/-- From a given phase there is only one walk. -/
theorem Walk.unique {answers : Entries Value} {first last otherLast : String}
    {otherPassed : List String} (walk : Walk template protocol answers first passed last)
    (other : Walk template protocol answers first otherPassed otherLast) :
    passed = otherPassed ∧ last = otherLast := by
  induction walk generalizing otherPassed with
  | rest waits =>
      cases other with
      | rest => exact ⟨rfl, rfl⟩
      | pass complete successor _ =>
          rw [waits complete] at successor
          cases successor
  | pass complete successor _ ih =>
      cases other with
      | rest waits =>
          rw [waits complete] at successor
          cases successor
      | pass _ otherSuccessor otherWalk =>
          cases successor.symm.trans otherSuccessor
          rcases ih otherWalk with ⟨rfl, rfl⟩
          exact ⟨rfl, rfl⟩

/-- A walk depends on nothing but which phases are complete. -/
theorem Walk.congr {answers others : Entries Value} {last : String}
    (walk : Walk template protocol answers opening passed last)
    (same : ∀ phase, isPhaseComplete template answers phase =
      isPhaseComplete template others phase) :
    Walk template protocol others opening passed last := by
  induction walk with
  | rest waits => exact .rest fun complete => waits ((same _).trans complete)
  | pass complete successor _ ih => exact .pass ((same _).symm.trans complete) successor ih

/-- A chain of complete phases is a walk to the phase after them. -/
theorem Walk.of_chain {answers : Entries Value}
    (chain : protocol.Chains (passed ++ [current]))
    (complete : ∀ phase ∈ passed, isPhaseComplete template answers phase)
    (waits : isPhaseComplete template answers current → protocol.nextPhase current = none)
    (start : (passed ++ [current]).head? = some opening) :
    Walk template protocol answers opening passed current := by
  induction passed generalizing opening with
  | nil =>
      cases start
      exact .rest waits
  | cons phase passed ih =>
      cases start
      rcases List.isChain_cons.mp chain with ⟨successor, tail⟩
      obtain ⟨next, found⟩ : ∃ next, (passed ++ [current]).head? = some next := by
        cases passed <;> simp
      apply Walk.pass (complete _ (by simp)) (successor next found)
      exact ih tail (fun phase member => complete phase (.tail _ member)) found

/-- The position of a strict session after some calls: the phases it has passed since the opening
phase, and the phase it is in. Only a phase with no successor stays current when it is complete, and
neither an answer nor a call lies beyond the current phase. -/
structure OnCourse (template : Template) (protocol : Protocol) (opening : String)
    (calls : List Call) (session : Session) (passed : List String) (current : String) : Prop where
  phase : session.phase = if calls.any Call.isReply then some current else none
  fresh : calls.any Call.isReply = false → passed = [] ∧ session.answers = .empty
  start : (passed ++ [current]).head? = some opening
  chain : protocol.Chains (passed ++ [current])
  complete : ∀ phase ∈ passed, isPhaseComplete template session.answers phase
  waits : isPhaseComplete template session.answers current → protocol.nextPhase current = none
  answered : ∀ id, session.hasAnswer id →
    ∃ question, template.question? id = some question ∧ question.phase ∈ passed ++ [current]
  replied : ∀ call ∈ calls, ∀ phase, call.repliesIn template phase → phase ∈ passed ++ [current]
  counted : session.askedInPhase = calls.countP (Call.repliesIn template current)

/-- The answers and the skip marks of the questions in some phases are the same in two sessions. -/
def Keeps (template : Template) (phases : List String) (session later : Session) : Prop :=
  ∀ question ∈ template.questions, question.phase ∈ phases →
    later.answers.find? question.id = session.answers.find? question.id ∧
      (question.id ∈ later.skipped ↔ question.id ∈ session.skipped)

namespace Keeps

variable {phases fewer : List String} {middle : Session}

theorem refl : Keeps template phases session session :=
  fun _ _ _ => ⟨rfl, Iff.rfl⟩

theorem trans (first : Keeps template phases session middle)
    (second : Keeps template phases middle later) : Keeps template phases session later := by
  intro question declared inPhases
  rcases first question declared inPhases with ⟨answer, mark⟩
  rcases second question declared inPhases with ⟨laterAnswer, laterMark⟩
  exact ⟨laterAnswer.trans answer, laterMark.trans mark⟩

theorem mono (kept : Keeps template phases session later) (subset : fewer ⊆ phases) :
    Keeps template fewer session later :=
  fun question declared inFewer => kept question declared (subset inFewer)

end Keeps

namespace OnCourse

/-- A new session waits in the opening phase. -/
theorem begin (id : String) :
    OnCourse template protocol opening [] (Session.start id) [] opening where
  phase := rfl
  fresh _ := ⟨rfl, rfl⟩
  start := rfl
  chain := Protocol.chains_singleton
  complete := by simp
  waits complete := absurd complete not_isPhaseComplete_empty
  answered _ present := absurd present (by simp [Session.hasAnswer, Session.start])
  replied := by simp
  counted := rfl

section

variable (course : OnCourse template protocol opening calls session passed current)
include course

/-- The phases passed are those of the walk from the opening phase. -/
theorem walk : Walk template protocol session.answers opening passed current :=
  .of_chain course.chain course.complete course.waits course.start

/-- The gate of a strict session lets through the current phase and no other. -/
theorem openPhases_eq (opens : template.openingPhase? = some opening) :
    session.openPhases template protocol = [current] := by
  have alone : session.openFrom template protocol current = [current] := by
    unfold Session.openFrom
    split
    next complete => simp [course.waits complete]
    next => rfl
  cases begun : calls.any Call.isReply with
  | true => simpa [Session.openPhases, course.phase, begun] using alone
  | false =>
      rcases course.fresh begun with ⟨rfl, unanswered⟩
      rcases Option.map_eq_some_iff.mp opens with ⟨first, head, belongs⟩
      have same : first.phase = current := by
        rw [belongs]
        simpa using course.start.symm
      simpa [Session.openPhases, course.phase, begun, head, same,
        Session.nextQuestion_of_answers_empty unanswered] using alone

/-- A session that is strict admits replies in the current phase only. -/
theorem phase_eq_of_admitted (opens : template.openingPhase? = some opening)
    (strict : protocol.strictPhases = true)
    (admitted : session.refusal? template protocol question = none) :
    question.phase = current := by
  have member := (Session.refusal?_eq_none.mp admitted).1 strict
  rwa [course.openPhases_eq opens, List.mem_singleton] at member

/-- A session in its first phase takes the current phase from the question, and later on has it. -/
theorem phaseOr_eq : session.phaseOr current = current := by
  unfold Session.phaseOr
  rw [course.phase]
  cases calls.any Call.isReply <;> simp

/-- The current phase has not been passed. -/
theorem ne_current (distinct : protocol.phases.Nodup) {phase : String} (behind : phase ∈ passed) :
    phase ≠ current := by
  have distinct := course.chain.nodup distinct
  rw [List.nodup_append] at distinct
  exact distinct.2.2 phase behind current (by simp)

/-- The successor of the current phase has not been reached before. -/
theorem next_not_mem (distinct : protocol.phases.Nodup)
    (successor : protocol.nextPhase current = some next) : next ∉ passed ++ [current] := by
  have distinct := (course.chain.concat successor).nodup distinct
  rw [List.nodup_append] at distinct
  intro old
  exact distinct.2.2 next old next (by simp) rfl

/-! ### Replies in the current phase -/

section

variable (found : template.question? id = some question) (belongs : question.phase = current)
include found belongs

omit found in
theorem advance?_eq :
    session.advance? template protocol question reply =
      if isPhaseComplete template (session.answers.put question.id reply.value) current then
        protocol.nextPhase current
      else none := by
  rw [Session.advance?, belongs, course.phaseOr_eq]

/-- After the reply all answers still lie in phases that were reached. -/
theorem answered_put (value : Value) :
    ∀ other, (session.answers.put question.id value).contains other →
      ∃ question, template.question? other = some question ∧
        question.phase ∈ passed ++ [current] := by
  intro other present
  rcases Entries.contains_put.mp present with rfl | old
  · exact ⟨question, (Template.mem_of_question? found).2 ▸ found, by simp [belongs]⟩
  · exact course.answered other old

/-- A phase that was not reached is not complete after the reply either. -/
theorem not_complete_put (checked : template.IsChecked) (value : Value)
    (ahead : next ∉ passed ++ [current]) :
    ¬ isPhaseComplete template (session.answers.put question.id value) next := by
  intro complete
  rcases exists_answered_of_complete complete with ⟨other, declared, rfl, answered⟩
  rcases course.answered_put found belongs value other.id answered with ⟨same, lookup, reached⟩
  rw [checked.question?_eq declared, Option.some.injEq] at lookup
  exact ahead (lookup ▸ reached)

theorem replied_concat (reply : Reply) :
    ∀ call ∈ calls ++ [.reply id reply], ∀ phase, call.repliesIn template phase →
      phase ∈ passed ++ [current] := by
  intro call member phase replies
  rcases List.mem_append.mp member with old | last
  · exact course.replied call old phase replies
  · cases List.mem_singleton.mp last
    simp_all [Call.repliesIn]

/-- A reply that does not move the session on leaves it in its phase. -/
theorem stay (stays : session.advance? template protocol question reply = none) :
    OnCourse template protocol opening (calls ++ [.reply id reply])
      (session.record template protocol question reply) passed current where
  phase := by simp [stays, belongs, course.phaseOr_eq, Call.isReply]
  fresh := by simp [Call.isReply]
  start := course.start
  chain := course.chain
  complete phase member := isPhaseComplete_put (course.complete phase member)
  waits complete := by
    rw [Session.record_answers] at complete
    rwa [course.advance?_eq belongs, if_pos complete] at stays
  answered := course.answered_put found belongs reply.value
  replied := course.replied_concat found belongs reply
  counted := by simp [stays, course.counted, Call.repliesIn, found, belongs]

/-- A reply that moves the session on puts it into a phase where nothing is answered yet. -/
theorem move (checked : template.IsChecked) (distinct : protocol.phases.Nodup)
    (moves : session.advance? template protocol question reply = some next) :
    OnCourse template protocol opening (calls ++ [.reply id reply])
      (session.record template protocol question reply) (passed ++ [current]) next := by
  obtain ⟨completed, successor⟩ :
      isPhaseComplete template (session.answers.put question.id reply.value) current ∧
        protocol.nextPhase current = some next := by
    rw [course.advance?_eq belongs] at moves
    split at moves
    next completed => exact ⟨completed, moves⟩
    next => cases moves
  have ahead := course.next_not_mem distinct successor
  have untouched := course.not_complete_put found belongs checked reply.value ahead
  have replied := course.replied_concat found belongs reply
  have unasked : (calls ++ [Call.reply id reply]).countP (Call.repliesIn template next) = 0 := by
    rw [List.countP_eq_zero]
    intro call member replies
    exact ahead (replied call member next replies)
  refine
    { phase := by simp [moves, Call.isReply]
      fresh := by simp [Call.isReply]
      start := by simpa using course.start
      chain := course.chain.concat successor
      complete := fun phase member => ?_
      waits := fun complete => absurd complete untouched
      answered := fun id present => ?_
      replied := fun call member phase replies => ?_
      counted := by rw [unasked]; simp [moves] }
  · rcases List.mem_append.mp member with old | last
    · exact isPhaseComplete_put (course.complete phase old)
    · rwa [List.mem_singleton.mp last]
  · rcases course.answered_put found belongs reply.value id present with ⟨other, lookup, reached⟩
    exact ⟨other, lookup, List.mem_append_left _ reached⟩
  · exact List.mem_append_left _ (replied call member phase replies)

end

/-! ### Calls and runs -/

/-- A call that is no reply changes nothing that the position of a session depends on. -/
theorem keeps_position (noReply : call.isReply = false) (samePhase : later.phase = session.phase)
    (sameAnswers : later.answers = session.answers)
    (sameCount : later.askedInPhase = session.askedInPhase) :
    OnCourse template protocol opening (calls ++ [call]) later passed current := by
  have elsewhere : ∀ phase, call.repliesIn template phase = false := by
    intro phase
    cases call <;> simp_all [Call.isReply, Call.repliesIn]
  refine
    { phase := by simpa [noReply, samePhase] using course.phase
      fresh := by simpa [noReply, sameAnswers] using course.fresh
      start := course.start
      chain := course.chain
      complete := by simpa [sameAnswers] using course.complete
      waits := by simpa [sameAnswers] using course.waits
      answered := by simpa [Session.hasAnswer, sameAnswers] using course.answered
      replied := fun other member phase replies => ?_
      counted := by simpa [sameCount, elsewhere] using course.counted }
  rcases List.mem_append.mp member with old | last
  · exact course.replied other old phase replies
  · cases List.mem_singleton.mp last
    simp [elsewhere] at replies

end

section

variable (checked : template.IsChecked) (sound : protocol.IsChecked)
variable (strict : protocol.strictPhases = true) (opens : template.openingPhase? = some opening)
include checked sound strict opens

/-- An accepted call leaves the session in its phase or moves it to the one after it. -/
theorem perform (course : OnCourse template protocol opening calls session passed current)
    (accepted : session.perform template protocol call = .ok later) :
    OnCourse template protocol opening (calls ++ [call]) later passed current ∨
      ∃ next, OnCourse template protocol opening (calls ++ [call]) later
        (passed ++ [current]) next := by
  rcases Session.perform_ok_cases accepted with
    ⟨id, reply, question, rfl, -, found, admitted, rfl⟩ | ⟨rfl, -, rfl⟩ | ⟨rfl, -, rfl⟩
  · have belongs := course.phase_eq_of_admitted opens strict admitted
    cases moved : session.advance? template protocol question reply with
    | none => exact .inl (course.stay found belongs moved)
    | some next => exact .inr ⟨next, course.move found belongs checked sound.phases_nodup moved⟩
  · exact .inl (course.keeps_position rfl rfl rfl rfl)
  · exact .inl (course.keeps_position rfl rfl rfl rfl)

/-- An accepted call keeps the answers and the marks of the phases left behind. -/
theorem keeps (course : OnCourse template protocol opening calls session passed current)
    (accepted : session.perform template protocol call = .ok later) :
    Keeps template passed session later := by
  intro other declared behind
  rcases Session.perform_ok_cases accepted with
    ⟨id, reply, question, rfl, -, found, admitted, rfl⟩ | ⟨rfl, -, rfl⟩ | ⟨rfl, -, rfl⟩
  · have belongs := course.phase_eq_of_admitted opens strict admitted
    have apart := course.ne_current sound.phases_nodup behind
    have differs : other.id ≠ question.id := by
      intro same
      have member := (Template.mem_of_question? found).1
      exact apart (belongs ▸ checked.eq_of_id_eq declared member same ▸ rfl)
    exact ⟨Entries.find?_put_of_ne differs.symm, Session.mem_skippedAfter_of_ne differs⟩
  · exact ⟨rfl, Iff.rfl⟩
  · exact ⟨rfl, Iff.rfl⟩

/-- A run stays on course, passes further phases only, and keeps what lies behind. -/
theorem performAll (course : OnCourse template protocol opening calls session passed current)
    (run : session.performAll template protocol more = .ok later) :
    ∃ laterPassed laterCurrent,
      OnCourse template protocol opening (calls ++ more) later laterPassed laterCurrent ∧
        passed <+: laterPassed ∧ Keeps template passed session later := by
  induction more generalizing calls session passed current with
  | nil =>
      cases run
      exact ⟨passed, current, by simpa using course, List.prefix_rfl, Keeps.refl⟩
  | cons call more ih =>
      rcases Session.performAll_cons_eq_ok.mp run with ⟨next, accepted, rest⟩
      have kept := course.keeps checked sound strict opens accepted
      rcases course.perform checked sound strict opens accepted with stayed | ⟨phase, moved⟩
      · rcases ih stayed rest with ⟨laterPassed, laterCurrent, reached, further, same⟩
        exact ⟨laterPassed, laterCurrent, by simpa using reached, further, kept.trans same⟩
      · rcases ih moved rest with ⟨laterPassed, laterCurrent, reached, further, same⟩
        have start : passed <+: passed ++ [current] := List.prefix_append _ _
        exact ⟨laterPassed, laterCurrent, by simpa using reached, start.trans further,
          kept.trans (same.mono start.subset)⟩

/-- A run from a new session stays on course. -/
theorem of_run (run : (Session.start id).performAll template protocol calls = .ok session) :
    ∃ passed current, OnCourse template protocol opening calls session passed current := by
  obtain ⟨passed, current, course, -, -⟩ :=
    (OnCourse.begin id).performAll checked sound strict opens run
  exact ⟨passed, current, by simpa using course⟩

end

end OnCourse

end Interview
