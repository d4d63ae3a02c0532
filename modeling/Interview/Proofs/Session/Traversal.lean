import Interview.Proofs.Session.Call
import Interview.Proofs.Session.Progress

/-!
# Going through a template

The plainest way to hold an interview is to answer the next question until there is none. The
traversal does that, with any choice of answers, and stops early only when an answer is refused. It
always ends, for each accepted answer leaves fewer questions open.
-/

namespace Interview.Session

variable {session later : Session} {template : Template} {protocol : Protocol}
variable {question : Question} {reply : Reply} {value : Value} {id : String}
variable {choose : Session → Question → Value}

/-- The questions without an answer, in the order of the template. -/
def unanswered (session : Session) (template : Template) : List Question :=
  template.ordered.filter (!session.hasAnswer ·.id)

theorem hasAnswer_record :
    (session.record template protocol question reply).hasAnswer id ↔
      id = question.id ∨ session.hasAnswer id :=
  Entries.contains_put

/-- A reply takes its question from those without an answer. -/
theorem unanswered_record :
    (session.record template protocol question reply).unanswered template =
      (session.unanswered template).filter (·.id != question.id) := by
  unfold unanswered
  rw [List.filter_filter]
  refine List.filter_congr fun other _ => ?_
  rw [Bool.eq_iff_iff]
  simp [← Bool.not_eq_true, hasAnswer_record]

/-- At the start every question of the template is without an answer. -/
theorem length_unanswered_start (checked : template.IsChecked) :
    ((Session.start id).unanswered template).length = template.questions.length := by
  rw [← checked.ordered_perm.length_eq]
  simp [unanswered, start, hasAnswer]

theorem mem_unanswered_of_nextQuestion (next : session.nextQuestion template = some question) :
    question ∈ session.unanswered template := by
  rcases nextQuestion_eq_some next with ⟨member, pending⟩
  exact List.mem_filter.mpr ⟨member, by simpa using pending⟩

theorem unanswered_lt (next : session.nextQuestion template = some question)
    (accepted : session.answer template protocol question.id value = .ok later) :
    (later.unanswered template).length < (session.unanswered template).length := by
  rcases reply_eq_ok.mp accepted with ⟨found, lookup, -, rfl⟩
  have same := (Template.mem_of_question? lookup).2
  rw [unanswered_record, List.length_filter_lt_length_iff_exists]
  exact ⟨question, mem_unanswered_of_nextQuestion next, by simp [same]⟩

/-- What comes of answering one question after the other: the questions that were answered, the
session in the end, and the refusal that stopped it, if any. -/
structure Traversal where
  asked : List Question
  session : Session
  refusal : Option Refusal

/-- Answers the next question with a chosen value until no question is left or an answer is
refused. -/
def traverse (template : Template) (protocol : Protocol) (choose : Session → Question → Value)
    (session : Session) : Traversal :=
  match _next : session.nextQuestion template with
  | none => { asked := [], session, refusal := none }
  | some question =>
    match _accepted : session.answer template protocol question.id (choose session question) with
    | .error refusal => { asked := [], session, refusal := some refusal }
    | .ok later =>
      let rest := traverse template protocol choose later
      { rest with asked := question :: rest.asked }
termination_by (session.unanswered template).length
decreasing_by exact unanswered_lt _next _accepted

/-- A traversal that is not stopped leaves no question. -/
theorem nextQuestion_traverse
    (finished : (session.traverse template protocol choose).refusal = none) :
    (session.traverse template protocol choose).session.nextQuestion template = none := by
  fun_induction traverse template protocol choose session with
  | case1 session next => exact next
  | case2 session question next refusal accepted => cases finished
  | case3 session question next later accepted rest ih => exact ih finished

/-- The next question is answered as soon as its phase is open and the limit is not reached. -/
theorem answer_nextQuestion (checked : template.IsChecked)
    (next : session.nextQuestion template = some question)
    (opened : question.phase ∈ session.openPhases template protocol)
    (enough : session.asked + 1 ≤ protocol.maxQuestions) :
    session.answer template protocol question.id value =
      .ok (session.record template protocol question (.answer value)) := by
  have declared := checked.mem_ordered.mp (nextQuestion_eq_some next).1
  exact reply_eq_ok.mpr
    ⟨question, checked.question?_eq declared, refusal?_eq_none.mpr ⟨fun _ => opened, enough⟩, rfl⟩

/-- If in every session on the way the phase of the next question is open, and the limit leaves room
for the questions without an answer, then a traversal is not stopped. -/
theorem refusal_traverse_eq_none (checked : template.IsChecked)
    (opened : ∀ calls later, session.performAll template protocol calls = .ok later →
      ∀ question, later.nextQuestion template = some question →
        question.phase ∈ later.openPhases template protocol)
    (enough : session.asked + (session.unanswered template).length ≤ protocol.maxQuestions) :
    (session.traverse template protocol choose).refusal = none := by
  fun_induction traverse template protocol choose session with
  | case1 session next => rfl
  | case2 session question next refusal refused =>
      have pending := List.length_pos_of_mem (mem_unanswered_of_nextQuestion next)
      have room : session.asked + 1 ≤ protocol.maxQuestions := by omega
      rw [answer_nextQuestion checked next (opened [] session rfl question next) room] at refused
      cases refused
  | case3 session question next later accepted rest ih =>
      refine ih (fun calls middle run => ?_) ?_
      · exact opened (.reply question.id (.answer (choose session question)) :: calls) middle
          (performAll_cons_eq_ok.mpr ⟨later, accepted, run⟩)
      · have fewer := unanswered_lt next accepted
        rcases reply_eq_ok.mp accepted with ⟨_, _, _, rfl⟩
        rw [record_asked]
        omega

/-- A traversal that is not stopped comes by every phase with questions, and finds it open before
any question of it or of a later phase is answered. -/
theorem exists_run_to_phase (checked : template.IsChecked) {front after : List String}
    {phase : String} (split : template.occupiedPhases = front ++ phase :: after)
    (finished : (session.traverse template protocol choose).refusal = none)
    (untouched : ∀ question ∈ template.questions, question.phase ∈ phase :: after →
      ¬ session.hasAnswer question.id) :
    ∃ calls middle, session.performAll template protocol calls = .ok middle ∧
      (protocol.strictPhases → phase ∈ middle.openPhases template protocol) ∧
        ∀ question ∈ template.questions, question.phase ∈ phase :: after →
          ¬ middle.hasAnswer question.id := by
  have distinct := checked.occupiedPhases_nodup
  rw [split, List.nodup_append] at distinct
  fun_induction traverse template protocol choose session with
  | case1 session next =>
      have occupied : template.inPhase phase ≠ [] :=
        (Template.mem_occupiedPhases.mp (split ▸ by simp)).2
      rcases List.exists_mem_of_ne_nil _ occupied with ⟨question, member⟩
      rcases Template.mem_inPhase.mp member with ⟨declared, belongs⟩
      have answered := (nextQuestion_eq_none checked).mp next question declared
      exact absurd answered (untouched question declared (by simp [belongs]))
  | case2 session question next refusal refused => cases finished
  | case3 session question next later accepted rest ih =>
      rcases reply_eq_ok.mp accepted with ⟨found, lookup, admitted, rfl⟩
      rcases Template.mem_of_question? lookup with ⟨declared, same⟩
      obtain rfl := checked.eq_of_id_eq declared
        (checked.mem_ordered.mp (nextQuestion_eq_some next).1) same
      by_cases inFront : found.phase ∈ front
      · -- The answer is in front of the phase: the run to it goes on from the next session.
        obtain ⟨calls, middle, run, reached⟩ := ih finished fun other otherDeclared behind => by
          rw [hasAnswer_record, not_or]
          refine ⟨fun sameId => ?_, untouched other otherDeclared behind⟩
          obtain rfl := checked.eq_of_id_eq otherDeclared declared sameId
          exact distinct.2.2 _ inFront _ behind rfl
        exact ⟨.reply found.id (.answer (choose session found)) :: calls, middle,
          performAll_cons_eq_ok.mpr ⟨_, accepted, run⟩, reached⟩
      · -- All in front is answered, and the answer is the first one in the phase.
        have answered := answered_of_nextQuestion split next inFront
        have incomplete : ¬ isPhaseComplete template session.answers phase := by
          intro complete
          rcases exists_answered_of_complete complete with ⟨other, otherDeclared, rfl, present⟩
          exact untouched other otherDeclared (by simp) present
        rcases nextQuestion_phase split answered incomplete with ⟨first, firstNext, belongs⟩
        cases next.symm.trans firstNext
        refine ⟨[], session, rfl, fun strict => ?_, untouched⟩
        exact belongs ▸ (refusal?_eq_none.mp admitted).1 strict

end Interview.Session
