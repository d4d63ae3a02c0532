import Interview.Proofs.Session.Progress
import Mathlib.Algebra.Ring.Nat

/-!
# Views of a session

The next question, the history, the progress of the phases and the status are computed in different
ways: by a search and by a selection along the traversal order, phase by phase, and over the
declared questions. The traversal order is the declared questions sorted by phase, so that nothing
is lost or counted twice on any of these ways, and all views of a session tell the same.
-/

namespace Interview

variable {template : Template} {session : Session} {question : Question} {entry : PhaseProgress}

/-- What an exchange tells about a question: its id and its text, the answer that the session holds,
and whether the session marks it as skipped. -/
structure Exchange.Tells (exchange : Exchange) (session : Session) (question : Question) : Prop where
  id : exchange.id = question.id
  text : exchange.question = question.text
  answer : session.answers.find? question.id = some exchange.answer
  skipped : exchange.skipped ↔ question.id ∈ session.skipped

namespace Session

/-- The next question has no answer, and all questions before it have one. -/
theorem nextQuestion_eq_some_iff :
    session.nextQuestion template = some question ↔
      ∃ before after, template.ordered = before ++ question :: after ∧
        (∀ earlier ∈ before, session.hasAnswer earlier.id) ∧ ¬ session.hasAnswer question.id := by
  rw [nextQuestion, List.find?_eq_some_iff_append]
  constructor
  · rintro ⟨pending, before, after, split, answered⟩
    exact ⟨before, after, split, by simpa using answered, by simpa using pending⟩
  · rintro ⟨before, after, split, answered, pending⟩
    exact ⟨by simpa using pending, before, after, split, by simpa using answered⟩

/-- The history tells the answered questions, one by one in the traversal order. -/
theorem history_tells :
    List.Forall₂ (fun exchange question => exchange.Tells session question)
      (session.history template) (template.ordered.filter (session.hasAnswer ·.id)) := by
  unfold history
  induction template.ordered with
  | nil => exact .nil
  | cons question questions ih =>
      cases found : session.answers.find? question.id with
      | none =>
          have pending : session.hasAnswer question.id = false := by
            simp [hasAnswer, Entries.contains, found]
          simpa [found, pending] using ih
      | some answer =>
          have answered : session.hasAnswer question.id = true := by
            simp [hasAnswer, Entries.contains, found]
          rw [List.filter_cons, if_pos answered, List.filterMap_cons, found]
          refine .cons ?_ ih
          exact
            { id := rfl
              text := rfl
              answer := found
              skipped := by simp }

theorem length_history :
    (session.history template).length = template.ordered.countP (session.hasAnswer ·.id) := by
  rw [history_tells.length_eq, List.countP_eq_length_filter]

/-! ## Progress -/

/-- Every phase of the template is reported. -/
theorem phases_progress : (session.progress template).map (·.phase) = template.phases := by
  simp [progress, Function.comp_def]

theorem sum_total_progress :
    ((session.progress template).map (·.total)).sum = template.ordered.length := by
  simp [progress, Template.ordered, List.length_flatMap, Function.comp_def]

theorem sum_answered_progress :
    ((session.progress template).map (·.answered)).sum =
      template.ordered.countP (session.hasAnswer ·.id) := by
  simp [progress, Template.ordered, List.countP_flatMap, Function.comp_def]

/-- A phase is reported complete when it is complete. -/
theorem isComplete_of_mem_progress (member : entry ∈ session.progress template) :
    entry.isComplete ↔ isPhaseComplete template session.answers entry.phase := by
  obtain ⟨phase, -, rfl⟩ := List.mem_map.mp member
  rw [isPhaseComplete_iff]
  simp only [PhaseProgress.isComplete, Bool.and_eq_true, decide_eq_true_eq, beq_iff_eq,
    List.length_pos_iff, List.countP_eq_length]
  refine and_congr_right fun _ => ?_
  constructor
  · intro answered question declared belongs
    exact answered question (Template.mem_inPhase.mpr ⟨declared, belongs⟩)
  · intro answered question member
    rcases Template.mem_inPhase.mp member with ⟨declared, belongs⟩
    exact answered question declared belongs

/-- All questions are answered exactly when every phase that has some is reported complete. -/
theorem all_answered_iff_progress (checked : template.IsChecked) :
    (∀ question ∈ template.questions, session.hasAnswer question.id) ↔
      ∀ entry ∈ session.progress template, template.inPhase entry.phase ≠ [] →
        entry.isComplete := by
  constructor
  · intro answered entry member occupied
    rw [isComplete_of_mem_progress member, isPhaseComplete_iff]
    exact ⟨occupied, fun question declared _ => answered question declared⟩
  · intro complete question declared
    have reported : question.phase ∈ (session.progress template).map (·.phase) := by
      rw [phases_progress]
      exact checked.phase_mem declared
    rcases List.mem_map.mp reported with ⟨entry, member, belongs⟩
    have occupied : template.inPhase entry.phase ≠ [] :=
      List.ne_nil_of_mem (Template.mem_inPhase.mpr ⟨declared, belongs.symm⟩)
    have done := (isComplete_of_mem_progress member).mp (complete entry member occupied)
    exact (isPhaseComplete_iff.mp done).2 question declared belongs.symm

end Session

/-! ## Main result -/

/-- For every session, whether it can be reached or not: the traversal order is the declared
questions, sorted by the position of their phase and within a phase as they are declared. The next
question is the first one in it without an answer, and the history tells those with an answer. There
is no next question exactly when all are answered, which is when the status is that of a completed
session or the template has no questions. The progress adds up to the questions and to the history,
and every phase with questions is reported complete exactly when a template that has some is
completed. -/
theorem views_agree (checked : template.IsChecked) (session : Session) :
    (template.ordered.Perm template.questions ∧
      template.ordered.Pairwise (fun earlier later =>
        template.phases.idxOf earlier.phase ≤ template.phases.idxOf later.phase) ∧
      ∀ phase, template.ordered.filter (·.phase == phase) =
        template.questions.filter (·.phase == phase)) ∧
    (∀ question, session.nextQuestion template = some question ↔
      ∃ before after, template.ordered = before ++ question :: after ∧
        (∀ earlier ∈ before, session.hasAnswer earlier.id) ∧ ¬ session.hasAnswer question.id) ∧
    List.Forall₂ (fun exchange question => exchange.Tells session question)
      (session.history template) (template.ordered.filter (session.hasAnswer ·.id)) ∧
    (session.nextQuestion template = none ↔
      ∀ question ∈ template.questions, session.hasAnswer question.id) ∧
    (session.nextQuestion template = none ↔
      session.status template = .completed ∨ template.questions = []) ∧
    ((session.progress template).map (·.phase) = template.phases ∧
      ((session.progress template).map (·.total)).sum = template.questions.length ∧
      ((session.progress template).map (·.answered)).sum = (session.history template).length) ∧
    (session.status template = .completed ↔
      template.questions ≠ [] ∧ ∀ entry ∈ session.progress template,
        template.inPhase entry.phase ≠ [] → entry.isComplete) := by
  refine ⟨⟨checked.ordered_perm, checked.ordered_pairwise, checked.filter_ordered⟩,
    fun _ => Session.nextQuestion_eq_some_iff, Session.history_tells,
    Session.nextQuestion_eq_none checked, ?_, ⟨Session.phases_progress, ?_, ?_⟩, ?_⟩
  · rw [Session.nextQuestion_eq_none checked, Session.status_eq_completed_iff]
    by_cases empty : template.questions = [] <;> simp [empty]
  · rw [Session.sum_total_progress, checked.ordered_perm.length_eq]
  · rw [Session.sum_answered_progress, Session.length_history]
  · rw [Session.status_eq_completed_iff, Session.all_answered_iff_progress checked]

theorem views_agree_sample :
    let session : Session :=
      { Session.start "s" with
        answers := (Entries.empty.put "stale" .null).put "often" (.text "daily") }
    Template.sample.IsChecked ∧ Template.sample.ordered.Perm Template.sample.questions ∧
      List.Forall₂ (fun exchange question => exchange.Tells session question)
        (session.history .sample) (Template.sample.ordered.filter (session.hasAnswer ·.id)) ∧
      ((session.progress .sample).map (·.answered)).sum = (session.history .sample).length := by
  intro session
  obtain ⟨⟨rearranged, -, -⟩, -, tells, -, -, ⟨-, -, counted⟩, -⟩ :=
    views_agree Template.sample_isChecked session
  exact ⟨Template.sample_isChecked, rearranged, tells, counted⟩

end Interview
