import Interview.Proofs.Template.Structure
import Interview.Session.Progress

/-!
# What the answers decide

Phase completion, the next question and the status depend on nothing but which ids have an answer.
The next question is the first one without an answer in the order of the occupied phases: as long as
the phases in front are answered, it comes from the first phase that is not complete.
-/

namespace Interview

variable {template : Template} {answers : Entries Value} {question : Question}
variable {phase id : String} {value : Value}

theorem isPhaseComplete_iff :
    isPhaseComplete template answers phase ↔
      template.inPhase phase ≠ [] ∧
        ∀ question ∈ template.questions, question.phase = phase → answers.contains question.id := by
  simp [isPhaseComplete]

/-- A complete phase has an answered question. -/
theorem exists_answered_of_complete (complete : isPhaseComplete template answers phase) :
    ∃ question ∈ template.questions, question.phase = phase ∧ answers.contains question.id := by
  rcases isPhaseComplete_iff.mp complete with ⟨occupied, all⟩
  rcases List.exists_mem_of_ne_nil _ occupied with ⟨question, member⟩
  rcases Template.mem_inPhase.mp member with ⟨declared, belongs⟩
  exact ⟨question, declared, belongs, all question declared belongs⟩

theorem not_isPhaseComplete_empty : ¬ isPhaseComplete template .empty phase := by
  intro complete
  rcases exists_answered_of_complete complete with ⟨question, -, -, answered⟩
  simp at answered

/-- A further answer leaves no phase incomplete that was complete before. -/
theorem isPhaseComplete_put (complete : isPhaseComplete template answers phase) :
    isPhaseComplete template (answers.put id value) phase := by
  rw [isPhaseComplete_iff] at complete ⊢
  refine ⟨complete.1, fun question declared belongs => ?_⟩
  exact Entries.contains_put.mpr (.inr (complete.2 question declared belongs))

/-- Another answer to a question that has one completes no phase. -/
theorem isPhaseComplete_put_of_answered (answered : answers.contains id) :
    isPhaseComplete template (answers.put id value) phase ↔
      isPhaseComplete template answers phase := by
  refine ⟨fun complete => ?_, isPhaseComplete_put⟩
  rw [isPhaseComplete_iff] at complete ⊢
  refine ⟨complete.1, fun question declared belongs => ?_⟩
  rcases Entries.contains_put.mp (complete.2 question declared belongs) with same | old
  · rwa [same]
  · exact old

namespace Session

variable {session : Session} {front after : List String}

theorem nextQuestion_eq_some (next : session.nextQuestion template = some question) :
    question ∈ template.ordered ∧ ¬ session.hasAnswer question.id :=
  ⟨List.mem_of_find?_eq_some next, by simpa using List.find?_some next⟩

/-- A session without answers begins with the first question of the traversal. -/
theorem nextQuestion_of_answers_empty (fresh : session.answers = .empty) :
    session.nextQuestion template = template.ordered.head? := by
  have pending : (fun question : Question => !session.hasAnswer question.id) = fun _ => true := by
    funext question
    simp [hasAnswer, fresh]
  rw [nextQuestion, pending]
  cases template.ordered <;> rfl

theorem nextQuestion_eq_none (checked : template.IsChecked) :
    session.nextQuestion template = none ↔
      ∀ question ∈ template.questions, session.hasAnswer question.id := by
  simp [nextQuestion, checked.mem_ordered]

theorem status_eq_completed_iff :
    session.status template = .completed ↔
      template.questions ≠ [] ∧ ∀ question ∈ template.questions, session.hasAnswer question.id := by
  unfold status
  split
  next all => simpa using all
  next pending =>
      refine ⟨fun completed => ?_, fun all => absurd (by simpa using all) pending⟩
      split at completed <;> cases completed

/-- The search for the next question goes through the phases in front first. -/
theorem nextQuestion_of_split (split : template.occupiedPhases = front ++ after) :
    session.nextQuestion template =
      ((front.flatMap template.inPhase).find? (!session.hasAnswer ·.id)).or
        ((after.flatMap template.inPhase).find? (!session.hasAnswer ·.id)) := by
  rw [nextQuestion, Template.ordered_eq_flatMap_occupied, split, List.flatMap_append,
    List.find?_append]

/-- If the next question lies beyond the phases in front, these are all answered. -/
theorem answered_of_nextQuestion (split : template.occupiedPhases = front ++ after)
    (next : session.nextQuestion template = some question) (beyond : question.phase ∉ front) :
    ∀ other ∈ template.questions, other.phase ∈ front → session.hasAnswer other.id := by
  rw [nextQuestion_of_split split] at next
  cases missed : (front.flatMap template.inPhase).find? (!session.hasAnswer ·.id) with
  | none =>
      intro other declared inFront
      have member : other ∈ front.flatMap template.inPhase :=
        List.mem_flatMap.mpr ⟨other.phase, inFront, Template.mem_inPhase.mpr ⟨declared, rfl⟩⟩
      simpa using List.find?_eq_none.mp missed other member
  | some found =>
      rw [missed, Option.some_or, Option.some.injEq] at next
      subst next
      rcases List.mem_flatMap.mp (List.mem_of_find?_eq_some missed) with ⟨phase, inFront, member⟩
      exact absurd ((Template.mem_inPhase.mp member).2 ▸ inFront) beyond

/-- Behind answered phases, the next question comes from the first phase that is not complete. -/
theorem nextQuestion_phase (split : template.occupiedPhases = front ++ phase :: after)
    (answered : ∀ question ∈ template.questions, question.phase ∈ front →
      session.hasAnswer question.id)
    (incomplete : ¬ isPhaseComplete template session.answers phase) :
    ∃ question, session.nextQuestion template = some question ∧ question.phase = phase := by
  have occupied : template.inPhase phase ≠ [] :=
    (Template.mem_occupiedPhases.mp (split ▸ by simp)).2
  have pending : ((template.inPhase phase).find? (!session.hasAnswer ·.id)).isSome := by
    simp only [isPhaseComplete_iff, not_and, occupied, ne_eq, not_false_eq_true, true_imp_iff,
      not_forall] at incomplete
    rcases incomplete with ⟨question, declared, belongs, unanswered⟩
    rw [List.find?_isSome]
    exact ⟨question, Template.mem_inPhase.mpr ⟨declared, belongs⟩, by
      simpa [hasAnswer] using unanswered⟩
  have missed : (front.flatMap template.inPhase).find? (!session.hasAnswer ·.id) = none := by
    rw [List.find?_eq_none]
    intro question member
    rcases List.mem_flatMap.mp member with ⟨other, inFront, belongs⟩
    rcases Template.mem_inPhase.mp belongs with ⟨declared, rfl⟩
    simpa using answered question declared inFront
  rcases Option.isSome_iff_exists.mp pending with ⟨question, found⟩
  refine ⟨question, ?_, (Template.mem_inPhase.mp (List.mem_of_find?_eq_some found)).2⟩
  rw [nextQuestion_of_split split, missed, Option.none_or, List.flatMap_cons, List.find?_append,
    found, Option.some_or]

end Session

end Interview
