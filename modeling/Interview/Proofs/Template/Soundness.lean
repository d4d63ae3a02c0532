import Interview.Proofs.Template.Structure

/-!
# When phases and questions fit together

Checking goes through the phases and the questions once and remembers what came before. An empty
report nevertheless is a statement about the lists as wholes, `Fits`, in which no place of a list is
named. So it is the same report for the same phases and questions in any other order.
-/

namespace Interview

variable {phases otherPhases : List String} {questions otherQuestions : List Question}
variable {question : Question} {text : String}

/-! ## Single texts and questions -/

/-- A text that is neither empty nor white space only has a character that is not blank. -/
theorem isBlankText_eq_false_iff :
    text.isBlankText = false ↔ ∃ c ∈ text.toList, Text.isBlank c = false := by
  simp [String.isBlankText, Text.isBlankText]

theorem Question.isChoice_iff :
    question.isChoice ↔ question.type ∈ [.singleChoice, .multiChoice, .scale] := by
  rw [Question.isChoice]
  cases question.type <;> simp [QuestionType.needsOptions]

theorem Question.hasOptions_iff :
    question.hasOptions ↔ ∃ first others, question.options = some (first :: others) := by
  rw [Question.hasOptions]
  cases question.options with
  | none => simp
  | some options => cases options <;> simp

/-! ## Lists that fit -/

/-- Phases and questions of which a template can be made: there are phases, their names are distinct
and say something, ids are distinct, every question belongs to one of the phases, and every choice
or scale has options. -/
structure Fits (phases : List String) (questions : List Question) : Prop where
  somePhase : phases ≠ []
  named : ∀ phase ∈ phases, ∃ c ∈ phase.toList, Text.isBlank c = false
  distinctPhases : phases.Nodup
  distinctIds : (questions.map (·.id)).Nodup
  declaredPhase : ∀ question ∈ questions, question.phase ∈ phases
  someOption : ∀ question ∈ questions, question.type ∈ [.singleChoice, .multiChoice, .scale] →
    ∃ first others, question.options = some (first :: others)

/-- Nothing in this depends on an order. -/
theorem Fits.perm (fits : Fits phases questions) (samePhases : phases.Perm otherPhases)
    (sameQuestions : questions.Perm otherQuestions) : Fits otherPhases otherQuestions where
  somePhase none := fits.somePhase (by rw [none] at samePhases; exact samePhases.eq_nil)
  named phase member := fits.named phase (samePhases.mem_iff.mpr member)
  distinctPhases := samePhases.nodup_iff.mp fits.distinctPhases
  distinctIds := (sameQuestions.map (·.id)).nodup_iff.mp fits.distinctIds
  declaredPhase question member :=
    samePhases.mem_iff.mp (fits.declaredPhase question (sameQuestions.mem_iff.mpr member))
  someOption question member := fits.someOption question (sameQuestions.mem_iff.mpr member)

theorem fits_iff_of_perm (samePhases : phases.Perm otherPhases)
    (sameQuestions : questions.Perm otherQuestions) :
    Fits otherPhases otherQuestions ↔ Fits phases questions :=
  ⟨fun fits => fits.perm samePhases.symm sameQuestions.symm,
    fun fits => fits.perm samePhases sameQuestions⟩

/-- The report is empty for lists that fit, and for no others. -/
theorem structuralProblems_eq_nil_iff_fits :
    structuralProblems phases questions = [] ↔ Fits phases questions := by
  rw [structuralProblems_eq_nil]
  constructor
  · rintro ⟨somePhase, distinctPhases, named, distinctIds, each⟩
    exact
      { somePhase
        named := fun phase member => isBlankText_eq_false_iff.mp (named phase member)
        distinctPhases
        distinctIds
        declaredPhase := fun question member => (each question member).1
        someOption := fun question member choice =>
          Question.hasOptions_iff.mp ((each question member).2 (Question.isChoice_iff.mpr choice)) }
  · intro fits
    refine ⟨fits.somePhase, fits.distinctPhases, ?_, fits.distinctIds, ?_⟩
    · exact fun phase member => isBlankText_eq_false_iff.mpr (fits.named phase member)
    · refine fun question member => ⟨fits.declaredPhase question member, fun choice => ?_⟩
      exact Question.hasOptions_iff.mpr
        (fits.someOption question member (Question.isChoice_iff.mp choice))

/-! ## Main result -/

/-- Phases and questions have no structural problem exactly when there are phases, no phase is empty
or white space only, phases are pairwise distinct, ids are pairwise distinct, every question belongs
to a phase of the list, and every choice or scale has options. In any other order the lists have a
problem if they have one in this. -/
theorem no_problem_iff_fits (phases : List String) (questions : List Question) :
    (structuralProblems phases questions = [] ↔ Fits phases questions) ∧
      ∀ otherPhases otherQuestions, phases.Perm otherPhases → questions.Perm otherQuestions →
        (structuralProblems otherPhases otherQuestions = [] ↔
          structuralProblems phases questions = []) := by
  refine ⟨structuralProblems_eq_nil_iff_fits, ?_⟩
  intro otherPhases otherQuestions samePhases sameQuestions
  rw [structuralProblems_eq_nil_iff_fits, structuralProblems_eq_nil_iff_fits,
    fits_iff_of_perm samePhases sameQuestions]

theorem no_problem_reversed_sample :
    Fits Template.sample.phases Template.sample.questions ∧
      structuralProblems Template.sample.phases.reverse Template.sample.questions.reverse = [] := by
  obtain ⟨fitting, anyOrder⟩ :=
    no_problem_iff_fits Template.sample.phases Template.sample.questions
  have sound := Template.sample_isChecked.sound
  have reversed := anyOrder _ _ (List.reverse_perm _).symm (List.reverse_perm _).symm
  exact ⟨fitting.mp sound, reversed.mpr sound⟩

end Interview
