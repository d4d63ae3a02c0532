import Interview.Template.Problem
import Mathlib.Data.List.Nodup
import Mathlib.Data.List.Perm.Basic

/-!
# The structure of checked templates

Template checking reports problems as a list. This module reads an empty report as conditions on
phases and questions: phase names are distinct and not blank, ids are distinct, and every question
belongs to a declared phase. The lookups of a template then determine each other, and its traversal
order is a rearrangement of its questions.
-/

namespace Interview

variable {phases seen : List String} {questions : List Question}

theorem phaseProblems_eq_nil :
    phaseProblems seen phases = [] ↔
      phases.Nodup ∧ ∀ phase ∈ phases, phase.isBlankText = false ∧ phase ∉ seen := by
  induction phases generalizing seen with
  | nil => simp [phaseProblems]
  | cons phase phases ih =>
      simp only [phaseProblems, List.append_eq_nil_iff, ih, List.mem_cons, List.nodup_cons]
      constructor
      · rintro ⟨first, distinct, rest⟩
        have fresh : phase.isBlankText = false ∧ phase ∉ seen := by
          split at first <;> simp_all
        refine ⟨⟨fun member => (rest phase member).2 (.inl rfl), distinct⟩, ?_⟩
        rintro other (rfl | member)
        · exact fresh
        · exact ⟨(rest other member).1, fun old => (rest other member).2 (.inr old)⟩
      · rintro ⟨⟨notLater, distinct⟩, all⟩
        have fresh := all phase (.inl rfl)
        refine ⟨by simp [fresh.1, fresh.2], distinct, fun other member => ?_⟩
        refine ⟨(all other (.inr member)).1, ?_⟩
        rintro (rfl | old)
        · exact notLater member
        · exact (all other (.inr member)).2 old

theorem questionProblems_eq_nil {question : Question} :
    questionProblems phases seen question = [] ↔
      question.id ∉ seen ∧ question.phase ∈ phases ∧
        (question.isChoice → question.hasOptions) := by
  simp [questionProblems]

theorem questionsProblems_eq_nil :
    questionsProblems phases seen questions = [] ↔
      (questions.map (·.id)).Nodup ∧ ∀ question ∈ questions,
        question.id ∉ seen ∧ question.phase ∈ phases ∧
          (question.isChoice → question.hasOptions) := by
  induction questions generalizing seen with
  | nil => simp [questionsProblems]
  | cons question questions ih =>
      simp only [questionsProblems, List.append_eq_nil_iff, questionProblems_eq_nil, ih,
        List.map_cons, List.nodup_cons, List.mem_map, List.mem_cons]
      constructor
      · rintro ⟨first, distinct, rest⟩
        refine ⟨⟨?_, distinct⟩, ?_⟩
        · rintro ⟨other, member, same⟩
          exact (rest other member).1 (.inl same)
        · rintro other (rfl | member)
          · exact first
          · exact ⟨fun old => (rest other member).1 (.inr old), (rest other member).2⟩
      · rintro ⟨⟨notLater, distinct⟩, all⟩
        refine ⟨all question (.inl rfl), distinct, fun other member => ⟨?_, ?_⟩⟩
        · rintro (same | old)
          · exact notLater ⟨other, member, same⟩
          · exact (all other (.inr member)).1 old
        · exact (all other (.inr member)).2

/-- An empty report says that there are phases, that phase names and ids are distinct, that no
phase name is blank, and that every question has a declared phase and the options it needs. -/
theorem structuralProblems_eq_nil :
    structuralProblems phases questions = [] ↔
      phases ≠ [] ∧ phases.Nodup ∧ (∀ phase ∈ phases, phase.isBlankText = false) ∧
        (questions.map (·.id)).Nodup ∧ ∀ question ∈ questions,
          question.phase ∈ phases ∧ (question.isChoice → question.hasOptions) := by
  simp [structuralProblems, phaseProblems_eq_nil, questionsProblems_eq_nil, and_assoc]

/-- Collecting the questions of each phase of a list in turn only rearranges those that belong to
one of them. -/
theorem flatMap_filter_phase_perm (distinct : phases.Nodup) :
    (phases.flatMap fun phase => questions.filter (·.phase == phase)).Perm
      (questions.filter fun question => phases.contains question.phase) := by
  induction phases with
  | nil => simp
  | cons phase phases ih =>
      rcases List.nodup_cons.mp distinct with ⟨fresh, distinct⟩
      let wanted := questions.filter fun question => (phase :: phases).contains question.phase
      have first : wanted.filter (·.phase == phase) = questions.filter (·.phase == phase) := by
        simp only [wanted, List.filter_filter]
        exact List.filter_congr fun question _ => by
          by_cases same : question.phase = phase <;> simp [same]
      have others : wanted.filter (!·.phase == phase) =
          questions.filter fun question => phases.contains question.phase := by
        simp only [wanted, List.filter_filter]
        refine List.filter_congr fun question _ => ?_
        by_cases same : question.phase = phase <;> simp [same, fresh]
      have split := List.filter_append_perm (·.phase == phase) wanted
      rw [first, others] at split
      exact ((ih distinct).append_left _).trans split

namespace Template

variable {template : Template} {question : Question} {phase id : String}

namespace IsChecked

theorem phases_nodup (checked : template.IsChecked) : template.phases.Nodup :=
  (structuralProblems_eq_nil.mp checked.sound).2.1

theorem ids_nodup (checked : template.IsChecked) : (template.questions.map (·.id)).Nodup :=
  (structuralProblems_eq_nil.mp checked.sound).2.2.2.1

theorem phase_mem (checked : template.IsChecked) (declared : question ∈ template.questions) :
    question.phase ∈ template.phases :=
  ((structuralProblems_eq_nil.mp checked.sound).2.2.2.2 question declared).1

/-- Every question belongs to a phase with a name. -/
theorem phase_ne_empty (checked : template.IsChecked) (declared : question ∈ template.questions) :
    question.phase ≠ "" := by
  intro empty
  have named := (structuralProblems_eq_nil.mp checked.sound).2.2.1 _ (checked.phase_mem declared)
  rw [empty] at named
  exact absurd named (by decide)

/-- Declared questions with one id are the same question. -/
theorem eq_of_id_eq (checked : template.IsChecked) {other : Question}
    (declared : question ∈ template.questions) (otherDeclared : other ∈ template.questions)
    (same : question.id = other.id) : question = other :=
  List.inj_on_of_nodup_map checked.ids_nodup declared otherDeclared same

end IsChecked

theorem mem_of_question? (found : template.question? id = some question) :
    question ∈ template.questions ∧ question.id = id :=
  ⟨List.mem_of_find?_eq_some found, by simpa using List.find?_some found⟩

theorem IsChecked.question?_eq (checked : template.IsChecked)
    (declared : question ∈ template.questions) :
    template.question? question.id = some question := by
  have present : (template.question? question.id).isSome := by
    rw [question?, List.find?_isSome]
    exact ⟨question, declared, by simp⟩
  rcases Option.isSome_iff_exists.mp present with ⟨found, lookup⟩
  rcases mem_of_question? lookup with ⟨member, same⟩
  rw [lookup, checked.eq_of_id_eq member declared same]

theorem exists_question?_of_declares (declared : template.declares id = true) :
    ∃ question, template.question? id = some question := by
  rw [← Option.isSome_iff_exists, question?, List.find?_isSome]
  simpa [declares] using declared

@[simp] theorem mem_inPhase :
    question ∈ template.inPhase phase ↔ question ∈ template.questions ∧ question.phase = phase := by
  simp [inPhase]

/-- The traversal comes by declared questions only. -/
theorem declared_of_mem_ordered (member : question ∈ template.ordered) :
    question ∈ template.questions := by
  rcases List.mem_flatMap.mp member with ⟨phase, -, inside⟩
  exact (mem_inPhase.mp inside).1

/-- The traversal order holds every declared question once. -/
theorem IsChecked.ordered_perm (checked : template.IsChecked) :
    template.ordered.Perm template.questions := by
  have all : template.questions.filter (fun question => template.phases.contains question.phase) =
      template.questions := by
    rw [List.filter_eq_self]
    exact fun question declared => by simpa using checked.phase_mem declared
  calc
    template.ordered.Perm
        (template.questions.filter fun question => template.phases.contains question.phase) :=
      flatMap_filter_phase_perm checked.phases_nodup
    _ = template.questions := all

theorem IsChecked.mem_ordered (checked : template.IsChecked) :
    question ∈ template.ordered ↔ question ∈ template.questions :=
  checked.ordered_perm.mem_iff

theorem pairwise_idxOf (distinct : phases.Nodup) :
    phases.Pairwise fun earlier later => phases.idxOf earlier ≤ phases.idxOf later := by
  rw [List.pairwise_iff_getElem]
  intro i j _ _ less
  rw [distinct.idxOf_getElem, distinct.idxOf_getElem]
  exact Nat.le_of_lt less

/-- The traversal follows the order of the phases. -/
theorem IsChecked.ordered_pairwise (checked : template.IsChecked) :
    template.ordered.Pairwise fun earlier later =>
      template.phases.idxOf earlier.phase ≤ template.phases.idxOf later.phase := by
  rw [ordered, List.pairwise_flatMap]
  constructor
  · intro phase _
    refine List.pairwise_of_forall_mem_list fun earlier member later otherMember => ?_
    have same : earlier.phase = later.phase :=
      (mem_inPhase.mp member).2.trans (mem_inPhase.mp otherMember).2.symm
    exact Nat.le_of_eq (congrArg template.phases.idxOf same)
  · refine (pairwise_idxOf checked.phases_nodup).imp ?_
    intro phase next below earlier member later otherMember
    rwa [(mem_inPhase.mp member).2, (mem_inPhase.mp otherMember).2]

/-- Of distinct phases one at most gives its questions. -/
theorem flatMap_ite_eq (distinct : phases.Nodup) :
    (phases.flatMap fun other => if other = phase then questions else []) =
      if phase ∈ phases then questions else [] := by
  induction phases with
  | nil => simp
  | cons first phases ih =>
      rcases List.nodup_cons.mp distinct with ⟨fresh, distinct⟩
      rw [List.flatMap_cons, ih distinct]
      by_cases same : first = phase
      · subst same
        simp [fresh]
      · simp [same, Ne.symm same]

/-- Within a phase the traversal follows the order of declaration. -/
theorem IsChecked.filter_ordered (checked : template.IsChecked) (phase : String) :
    template.ordered.filter (·.phase == phase) = template.inPhase phase := by
  have single : ∀ other, (template.inPhase other).filter (·.phase == phase) =
      if other = phase then template.inPhase phase else [] := by
    intro other
    split
    next same =>
        rw [same, List.filter_eq_self]
        exact fun question member => by simpa using (mem_inPhase.mp member).2
    next differs =>
        rw [List.filter_eq_nil_iff]
        exact fun question member => by simpa [(mem_inPhase.mp member).2] using differs
  rw [ordered, List.filter_flatMap]
  simp only [single]
  rw [flatMap_ite_eq checked.phases_nodup]
  split
  next => rfl
  next foreign =>
      symm
      rw [List.eq_nil_iff_forall_not_mem]
      intro question member
      rcases mem_inPhase.mp member with ⟨declared, rfl⟩
      exact foreign (checked.phase_mem declared)

/-- The phase of the question that the traversal begins with. -/
def openingPhase? (template : Template) : Option String :=
  template.ordered.head?.map (·.phase)

/-- A template with questions has an opening phase. -/
theorem IsChecked.openingPhase?_isSome (checked : template.IsChecked)
    (declared : question ∈ template.questions) : ∃ opening, template.openingPhase? = some opening := by
  obtain ⟨first, rest, split⟩ :=
    List.exists_cons_of_ne_nil (List.ne_nil_of_mem (checked.mem_ordered.mpr declared))
  exact ⟨first.phase, by simp [openingPhase?, split]⟩

/-! ## Phases that hold questions -/

/-- The phases that hold at least one question, in the order of the template. -/
def occupiedPhases (template : Template) : List String :=
  template.phases.filter fun phase => !(template.inPhase phase).isEmpty

theorem mem_occupiedPhases :
    phase ∈ template.occupiedPhases ↔ phase ∈ template.phases ∧ template.inPhase phase ≠ [] := by
  simp [occupiedPhases]

theorem IsChecked.occupiedPhases_nodup (checked : template.IsChecked) :
    template.occupiedPhases.Nodup :=
  checked.phases_nodup.filter _

theorem IsChecked.phase_mem_occupied (checked : template.IsChecked)
    (declared : question ∈ template.questions) : question.phase ∈ template.occupiedPhases := by
  refine mem_occupiedPhases.mpr ⟨checked.phase_mem declared, ?_⟩
  exact List.ne_nil_of_mem (mem_inPhase.mpr ⟨declared, rfl⟩)

/-- Phases without questions add nothing to the traversal. -/
theorem ordered_eq_flatMap_occupied :
    template.ordered = template.occupiedPhases.flatMap template.inPhase := by
  unfold ordered occupiedPhases
  induction template.phases with
  | nil => rfl
  | cons phase phases ih =>
      rw [List.flatMap_cons, ih, List.filter_cons]
      by_cases empty : template.inPhase phase = [] <;> simp [empty]

/-- The traversal begins in the first phase with questions. -/
theorem openingPhase?_eq : template.openingPhase? = template.occupiedPhases.head? := by
  unfold openingPhase?
  rw [ordered_eq_flatMap_occupied]
  cases split : template.occupiedPhases with
  | nil => rfl
  | cons phase rest =>
      have occupied := (mem_occupiedPhases.mp (split ▸ List.mem_cons_self)).2
      rcases List.exists_cons_of_ne_nil occupied with ⟨question, questions, first⟩
      have belongs := (mem_inPhase.mp (first ▸ List.mem_cons_self)).2
      simp [first, belongs]

/-! ## A sample -/

/-- A template whose questions are not declared in the order of their phases, and whose last phase
has none. -/
def sample : Template :=
  { identifier := some "sample"
    name := some "Sample"
    category := some "general"
    phases := ["greet", "discover", "close"]
    questions :=
      [{ id := "pain", phase := "discover", text := "What slows you down?", type := .freeText
         options := none },
       { id := "name", phase := "greet", text := "Who are you?", type := .freeText
         options := none },
       { id := "often", phase := "discover", text := "How often?", type := .scale
         options := some ["daily", "weekly"] }]
    objective := none
    version := none
    protocolRef := none
    personaRef := none
    rules := .empty
    scoring := none
    report := none
    info := some
      { phaseCount := 3, questionCount := 3, sourceRef := some "sample.md"
        usedDefaultPhases := false } }

theorem sample_isChecked : sample.IsChecked where
  identifier := rfl
  name := rfl
  category := rfl
  info := rfl
  sourceRef := rfl
  questions := by decide
  sound := by decide

end Template

end Interview
