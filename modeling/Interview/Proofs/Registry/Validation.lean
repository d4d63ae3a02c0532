import Interview.Proofs.Registry.Version
import Interview.Proofs.Template.Record

/-!
# Activation beside validation

A template that was put together without any check is checked when it is activated. The same
template could also be written as a value and read again, which checks every field. Both ways ask
for the same structure. Activation asks for an identifier that is not blank besides, and reading for
question types that are known: a type is not part of the structure, and so an unknown one comes in.
-/

namespace Interview.Registry

open Record

variable {registry : Registry} {template : Template}

/-- A draft in which nothing is lacking is activated as the template it was taken from. -/
theorem activateDraft_draft : registry.activateDraft template.draft = registry.activate template := by
  rw [activateDraft, Template.template?_draft]

/-- A complete template is activated when its identifier is not blank and its structure is sound. -/
theorem activate_eq_ok_iff (complete : template.IsComplete) :
    (registry.activate template).2 = .ok template ↔
      template.lacksIdentifier = false ∧
        structuralProblems template.phases template.questions = [] := by
  have sound_iff : template.problems = [] ↔
      template.lacksIdentifier = false ∧
        structuralProblems template.phases template.questions = [] := by
    simp [Template.problems]
  rw [← sound_iff]
  constructor
  · intro accepted
    rcases activate_cases registry template with ⟨-, refused⟩ | ⟨-, sound, -⟩
    · rw [refused] at accepted
      cases accepted
    · exact sound
  · intro sound
    obtain ⟨identifier, identified⟩ := Option.isSome_iff_exists.mp complete.identifier
    rw [activate_of_sound sound identified, if_pos complete.info]

/-- Of a complete template that is activated, reading faults the unknown types and nothing else. The
templates that pass both checks are those that activation accepts and whose types are known, and
also those that are read back and whose identifier is not blank. -/
theorem activation_validates_all_but_types (registry : Registry) (template : Template)
    (complete : template.IsComplete) (named : template.HasNamedTypes) :
    ((registry.activateDraft template.draft).2 = .ok template →
      Template.ofValue template.toValue = Checked.withFaults template.typeFaults template) ∧
    ((registry.activateDraft template.draft).2 = .ok template ∧
        (∀ question ∈ template.questions, question.type.isKnown = true) ↔
      Template.ofValue template.toValue = .ok template ∧ template.lacksIdentifier = false) := by
  rw [activateDraft_draft, activate_eq_ok_iff complete,
    Template.ofValue_toValue_of_isComplete complete named]
  constructor
  · rintro ⟨-, sound⟩
    exact Template.guard_of_sound sound
  · constructor
    · rintro ⟨⟨identified, sound⟩, known⟩
      rw [Template.guard_of_sound sound, Checked.withFaults_eq_ok]
      exact ⟨⟨Template.typeFaults_eq_nil.mpr known, rfl⟩, identified⟩
    · rintro ⟨passed, identified⟩
      have sound := Template.sound_of_guard passed
      rw [Template.guard_of_sound sound, Checked.withFaults_eq_ok] at passed
      exact ⟨⟨identified, sound⟩, Template.typeFaults_eq_nil.mp passed.1⟩

/-- The sample with a question of a type that is not known. -/
def essay : Template :=
  { Template.sample with
    questions :=
      [{ id := "story", phase := "discover", text := "What happened?", type := .other "essay"
         options := none }] }

theorem essay_isComplete : essay.IsComplete :=
  ⟨rfl, rfl, rfl, rfl⟩

theorem essay_hasNamedTypes : essay.HasNamedTypes := by
  intro question member
  cases List.mem_singleton.mp member
  exact (by decide : QuestionType.ofName "essay" = .other "essay")

/-- The unknown type comes in, and is what reading tells. -/
theorem activation_validates_all_but_types_essay :
    (empty.activateDraft essay.draft).2 = .ok essay ∧
      Template.ofValue essay.toValue =
        .faulty [⟨.unknownType, [.key "questions", .position 0, .key "type"]⟩] :=
  ⟨rfl, (activation_validates_all_but_types empty essay essay_isComplete essay_hasNamedTypes).1 rfl⟩

/-- Activation accepts a template that validation refuses. -/
theorem activation_accepts_unknown_type :
    ¬ ∀ (registry : Registry) (template : Template), template.IsComplete → template.HasNamedTypes →
        (registry.activateDraft template.draft).2 = .ok template →
          ∃ read, Template.ofValue template.toValue = .ok read := by
  intro claim
  obtain ⟨read, valid⟩ := claim empty essay essay_isComplete essay_hasNamedTypes rfl
  cases valid

end Interview.Registry
