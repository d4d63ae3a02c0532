import Interview.Proofs.Document.Header
import Interview.Proofs.Registry.Version

/-!
# The normal form of compiled templates

However a document is written, a template that is made of it alone has one form: its texts are tidy,
its names are distinct and declared, its questions have known types and the options they need, and
its compile information counts what is there. The sections bring the parts of this form, and the
header the rest.

Activation checks a part of the same form once more, and so refuses no template that was made of a
document.
-/

namespace Interview

/-- The form of a template that was made of a document: tidy texts, distinct and declared names,
known types with the options they need, and true counts. -/
structure Template.IsNormal (template : Template) : Prop where
  phases_ne_nil : template.phases ≠ []
  phases_tidy : ∀ phase ∈ template.phases, phase.IsTidy
  phases_nodup : template.phases.Nodup
  ids_nodup : (template.questions.map (·.id)).Nodup
  questions : ∀ question ∈ template.questions,
    question.id.IsTidy ∧ question.text.IsTidy ∧ question.phase ∈ template.phases ∧
      question.type.isKnown = true ∧ (question.isChoice → question.hasOptions)
  identifier : ∃ identifier, template.identifier = some identifier ∧ identifier.IsTidy
  name : ∃ name, template.name = some name ∧ name.IsTidy
  category : ∃ category, template.category = some category ∧ category.IsTidy
  counts : ∃ info, template.info = some info ∧ info.phaseCount = template.phases.length ∧
    info.questionCount = template.questions.length

/-- Nothing keeps a template in normal form from being activated. -/
theorem Template.IsNormal.problems_eq_nil {template : Template} (normal : template.IsNormal) :
    template.problems = [] := by
  obtain ⟨identifier, identified, tidy⟩ := normal.identifier
  have named : template.lacksIdentifier = false := by
    simp [Template.lacksIdentifier, identified, tidy.2]
  have sound : structuralProblems template.phases template.questions = [] := by
    refine structuralProblems_eq_nil.mpr ⟨normal.phases_ne_nil, normal.phases_nodup,
      fun phase member => (normal.phases_tidy phase member).2, normal.ids_nodup, ?_⟩
    intro question member
    obtain ⟨-, -, declared, -, options⟩ := normal.questions question member
    exact ⟨declared, options⟩
  simp [Template.problems, named, sound]

namespace Document

open Interview.Text

variable {sections : List Section} {body : Body} {fields : List (Value × Value)}
variable {question : Question} {field phase found : String} {template : Template}

/-! ## Phases -/

/-- The names of phases are trimmed, whether they stand in the document or are the standard ones. -/
theorem trimBlank_of_mem_phasesIn (member : phase ∈ (phasesIn sections).1) :
    phase.trimBlank = phase := by
  unfold phasesIn at member
  split at member
  · exact (by decide : ∀ phase ∈ standardPhases, phase.trimBlank = phase) phase member
  · obtain ⟨line, -, rfl⟩ := List.mem_map.mp member
    rw [String.trimBlank, String.toList_ofList, trim_trim]

/-! ## Questions -/

/-- A field that is not missing has a tidy text. -/
theorem isTidy_fieldText (there : isFieldMissing fields field = .ok false)
    (read : fieldText fields field = .ok found) : found.IsTidy := by
  unfold isFieldMissing at there
  unfold fieldText at read
  split at there
  · cases there
  · cases there
  next value _ present =>
      obtain ⟨written, wrote, visible⟩ := bind_eq_ok.mp there
      rw [present] at read
      obtain ⟨_, again, shown⟩ := bind_eq_ok.mp read
      cases wrote.symm.trans again
      cases shown
      exact String.isTidy_trimBlank (Except.ok.inj visible)

/-- Where nothing needed is missing, each needed field is there. -/
theorem isFieldMissing_of_missingFields (complete : missingFields fields = .ok [])
    (needed : field ∈ neededFields) : isFieldMissing fields field = .ok false := by
  obtain ⟨all, none⟩ := filterM_eq_ok.mp complete
  obtain ⟨answer, asked⟩ := all field needed
  have no := List.filter_eq_nil_iff.mp none.symm field needed
  rw [asked, saysYes_ok, Bool.not_eq_true] at no
  rw [asked, no]

/-- A question that is made of an entry has a tidy id and text and a type that is known. -/
theorem normal_of_questionOf {place : Nat} {entry : Value}
    (made : questionOf place entry = .ok (.ok question)) :
    question.id.IsTidy ∧ question.text.IsTidy ∧ question.type.isKnown = true := by
  obtain ⟨fields, -, complete, id, -, known, -, -, text⟩ := questionOf_eq_ok.mp made
  exact ⟨isTidy_fieldText (isFieldMissing_of_missingFields complete (by decide)) id,
    isTidy_fieldText (isFieldMissing_of_missingFields complete (by decide)) text, known⟩

theorem exists_entry_of_mem_questionsIn {questions : List Question}
    {problems : List DocumentProblem} (read : questionsIn sections = .ok (questions, problems))
    (member : question ∈ questions) :
    ∃ place entry, questionOf place entry = .ok (.ok question) := by
  rcases questionsIn_eq_ok.mp read with
    ⟨-, rfl, -⟩ | ⟨text, -, ⟨why, -, rfl, -⟩ | ⟨value, -, listed⟩⟩
  · cases member
  · cases member
  · unfold questionsOf at listed
    split at listed
    · cases listed
      cases member
    · obtain ⟨place, entry, -, made⟩ := exists_entry_of_mem listed member
      exact ⟨place, entry, made⟩
    · cases listed
      cases member

/-! ## Templates -/

/-- A document that nothing is known better than gives a template in normal form. -/
theorem isNormal_of_compile {text : String} {sourceRef : Value}
    (compiled : compile text ⟨.null, .null, .null, sourceRef⟩ = .ok template) :
    template.IsNormal := by
  obtain ⟨made, rfl⟩ := compile_eq_ok.mp compiled
  obtain ⟨someone, distinctPhases, visible, distinctIds, fitting⟩ :=
    structuralProblems_eq_nil.mp made.said.sound
  obtain ⟨ownIdentifier, isIdentifier, tidyIdentifier⟩ :=
    isTidy_identifierOf (fun c => isBlank_of_mem_digest) made.readIdentifier
  obtain ⟨ownName, isName, tidyName⟩ :=
    isTidy_nameOf made.outlined tidyIdentifier (isIdentifier ▸ made.readName)
  obtain ⟨ownCategory, isCategory, tidyCategory⟩ := isTidy_categoryOf made.readCategory
  exact
    { phases_ne_nil := someone
      phases_tidy := fun phase (member : phase ∈ made.body.phases) =>
        ⟨trimBlank_of_mem_phasesIn (made.said.phases ▸ member), visible phase member⟩
      phases_nodup := distinctPhases
      ids_nodup := distinctIds
      questions := fun question member => by
        obtain ⟨place, entry, read⟩ := exists_entry_of_mem_questionsIn made.said.questions member
        obtain ⟨tidyId, tidyText, known⟩ := normal_of_questionOf read
        obtain ⟨declared, options⟩ := fitting question member
        exact ⟨tidyId, tidyText, declared, known, options⟩
      identifier := ⟨_, congrArg some (eq_of_readText isIdentifier made.identified), tidyIdentifier⟩
      name := ⟨_, congrArg some (eq_of_readText isName made.named), tidyName⟩
      category := ⟨_, congrArg some (eq_of_readText isCategory made.categorized), tidyCategory⟩
      counts := ⟨_, rfl, rfl, rfl⟩ }

end Document

/-! ## Activation of compiled documents -/

namespace Registry

open Document

variable {registry : Registry} {document sourceRef : Value} {text : String} {template : Template}

/-- A document that compiles is activated, and its template comes to the versions of its
identifier. -/
theorem compileAndActivate_of_compile (registry : Registry)
    (compiled : compile text ⟨.null, .null, .null, sourceRef⟩ = .ok template) :
    ∃ identifier, template.identifier = some identifier ∧
      registry.compileAndActivate (.text text) sourceRef =
        (registry.add identifier template, .ok template) := by
  have normal := isNormal_of_compile compiled
  obtain ⟨identifier, identified, -⟩ := normal.identifier
  obtain ⟨info, counted, -⟩ := normal.counts
  refine ⟨identifier, identified, ?_⟩
  have opened : registry.compileAndActivate (.text text) sourceRef = registry.activate template := by
    simp only [compileAndActivate, compileValue, Overrides.none, compiled]
  rw [opened, activate_of_sound normal.problems_eq_nil identified, counted]
  rfl

/-- To compile and activate a document either fails with a fault of the document, and changes
nothing, or adds the template that the document gives. -/
theorem compileAndActivate_cases (registry : Registry) (document sourceRef : Value) :
    (∃ fault, registry.compileAndActivate document sourceRef =
        (registry, .error (.document fault))) ∨
      ∃ text template identifier, document = .text text ∧
        compile text ⟨.null, .null, .null, sourceRef⟩ = .ok template ∧
        template.identifier = some identifier ∧
        registry.compileAndActivate document sourceRef =
          (registry.add identifier template, .ok template) := by
  cases outcome : compileValue document { Overrides.none with sourceRef } with
  | error fault => exact .inl ⟨fault, by simp [compileAndActivate, outcome]⟩
  | ok template =>
      cases document with
      | text text =>
          obtain ⟨identifier, identified, added⟩ :=
            compileAndActivate_of_compile registry outcome
          exact .inr ⟨text, template, identifier, rfl, outcome, identified, added⟩
      | _ => cases outcome

end Registry

/-! ## Main result -/

/-- A template that is made of a document alone is in normal form and passes the check of its
structure. So no document is refused by that check, whatever the registry holds, and a document that
is compiled and activated gives the active version of its identifier. -/
theorem compiled_templates_are_normal (text : String) (sourceRef : Value) :
    (∀ template, Document.compile text ⟨.null, .null, .null, sourceRef⟩ = .ok template →
      template.IsNormal ∧ template.problems = []) ∧
      ∀ registry : Registry,
        (∀ identifier problems,
          (registry.compileAndActivate (.text text) sourceRef).2 ≠
            .error (.invalid identifier problems)) ∧
        ∀ template,
          Document.compile text ⟨.null, .null, .null, sourceRef⟩ = .ok template ↔
            (registry.compileAndActivate (.text text) sourceRef).2 = .ok template ∧
              ∃ identifier, template.identifier = some identifier ∧
                (registry.compileAndActivate (.text text) sourceRef).1.active identifier =
                  .ok template := by
  constructor
  · intro template compiled
    have normal := Document.isNormal_of_compile compiled
    exact ⟨normal, normal.problems_eq_nil⟩
  · intro registry
    rcases Registry.compileAndActivate_cases registry (.text text) sourceRef with
      ⟨fault, refused⟩ | ⟨_, template, identifier, ⟨⟩, compiled, identified, added⟩
    · refine ⟨by simp [refused], fun template => ⟨fun compiled => ?_, by simp [refused]⟩⟩
      obtain ⟨identifier, -, added⟩ :=
        Registry.compileAndActivate_of_compile registry compiled
      cases congrArg Prod.snd (refused.symm.trans added)
    · refine ⟨by simp [added], fun other => ⟨fun again => ?_, fun ⟨activated, _⟩ => ?_⟩⟩
      · cases compiled.symm.trans again
        rw [added]
        exact ⟨rfl, identifier, identified, Registry.active_add_self⟩
      · rw [added] at activated
        cases activated
        exact compiled

/-- A document with the standard phases and one question, which asks for a choice. -/
def Document.sample : String :=
  "# Ask\n## Questions\n- \x7bid: 1, phase: greet_frame, text: Who, type: scale, options: [2]\x7d\n"

theorem compiled_templates_are_normal_sample :
    ∃ template, Document.compile Document.sample ⟨.null, .null, .null, .text "ask.md"⟩ = .ok template ∧
      template.IsNormal := by
  have succeeds :
      (Document.compile Document.sample ⟨.null, .null, .null, .text "ask.md"⟩).isOk = true := by
    decide +kernel
  cases compiled : Document.compile Document.sample ⟨.null, .null, .null, .text "ask.md"⟩ with
  | ok template =>
      exact ⟨template, rfl, ((compiled_templates_are_normal _ _).1 template compiled).1⟩
  | error fault =>
      rw [compiled] at succeeds
      cases succeeds

end Interview
