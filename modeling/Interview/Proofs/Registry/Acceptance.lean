import Interview.Proofs.Document.Source
import Interview.Proofs.Registry.Log

/-!
# Activation of compiled templates

What a document has to have for its template to be put together, a registry asks for again when the
template is activated. Both ask for the same structure. As to the identifier they differ: a registry
takes none that is blank, while a caller who compiles a document can give one.
-/

namespace Interview

open Document

namespace Document

variable {overrides : Overrides} {override : Value} {text : String} {template : Template}

/-- The identifier that a caller knows is a text of blanks. -/
def Overrides.HasBlankIdentifier (overrides : Overrides) : Prop :=
  ∃ text, knownText? overrides.identifier = some text ∧ text.isBlankText = true

/-- Of texts, the blank ones are meant that count as overrides since they are not empty. -/
theorem Overrides.hasBlankIdentifier_iff_of_text (given : overrides.identifier = .text text) :
    overrides.HasBlankIdentifier ↔ text ≠ "" ∧ text.isBlankText = true := by
  rw [HasBlankIdentifier, given, knownText?_text]
  by_cases empty : text = ""
  · simp [empty]
  · simp [empty]

/-- The identifier of a compiled template is blank only if that of its caller is. -/
theorem exists_identifier_of_compile (compiled : compile text overrides = .ok template) :
    ∃ identifier, template.identifier = some identifier ∧
      (identifier.isBlankText = true ↔ overrides.HasBlankIdentifier) := by
  obtain ⟨made, rfl⟩ := compile_eq_ok.mp compiled
  refine ⟨made.identifierText, rfl, ?_⟩
  rcases known_or_given made.readIdentifier made.identified with known | ⟨unknown, given⟩
  · constructor
    · intro blank
      exact ⟨made.identifierText, known, blank⟩
    · intro hasBlank
      obtain ⟨other, knownToo, blank⟩ := hasBlank
      cases known.symm.trans knownToo
      exact blank
  · obtain ⟨own, isOwn, tidy⟩ := isTidy_identifierOf (fun c => isBlank_of_mem_digest) given
    have same : made.identifierText = own := eq_of_readText isOwn made.identified
    refine iff_of_false (by simp [same, tidy.2]) ?_
    intro hasBlank
    obtain ⟨other, known, -⟩ := hasBlank
    cases unknown.symm.trans known

/-- The structure of a compiled template is sound, and its compile information is there. -/
theorem sound_of_compile (compiled : compile text overrides = .ok template) :
    structuralProblems template.phases template.questions = [] ∧ template.info.isSome = true := by
  obtain ⟨made, rfl⟩ := compile_eq_ok.mp compiled
  exact ⟨made.said.sound, rfl⟩

end Document

namespace Registry

/-- A registry accepts every template that a document gives, unless its identifier is known and
blank: then the registry refuses the template, and stays as it is. -/
theorem compiled_template_is_activated_unless_blank (registry : Registry) (text : String)
    (overrides : Overrides) (template : Template)
    (compiled : compile text overrides = .ok template) :
    ∃ identifier, template.identifier = some identifier ∧
      (¬ overrides.HasBlankIdentifier →
        registry.activate template = (registry.add identifier template, .ok template)) ∧
      (overrides.HasBlankIdentifier →
        registry.activate template =
          (registry, .error (.invalid (calledName template) [.noIdentifier]))) := by
  obtain ⟨identifier, identified, blank⟩ := exists_identifier_of_compile compiled
  obtain ⟨sound, complete⟩ := sound_of_compile compiled
  have lacks : template.lacksIdentifier = identifier.isBlankText := by
    rw [Template.lacksIdentifier, identified, Option.all_some]
  have problems : template.problems = if identifier.isBlankText then [.noIdentifier] else [] := by
    rw [Template.problems, lacks, sound, List.append_nil]
  refine ⟨identifier, identified, ?_, ?_⟩
  · intro visible
    rw [if_neg (mt blank.mp visible)] at problems
    rw [activate_of_sound problems identified, if_pos complete]
  · intro isBlank
    rw [if_pos (blank.mpr isBlank)] at problems
    rw [activate_of_problems (by simp [problems]), problems]

/-- A document that does not name itself. -/
def nameless : String :=
  "## Questions\n- \x7bid: 1, phase: greet_frame, text: Who\x7d\n"

/-- What a caller knows of it. -/
def identifiedAs (identifier : String) : Overrides :=
  ⟨.text identifier, .null, .null, .text "ask.md"⟩

/-- With an identifier that is not blank, the template is accepted. -/
theorem compiled_template_is_activated_unless_blank_ask :
    ∃ template, compile nameless (identifiedAs "ask") = .ok template ∧
      ∃ identifier, template.identifier = some identifier ∧
        empty.activate template = (empty.add identifier template, .ok template) := by
  have compiles : (compile nameless (identifiedAs "ask")).toOption.any (fun _ => true) = true := by
    decide +kernel
  obtain ⟨template, compiled, -⟩ := exists_ok_of_any compiles
  obtain ⟨identifier, identified, accepted, -⟩ :=
    compiled_template_is_activated_unless_blank empty nameless (identifiedAs "ask") template compiled
  have visible : ¬ (identifiedAs "ask").HasBlankIdentifier := by
    rw [Overrides.hasBlankIdentifier_iff_of_text rfl]
    decide
  exact ⟨template, compiled, identifier, identified, accepted visible⟩

/-- A blank identifier is taken for an override, and the template is then refused. -/
theorem blank_identifier_is_not_activated :
    ¬ ∀ (registry : Registry) (text : String) (overrides : Overrides) (template : Template),
        compile text overrides = .ok template → (registry.activate template).2 = .ok template := by
  intro claim
  have blank : (compile nameless (identifiedAs "   ")).toOption.any (·.lacksIdentifier) = true := by
    decide +kernel
  obtain ⟨template, compiled, lacks⟩ := exists_ok_of_any blank
  have accepted := claim empty nameless (identifiedAs "   ") template compiled
  have problems : template.problems ≠ [] := by
    simp [Template.problems, lacks]
  rw [activate_of_problems problems] at accepted
  cases accepted

end Registry

end Interview
