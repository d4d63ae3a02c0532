import Interview.Proofs.Document.Compile
import Interview.Proofs.Document.Reading

/-!
# Putting a template together

Where nothing is known better than the document says, its template depends on the texts of its
header, the title and what the sections say. `compile_none_eq_ok` says how.
-/

namespace Interview.Document

open Interview.Text

variable {text : String} {header : Header} {sections : List Section} {body : Body}
variable {texts : String → Option String} {digest : String} {template : Template}

/-- The texts under the keys of a header. -/
def Header.States (header : Header) (texts : String → Option String) : Prop :=
  ∀ key ∈ headerKeys, header.text? key = .ok (texts key)

/-- What a document without a slug is called. -/
def identifierFrom (title : Option String) (texts : String → Option String) (digest : String) :
    String :=
  (texts "slug").getD (fallbackIdentifier ((texts "name").or title) digest)

/-- The template of a document with the given title and texts in its header. -/
def templateFrom (title : Option String) (texts : String → Option String) (digest : String)
    (body : Body) : Template where
  identifier := some (identifierFrom title texts digest)
  name := some (((texts "name").or title).getD (identifierFrom title texts digest))
  category := some ((texts "category").getD generalCategory)
  phases := body.phases
  questions := body.questions
  objective := texts "objective"
  version := texts "version"
  protocolRef := texts "protocol"
  personaRef := texts "persona"
  rules := body.rules
  scoring := body.scoring
  report := body.report
  info := some
    { phaseCount := body.phases.length
      questionCount := body.questions.length
      sourceRef := some ("sha256:" ++ digest)
      usedDefaultPhases := body.usesStandardPhases }

theorem identifierOf_null (stated : header.States texts) :
    identifierOf .null header digest = .ok (.text (identifierFrom header.title? texts digest)) := by
  have slug := stated "slug" (by decide)
  have name := stated "name" (by decide)
  unfold identifierOf identifierFrom
  cases found : texts "slug" <;> simp [Value.isTruthy, slug, name, found, bind, Except.bind]

theorem nameOf_null {identifier : String} (stated : header.States texts) :
    nameOf .null header (.text identifier) =
      .ok (.text (((texts "name").or header.title?).getD identifier)) := by
  have name := stated "name" (by decide)
  unfold nameOf
  cases found : (texts "name").or header.title? <;>
    simp [Value.isTruthy, name, found, bind, Except.bind]

theorem categoryOf_null (stated : header.States texts) :
    categoryOf .null header = .ok (.text ((texts "category").getD generalCategory)) := by
  have category := stated "category" (by decide)
  simp [categoryOf, Value.isTruthy, category, bind, Except.bind]

/-- The texts of a header, where each of them can be had. -/
theorem exists_texts (written : ∀ key ∈ headerKeys, ∃ found, header.text? key = .ok found) :
    ∃ texts, header.States texts := by
  refine ⟨fun key => (header.text? key).toOption.join, fun key member => ?_⟩
  obtain ⟨found, read⟩ := written key member
  simp [read, Except.toOption]

/-- Where nothing is known better, the texts of the header can be had on the way to a template. -/
theorem Compilation.exists_texts (made : Compilation text .none) :
    ∃ texts, made.header.States texts := by
  have slug := (exists_identifierOf_iff.mp ⟨_, made.readIdentifier⟩ rfl).1
  have called := exists_nameOf_iff.mp ⟨_, made.readName⟩ rfl
  have sorted := exists_categoryOf_iff.mp ⟨_, made.readCategory⟩ rfl
  apply Document.exists_texts
  simp only [headerKeys, List.forall_mem_cons, List.not_mem_nil, false_imp_iff, implies_true,
    and_true]
  exact ⟨Header.exists_text?_iff.mpr slug, Header.exists_text?_iff.mpr called,
    Header.exists_text?_iff.mpr sorted, ⟨_, made.readObjective⟩, ⟨_, made.readProtocol⟩,
    ⟨_, made.readPersona⟩, ⟨_, made.readVersion⟩⟩

theorem Compilation.template_eq_templateFrom (made : Compilation text .none)
    (stated : made.header.States texts) :
    made.template = templateFrom made.header.title? texts (Digest.ofText text) made.body := by
  have asText := Except.ok.inj (made.readIdentifier.symm.trans (identifierOf_null stated))
  have identifier := eq_of_readText asText made.identified
  have readName := asText ▸ made.readName
  have name := eq_of_readText (Except.ok.inj (readName.symm.trans (nameOf_null stated))) made.named
  have category := eq_of_readText
    (Except.ok.inj (made.readCategory.symm.trans (categoryOf_null stated))) made.categorized
  have objective := Except.ok.inj (made.readObjective.symm.trans (stated "objective" (by decide)))
  have version := Except.ok.inj (made.readVersion.symm.trans (stated "version" (by decide)))
  have protocolRef := Except.ok.inj (made.readProtocol.symm.trans (stated "protocol" (by decide)))
  have personaRef := Except.ok.inj (made.readPersona.symm.trans (stated "persona" (by decide)))
  have sourceRef := eq_of_readText rfl made.readSource
  simp only [Compilation.template, templateFrom, identifier, name, category, objective, version,
    protocolRef, personaRef, sourceRef]

/-- The way to the template of a document whose header says these texts. -/
def Compilation.ofTexts (texts : String → Option String)
    (outlined : outline (dropReturns text.toList) = .ok (header, sections))
    (stated : header.States texts) (readBody : bodyOf sections = .ok body) :
    Compilation text .none where
  header
  sections
  body
  identifier := _
  name := _
  category := _
  objective := texts "objective"
  version := texts "version"
  protocolRef := texts "protocol"
  personaRef := texts "persona"
  sourceRef := _
  identifierText := _
  nameText := _
  categoryText := _
  outlined
  readBody
  readIdentifier := identifierOf_null stated
  readName := nameOf_null stated
  readCategory := categoryOf_null stated
  readObjective := stated "objective" (by decide)
  readVersion := stated "version" (by decide)
  readProtocol := stated "protocol" (by decide)
  readPersona := stated "persona" (by decide)
  readSource := rfl
  identified := rfl
  named := rfl
  categorized := rfl

/-- A document compiles when its outline and its sections are in order, and the texts of its header
can be had. -/
theorem compile_none_eq_ok :
    compile text .none = .ok template ↔
      ∃ header sections texts body,
        outline (dropReturns text.toList) = .ok (header, sections) ∧ header.States texts ∧
        bodyOf sections = .ok body ∧
        template = templateFrom header.title? texts (Digest.ofText text) body := by
  rw [compile_eq_ok]
  constructor
  · rintro ⟨made, rfl⟩
    obtain ⟨texts, stated⟩ := made.exists_texts
    exact ⟨made.header, made.sections, texts, made.body, made.outlined, stated, made.readBody,
      made.template_eq_templateFrom stated⟩
  · rintro ⟨header, sections, texts, body, outlined, stated, read, rfl⟩
    exact ⟨.ofTexts texts outlined stated read, rfl⟩

end Interview.Document
