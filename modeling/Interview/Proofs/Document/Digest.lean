import Interview.Proofs.Document.Outcome

/-!
# What a template owes to the digest of its document

Two documents that say the same need not have the same digest. What a template takes from the digest
is the reference to its source, where no other is known, and a name where its document has none:
`concurs_assemble` says that all else depends on the outline and the sections only, which includes
every fault.
-/

namespace Interview

/-! ## Results that concur -/

/-- Two results concur if they fail with the same fault, or succeed with values that are related. -/
inductive Concurs {ε α β : Type} (related : α → β → Prop) : Except ε α → Except ε β → Prop where
  | failed (fault : ε) : Concurs related (.error fault) (.error fault)
  | succeeded {first : α} {second : β} (values : related first second) :
      Concurs related (.ok first) (.ok second)

namespace Concurs

variable {ε α β γ δ : Type} {related : α → β → Prop} {relatedLater : γ → δ → Prop}
variable {first : Except ε α} {second : Except ε β}

theorem refl {related : α → α → Prop} (each : ∀ value, related value value)
    (result : Except ε α) : Concurs related result result := by
  cases result with
  | error fault => exact .failed fault
  | ok value => exact .succeeded (each value)

theorem imp {weaker : α → β → Prop} (concurs : Concurs related first second)
    (weaken : ∀ value other, related value other → weaker value other) :
    Concurs weaker first second := by
  cases concurs with
  | failed fault => exact .failed fault
  | succeeded values => exact .succeeded (weaken _ _ values)

/-- Results that concur still do when they are gone on with in ways that concur. -/
theorem bind {next : α → Except ε γ} {otherNext : β → Except ε δ}
    (concurs : Concurs related first second)
    (later : ∀ value other, related value other →
      Concurs relatedLater (next value) (otherNext other)) :
    Concurs relatedLater (first >>= next) (second >>= otherNext) := by
  cases concurs with
  | failed fault => exact .failed fault
  | succeeded values => exact later _ _ values

/-- The same step, gone on with in ways that concur. -/
theorem bind_same {step : Except ε α} {next : α → Except ε γ} {otherNext : α → Except ε δ}
    (later : ∀ value, Concurs relatedLater (next value) (otherNext value)) :
    Concurs relatedLater (step >>= next) (step >>= otherNext) := by
  cases step with
  | error fault => exact .failed fault
  | ok value => exact later value

/-- Nothing but the same fault concurs with a fault. -/
theorem error_iff {fault : ε} : Concurs related (.error fault) second ↔ second = .error fault := by
  constructor
  · intro concurs
    cases concurs
    rfl
  · rintro rfl
    exact .failed fault

theorem exists_of_ok {value : α} (concurs : Concurs related (.ok value) second) :
    ∃ other, second = .ok other ∧ related value other := by
  cases concurs with
  | succeeded values => exact ⟨_, rfl, values⟩

end Concurs

/-! ## Two digests -/

/-- The same value under two digests, or what is made of each of them. -/
def SameOrMade {α : Type} (make : String → α) (digest other : String) (first second : α) : Prop :=
  second = first ∨ first = make digest ∧ second = make other

theorem SameOrMade.map {α β : Type} {make : String → α} {digest other : String} {first second : α}
    (same : SameOrMade make digest other first second) (f : α → β) :
    SameOrMade (fun digest => f (make digest)) digest other (f first) (f second) := by
  rcases same with rfl | ⟨rfl, rfl⟩
  · exact .inl rfl
  · exact .inr ⟨rfl, rfl⟩

namespace Document

open Interview.Text

/-- What a template is called that is called after the digest of its document. -/
def digestIdentifier (digest : String) : String :=
  fallbackIdentifier none digest

/-- The reference to a source by its digest. -/
def digestSource (digest : String) : String :=
  "sha256:" ++ digest

/-- A template is another one, apart from what they take from the digests of their documents. -/
structure SameButDigest (digest other : String) (first second : Template) : Prop where
  identifier :
    SameOrMade (some <| digestIdentifier ·) digest other first.identifier second.identifier
  name :
    second.name = first.name ∨ first.name = first.identifier ∧ second.name = second.identifier
  info : ∃ info source,
    first.info = some info ∧ second.info = some { info with sourceRef := source } ∧
      SameOrMade (some <| digestSource ·) digest other info.sourceRef source
  others :
    { second with identifier := first.identifier, name := first.name, info := first.info } = first

theorem SameButDigest.questions {digest other : String} {first second : Template}
    (same : SameButDigest digest other first second) : second.questions = first.questions := by
  simpa using congrArg Template.questions same.others

/-- Two documents compile alike: to the same template apart from the digests, or with the same
fault. -/
def CompileAlike (overrides : Overrides) (text other : String) : Prop :=
  Concurs (SameButDigest (Digest.ofText text) (Digest.ofText other)) (compile text overrides)
    (compile other overrides)

theorem CompileAlike.questions {overrides : Overrides} {text other : String}
    (alike : CompileAlike overrides text other) :
    (compile other overrides).toOption.map Template.questions =
      (compile text overrides).toOption.map Template.questions := by
  unfold CompileAlike at alike
  generalize compile text overrides = first, compile other overrides = second at alike
  cases alike with
  | failed fault => rfl
  | succeeded values => exact congrArg some values.questions

/-! ## Putting a template together -/

variable {digest other text : String} {override : Value} {overrides : Overrides} {header : Header}
variable {content : Except Fault Body}

/-- The template of a document with a header, from what its sections say. -/
def assemble (digest : String) (overrides : Overrides) (header : Header)
    (content : Except Fault Body) : Except Fault Template := do
  let identifier ← orLong (identifierOf overrides.identifier header digest)
  let name ← orLong (nameOf overrides.name header identifier)
  let category ← orLong (categoryOf overrides.category header)
  let body ← content
  let objective ← orLong (header.text? "objective")
  let version ← orLong (header.text? "version")
  let protocolRef ← orLong (header.text? "protocol")
  let personaRef ← orLong (header.text? "persona")
  let sourceRef ← orProblems (Record.readText (sourceRefOf overrides.sourceRef digest))
  let (identifier, name, category) ← orProblems <|
    (fun identifier name category => (identifier, name, category))
      <$> Record.readText identifier <*> Record.readText name <*> Record.readText category
  .ok { identifier := some identifier
        name := some name
        category := some category
        phases := body.phases
        questions := body.questions
        objective, version, protocolRef, personaRef
        rules := body.rules
        scoring := body.scoring
        report := body.report
        info := some
          { phaseCount := body.phases.length
            questionCount := body.questions.length
            sourceRef := some sourceRef
            usedDefaultPhases := body.usesStandardPhases } }

theorem compile_eq_assemble : compile text overrides =
    outline (dropReturns text.toList) >>= fun outlined =>
      assemble (Digest.ofText text) overrides outlined.1 (bodyOf outlined.2) :=
  rfl

theorem concurs_identifierOf :
    Concurs (SameOrMade (.text <| digestIdentifier ·) digest other)
      (orLong (identifierOf override header digest))
      (orLong (identifierOf override header other)) := by
  have same (result : Except LongNumber Value) :
      Concurs (SameOrMade (.text <| digestIdentifier ·) digest other) (orLong result)
        (orLong result) :=
    .refl (fun _ => .inl rfl) _
  unfold identifierOf
  cases override.isTruthy with
  | true => exact same _
  | false =>
    cases header.text? "slug" with
    | error long => exact same (.error long)
    | ok slug =>
      cases slug with
      | some slug => exact same (.ok (.text slug))
      | none =>
        cases header.text? "name" with
        | error long => exact same (.error long)
        | ok named =>
          refine .succeeded ?_
          unfold fallbackIdentifier
          cases (named.or header.title?).bind fun text => slug? text.toList with
          | some slug => exact .inl rfl
          | none => exact .inr ⟨rfl, rfl⟩

/-- A name that falls back falls back to the identifier. -/
def FallsBack {α : Type} (identifier otherIdentifier name otherName : α) : Prop :=
  otherName = name ∨ name = identifier ∧ otherName = otherIdentifier

theorem concurs_nameOf (identifier otherIdentifier : Value) :
    Concurs (FallsBack identifier otherIdentifier)
      (orLong (nameOf override header identifier))
      (orLong (nameOf override header otherIdentifier)) := by
  unfold nameOf
  cases override.isTruthy with
  | true => exact .succeeded (.inl rfl)
  | false =>
    cases header.text? "name" with
    | error long => exact .failed _
    | ok named =>
      simp only [bind, Except.bind]
      cases named.or header.title? with
      | some name => exact .succeeded (.inl rfl)
      | none => exact .succeeded (.inr ⟨rfl, rfl⟩)

theorem concurs_sourceRefOf :
    Concurs (SameOrMade digestSource digest other)
      (orProblems (Record.readText (sourceRefOf override digest)))
      (orProblems (Record.readText (sourceRefOf override other))) := by
  cases override with
  | null => exact .succeeded (.inr ⟨rfl, rfl⟩)
  | _ => exact .refl (fun _ => .inl rfl) _

/-- The texts that a template is called by. -/
abbrev Names := String × String × String

/-- The texts of an identifier, a name and a category. -/
def namesOf (identifier name category : Value) : Except Fault Names :=
  orProblems <|
    (fun identifier name category => (identifier, name, category))
      <$> Record.readText identifier <*> Record.readText name <*> Record.readText category

/-- Names alike: the name may fall back to the identifier, and the identifier may be made of the
digest. -/
structure NamedAlike (digest other : String) (names otherNames : Names) : Prop where
  identifier : SameOrMade digestIdentifier digest other names.1 otherNames.1
  name : FallsBack names.1 otherNames.1 names.2.1 otherNames.2.1
  category : otherNames.2.2 = names.2.2

theorem concurs_namesOf {identifier otherIdentifier name otherName : Value} (category : Value)
    (identified : SameOrMade (.text <| digestIdentifier ·) digest other identifier otherIdentifier)
    (named : FallsBack identifier otherIdentifier name otherName) :
    Concurs (NamedAlike digest other) (namesOf identifier name category)
      (namesOf otherIdentifier otherName category) := by
  have same (identifier name : Value) :
      Concurs (NamedAlike digest other) (namesOf identifier name category)
        (namesOf identifier name category) :=
    .refl (fun _ => ⟨.inl rfl, .inl rfl, rfl⟩) _
  rcases identified with rfl | ⟨rfl, rfl⟩
  · rcases named with rfl | ⟨rfl, rfl⟩ <;> exact same _ _
  · unfold namesOf
    rcases named with rfl | ⟨rfl, rfl⟩
    · cases Record.readText otherName <;> cases Record.readText category
      case ok.ok => exact .succeeded ⟨.inr ⟨rfl, rfl⟩, .inl rfl, rfl⟩
      all_goals exact .failed _
    · cases Record.readText category with
      | ok text => exact .succeeded ⟨.inr ⟨rfl, rfl⟩, .inr ⟨rfl, rfl⟩, rfl⟩
      | faulty faults => exact .failed _

/-- With the same header and the same content, templates are put together alike. -/
theorem concurs_assemble :
    Concurs (SameButDigest digest other) (assemble digest overrides header content)
      (assemble other overrides header content) := by
  unfold assemble
  refine .bind concurs_identifierOf fun identifier otherIdentifier identified => ?_
  refine .bind (concurs_nameOf identifier otherIdentifier) fun name otherName named => ?_
  refine .bind_same fun category => .bind_same fun body => ?_
  refine .bind_same fun objective => .bind_same fun version => ?_
  refine .bind_same fun protocolRef => .bind_same fun personaRef => ?_
  refine .bind concurs_sourceRefOf fun source otherSource referred => ?_
  refine .bind (concurs_namesOf category identified named) fun names otherNames called => ?_
  refine .succeeded ?_
  obtain ⟨identifierText, nameText, categoryText⟩ := names
  obtain ⟨otherIdentifierText, otherNameText, otherCategoryText⟩ := otherNames
  obtain ⟨identified, named, rfl⟩ := called
  exact
    { identifier := identified.map some
      name := named.imp (congrArg some) fun ⟨fallen, otherFallen⟩ =>
        ⟨congrArg some fallen, congrArg some otherFallen⟩
      info := ⟨_, some otherSource, rfl, rfl, referred.map some⟩
      others := rfl }

end Document

end Interview
