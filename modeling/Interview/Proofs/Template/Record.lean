import Interview.Proofs.Protocol.Override
import Interview.Proofs.Template.Structure

/-!
# Templates that are read back

A template can be written as a value and read again. Every field comes back as it was, but for a
question type that is not known, which is a fault at its place. So a template comes back exactly if
it is checked; what a template lacks for that is told by the faults.
-/

namespace Interview

open Record

variable {α β γ : Type} {name : String} {value : Value} {pairs : List (String × Value)}
variable {reader : Reader α} {default : Option α} {entries : Entries Value}
variable {question : Question} {questions : List Question} {template : Template}

/-! ## Values beside faults -/

/-- A value, unless there are faults. -/
def Record.Checked.withFaults (faults : List Fault) (value : α) : Checked α :=
  match faults with
  | [] => .ok value
  | faults => .faulty faults

namespace Record.Checked

variable {faults others : List Fault} {first : α} {second : β}

theorem map_withFaults {f : α → β} : f <$> withFaults faults first = withFaults faults (f first) := by
  cases faults <;> rfl

theorem seq_withFaults {f : α → β} :
    withFaults faults f <*> withFaults others first = withFaults (faults ++ others) (f first) := by
  cases faults <;> cases others <;> simp [withFaults, Seq.seq, apply]

theorem under_withFaults {step : Step} :
    (withFaults faults first).under step = withFaults (faults.map (·.under step)) first := by
  cases faults <;> rfl

theorem withFaults_eq_ok {result : α} : withFaults faults first = .ok result ↔ faults = [] ∧ first = result := by
  cases faults <;> simp [withFaults]

end Record.Checked

open Record.Checked

/-! ## Fields -/

theorem field_of_lookup (there : Entries.lookup name pairs = some value) :
    field (pairs.map fun pair => (.text pair.1, pair.2)) name [] default reader =
      (reader value).under (.key name) := by
  unfold field firstPresent
  rw [Value.lookup_ofEntries, there]

/-- Entries are read back as they are. -/
theorem readEntries_ofEntries : readEntries (.ofEntries entries.toList) = .ok entries := by
  have each (pairs : List (String × Value)) :
      collect (pairs.map fun pair => (fun key => (key, pair.2)) <$> readText (.text pair.1)) =
        .ok pairs := by
    induction pairs with
    | nil => rfl
    | cons pair pairs ih =>
        rw [List.map_cons, collect, ih]
        rfl
  have whole : Entries.ofList entries.toList = entries :=
    Entries.eq_of_toList (Entries.toList_ofList entries.distinct)
  have read : collect (entries.toList.map fun pair =>
      (fun key => (key, pair.2)) <$> readText (.text pair.1)) = .ok entries.toList :=
    each entries.toList
  simp only [Value.ofEntries, readEntries, List.map_map, Function.comp_def, read]
  exact congrArg Checked.ok whole

/-! ## Questions -/

/-- A type is what its name says. No type that is not known has the name of one that is. -/
def QuestionType.IsNamed (type : QuestionType) : Prop :=
  ofName type.name = type

/-- The fault of a question that has an unknown type. -/
def Question.typeFaults (question : Question) : List Fault :=
  if question.type.isKnown then [] else [⟨.unknownType, [.key "type"]⟩]

theorem Question.ofValue_toValue (named : question.type.IsNamed) :
    Question.ofValue question.toValue = withFaults question.typeFaults question := by
  have type : QuestionType.ofValue (.text question.type.name) =
      if question.type.isKnown then .ok question.type else .fail .unknownType := by
    simp only [QuestionType.ofValue]
    rw [named]
  have options : readOptional (readList readText)
      ((question.options.map Value.ofTexts).getD .null) = .ok question.options := by
    cases question.options with
    | none => rfl
    | some options =>
        show some <$> readList readText (.ofTexts options) = _
        rw [Protocol.readList_ofTexts]
        rfl
  simp only [Question.ofValue, Question.toValue, Value.ofEntries, recordEntries, andThen]
  rw [field_of_lookup rfl, field_of_lookup rfl, field_of_lookup rfl, field_of_lookup rfl,
    field_of_lookup rfl, type, options, typeFaults]
  split <;> rfl

/-- The faults of questions with unknown types, each at the position of its question. -/
def typeFaultsFrom (position : Nat) : (questions : List Question) → List Fault
  | [] => []
  | question :: questions =>
    question.typeFaults.map (·.under (.position position)) ++
      typeFaultsFrom (position + 1) questions

theorem typeFaultsFrom_eq_nil {position : Nat} :
    typeFaultsFrom position questions = [] ↔ ∀ question ∈ questions, question.IsChecked := by
  induction questions generalizing position with
  | nil => simp [typeFaultsFrom]
  | cons question questions ih =>
      rw [typeFaultsFrom, List.append_eq_nil_iff, ih, List.map_eq_nil_iff, List.forall_mem_cons]
      refine and_congr_left' ?_
      simp [Question.typeFaults, Question.IsChecked]

theorem collect_readEach_questions {position : Nat}
    (named : ∀ question ∈ questions, question.type.IsNamed) :
    collect (readEach Question.ofValue position (questions.map Question.toValue)) =
      withFaults (typeFaultsFrom position questions) questions := by
  induction questions generalizing position with
  | nil => rfl
  | cons question questions ih =>
      obtain ⟨own, named⟩ := List.forall_mem_cons.mp named
      rw [List.map_cons, readEach, collect, ih named, Question.ofValue_toValue own,
        under_withFaults, map_withFaults, seq_withFaults]
      rfl

/-! ## Templates -/

theorem CompileInfo.ofValue_toValue {info : CompileInfo} {source : String}
    (recorded : info.sourceRef = some source) :
    CompileInfo.ofValue info.toValue = .ok info := by
  obtain ⟨phaseCount, questionCount, sourceRef, usedDefaultPhases⟩ := info
  cases recorded
  simp only [CompileInfo.ofValue, CompileInfo.toValue, Value.ofEntries, recordEntries, andThen]
  iterate 4 rw [field_of_lookup rfl]
  rfl

namespace Template

/-- Every field that a template has to have is there. -/
structure IsComplete (template : Template) : Prop where
  identifier : template.identifier.isSome
  name : template.name.isSome
  category : template.category.isSome
  sourceRef : template.sourceRef?.isSome

theorem IsComplete.info (complete : template.IsComplete) : template.info.isSome := by
  obtain ⟨source, recorded⟩ := Option.isSome_iff_exists.mp complete.sourceRef
  obtain ⟨info, there, -⟩ := Option.bind_eq_some_iff.mp recorded
  exact Option.isSome_of_eq_some there

theorem IsChecked.isComplete (checked : template.IsChecked) : template.IsComplete :=
  ⟨checked.identifier, checked.name, checked.category, checked.sourceRef⟩

/-- Every question has a type that is what its name says. -/
def HasNamedTypes (template : Template) : Prop :=
  ∀ question ∈ template.questions, question.type.IsNamed

theorem IsChecked.hasNamedTypes (checked : template.IsChecked) : template.HasNamedTypes :=
  fun question member => QuestionType.ofName_name_of_isKnown (checked.questions question member)

/-- The faults of the questions with unknown types. -/
def typeFaults (template : Template) : List Fault :=
  (typeFaultsFrom 0 template.questions).map (·.under (.key "questions"))

theorem typeFaults_eq_nil :
    template.typeFaults = [] ↔ ∀ question ∈ template.questions, question.IsChecked := by
  rw [typeFaults, List.map_eq_nil_iff, typeFaultsFrom_eq_nil]

/-- A complete template is read back as it is, unless a question type is unknown or its structure is
not sound. -/
theorem ofValue_toValue_of_isComplete (complete : template.IsComplete)
    (named : template.HasNamedTypes) :
    Template.ofValue template.toValue = Template.guard (withFaults template.typeFaults template) := by
  obtain ⟨identifier, name, category, phases, questions, objective, version, protocolRef, personaRef,
    rules, scoring, report, info⟩ := template
  obtain ⟨hasIdentifier, hasName, hasCategory, hasSource⟩ := complete
  obtain ⟨identifier, rfl⟩ := Option.isSome_iff_exists.mp hasIdentifier
  obtain ⟨name, rfl⟩ := Option.isSome_iff_exists.mp hasName
  obtain ⟨category, rfl⟩ := Option.isSome_iff_exists.mp hasCategory
  obtain ⟨source, recorded⟩ := Option.isSome_iff_exists.mp hasSource
  obtain ⟨⟨phaseCount, questionCount, -, usedDefaultPhases⟩, rfl, rfl⟩ :=
    Option.bind_eq_some_iff.mp recorded
  have readQuestions : readList Question.ofValue (.list (questions.map Question.toValue)) =
      withFaults (typeFaultsFrom 0 questions) questions :=
    collect_readEach_questions named
  have readInfo : CompileInfo.ofValue
      (CompileInfo.toValue ⟨phaseCount, questionCount, some source, usedDefaultPhases⟩) =
        .ok ⟨phaseCount, questionCount, some source, usedDefaultPhases⟩ :=
    CompileInfo.ofValue_toValue rfl
  have readRules : readEntries (.ofEntries rules.toList) = .ok rules :=
    readEntries_ofEntries
  simp only [Template.ofValue, Template.toValue, Value.ofEntries, recordEntries, andThen,
    requiredText, optionalText]
  iterate 13 rw [field_of_lookup rfl]
  simp only [Value.ofEntries] at readRules
  simp only [Protocol.readList_ofTexts, Protocol.readOptional_ofOptional, readQuestions, readRules,
    readInfo, under_withFaults, typeFaults, Option.map_some, Option.getD_some]
  congr 1
  cases (typeFaultsFrom 0 questions).map (·.under (.key "questions")) <;> rfl

/-- Where the structure is sound, only the types of questions count. -/
theorem guard_of_sound {faults : List Fault}
    (sound : structuralProblems template.phases template.questions = []) :
    Template.guard (withFaults faults template) = withFaults faults template := by
  cases faults with
  | nil => simp [Template.guard, guarded, withFaults, andThen, sound]
  | cons fault faults => rfl

theorem sound_of_guard {faults : List Fault}
    (passed : Template.guard (withFaults faults template) = .ok template) :
    structuralProblems template.phases template.questions = [] := by
  obtain ⟨read, kept, unbroken⟩ := andThen_eq_ok.mp passed
  obtain ⟨-, rfl⟩ := withFaults_eq_ok.mp kept
  cases problems : structuralProblems template.phases template.questions with
  | nil => rfl
  | cons problem rest =>
      simp only [problems] at unbroken
      cases unbroken

/-- Of the complete templates those are read back that are checked. -/
theorem ofValue_toValue_eq_ok_iff (complete : template.IsComplete)
    (named : template.HasNamedTypes) :
    Template.ofValue template.toValue = .ok template ↔ template.IsChecked := by
  rw [ofValue_toValue_of_isComplete complete named]
  constructor
  · intro passed
    have sound := sound_of_guard passed
    rw [guard_of_sound sound, withFaults_eq_ok] at passed
    exact
      { complete with
        info := complete.info
        questions := typeFaults_eq_nil.mp passed.1
        sound }
  · intro checked
    rw [guard_of_sound checked.sound, withFaults_eq_ok]
    exact ⟨typeFaults_eq_nil.mpr checked.questions, rfl⟩

/-- A checked template is read back as it is. -/
theorem IsChecked.ofValue_toValue (checked : template.IsChecked) :
    Template.ofValue template.toValue = .ok template :=
  (ofValue_toValue_eq_ok_iff checked.isComplete checked.hasNamedTypes).mpr checked

end Template

end Interview
