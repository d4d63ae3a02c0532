import Interview.Proofs.Document.Normal
import Interview.Proofs.Document.Rule
import Interview.Proofs.Value.Entries
import Mathlib.Data.List.Forall2

/-!
# Nothing that is written gets lost

The sections of a document are read piece by piece: the phases and rules line by line, the questions
entry by entry. `Accounts` says of such a reading that every piece has given one result or one
problem, in the order of the pieces, and that there is nothing else. In a document that compiles there
are no problems, so there the results stand for the pieces one by one.
-/

namespace Interview

open Interview.Text

/-! ## Readings that account for every item -/

section

variable {α β γ : Type} {gives : List β → α → β → Prop} {fails : List β → α → γ → Prop}
variable {before results : List β} {items : List α} {problems : List γ}

/-- Every item has given one result or one problem, in order. What an item gives may depend on the
results `before` it. -/
inductive Accounts (gives : List β → α → β → Prop) (fails : List β → α → γ → Prop) :
    (before : List β) → List α → List β → List γ → Prop where
  | done {before : List β} : Accounts gives fails before [] [] []
  | result {before results : List β} {item : α} {result : β} {items : List α} {problems : List γ}
      (given : gives before item result)
      (others : Accounts gives fails (before ++ [result]) items results problems) :
      Accounts gives fails before (item :: items) (result :: results) problems
  | problem {before results : List β} {item : α} {problem : γ} {items : List α}
      {problems : List γ} (failed : fails before item problem)
      (others : Accounts gives fails before items results problems) :
      Accounts gives fails before (item :: items) results (problem :: problems)

/-- Where there are no problems, the results stand for the items one by one. -/
theorem Accounts.forall₂ (accounts : Accounts gives fails before items results problems)
    (none : problems = []) :
    List.Forall₂ (fun item result => ∃ before, gives before item result) items results := by
  induction accounts with
  | done => exact .nil
  | result given _ ih => exact .cons ⟨_, given⟩ (ih none)
  | problem => cases none

end

/-- A list of steps gives the results of its items, each in its place. -/
theorem mapM_eq_ok_iff {α β ε : Type} {step : α → Except ε β} {items : List α} {results : List β} :
    items.mapM step = .ok results ↔
      List.Forall₂ (fun item result => step item = .ok result) items results := by
  induction items generalizing results with
  | nil => cases results <;> simp [pure, Except.pure]
  | cons item items ih =>
      simp only [List.mapM_cons, Document.bind_eq_ok, pure, Except.pure, Except.ok.injEq]
      constructor
      · rintro ⟨result, first, others, rest, rfl⟩
        exact .cons first (ih.mp rest)
      · rintro (_ | ⟨first, rest⟩)
        exact ⟨_, first, _, ih.mpr rest, rfl⟩

namespace Document

variable {fields : List (Value × Value)} {field : String} {question : Question} {place : Nat}
variable {entry : Value} {entries : List Value} {line content : List Char}

/-! ## Questions -/

/-- The text of a field of an entry, without the blanks around it. -/
def HasText (fields : List (Value × Value)) (field text : String) : Prop :=
  ∃ value written, Value.lookup (.text field) fields = some value ∧
    value.text? = some written ∧ text = written.trimBlank

/-- The options of an entry: none where nothing is listed, and else the texts of what is listed. -/
def HasOptions (fields : List (Value × Value)) (options : Option (List String)) : Prop :=
  match Value.lookup (.text "options") fields with
  | none | some .null => options = none
  | some (.list items) =>
    ∃ texts, options = some texts ∧ List.Forall₂ (fun item text => item.text? = some text) items texts
  | some _ => False

/-- A question says what an entry says. -/
inductive Describes : Value → Question → Prop where
  | fields {fields : List (Value × Value)} {question : Question}
      (id : HasText fields "id" question.id) (phase : HasText fields "phase" question.phase)
      (text : HasText fields "text" question.text) (type : typeOf fields = .ok question.type)
      (options : HasOptions fields question.options) : Describes (.mapping fields) question

theorem textOf_eq_ok {value : Value} {text : String} :
    textOf value = .ok text ↔ value.text? = some text := by
  unfold textOf
  cases value.text? <;> simp

/-- A field that is there has its text. -/
theorem hasText_of_fieldText {text : String} (there : isFieldMissing fields field = .ok false)
    (read : fieldText fields field = .ok text) : HasText fields field text := by
  unfold fieldText at read
  split at read
  next value found =>
      obtain ⟨written, wrote, same⟩ := bind_eq_ok.mp read
      cases same
      exact ⟨value, written, found, textOf_eq_ok.mp wrote, rfl⟩
  next absent =>
      simp [isFieldMissing, absent] at there

theorem hasOptions_of_optionsOf {options : Option (List String)}
    (read : optionsOf fields = .ok (some options)) : HasOptions fields options := by
  unfold optionsOf at read
  split at read
  next absent =>
      cases read
      rw [HasOptions, absent]
  next null =>
      cases read
      rw [HasOptions, null]
  next items listed =>
      obtain ⟨texts, wrote, same⟩ := bind_eq_ok.mp read
      cases same
      rw [HasOptions, listed]
      exact ⟨texts, rfl, (mapM_eq_ok_iff.mp wrote).imp fun _ _ => textOf_eq_ok.mp⟩
  next => cases read

/-- A question that is made of an entry says what the entry says. -/
theorem describes_of_questionOf (made : questionOf place entry = .ok (.ok question)) :
    Describes entry question := by
  obtain ⟨fields, rfl, complete, id, type, -, options, phase, text⟩ := questionOf_eq_ok.mp made
  have there {field : String} (needed : field ∈ neededFields) :=
    isFieldMissing_of_missingFields complete needed
  exact .fields (hasText_of_fieldText (there (by decide)) id)
    (hasText_of_fieldText (there (by decide)) phase)
    (hasText_of_fieldText (there (by decide)) text) type (hasOptions_of_optionsOf options)

/-- Entries, numbered from a place on, give questions or problems. -/
def AccountsForEntries (place : Nat) (entries : List Value) (questions : List Question)
    (problems : List DocumentProblem) : Prop :=
  Accounts (fun _ (entry, _) question => Describes entry question)
    (fun _ (entry, place) problem => questionOf place entry = .ok (.error problem))
    [] (entries.zipIdx place) questions problems

theorem accounts_of_questionsFrom {before questions : List Question}
    {problems : List DocumentProblem}
    (read : questionsFrom place entries = .ok (questions, problems)) :
    Accounts (fun _ (entry, _) question => Describes entry question)
      (fun _ (entry, place) problem => questionOf place entry = .ok (.error problem))
      before (entries.zipIdx place) questions problems := by
  induction entries generalizing place before questions problems with
  | nil =>
      cases read
      exact .done
  | cons entry entries ih =>
      simp only [questionsFrom, bind_eq_ok, Prod.exists] at read
      obtain ⟨outcome, made, others, otherProblems, rest, whole⟩ := read
      rw [List.zipIdx_cons]
      cases outcome with
      | ok question =>
          cases whole
          exact .result (describes_of_questionOf made) (ih rest)
      | error problem =>
          cases whole
          exact .problem made (ih rest)

/-- Without problems, the questions of a list stand for its entries one by one. -/
theorem forall₂_of_accountsForEntries {questions : List Question}
    (accounts : AccountsForEntries place entries questions []) :
    List.Forall₂ Describes entries questions := by
  have all := accounts.forall₂ rfl
  rw [← List.zipIdx_map_fst place entries, List.forall₂_map_left_iff]
  exact all.imp fun _ _ ⟨_, describes⟩ => describes

/-! ## Phases -/

/-- The lines of a phases section that are neither blank nor a heading or comment. -/
def phaseLines (content : List Char) : List Line :=
  (lines content).filter fun line =>
    !isBlankText line && (trim line).head? != some '#' && !"<!--".toList.isPrefixOf (trim line)

/-- A phase is what a line says without its bullet. -/
def NamesPhase (line : Line) (phase : String) : Prop :=
  phase = String.ofList (trim (dropBullet (trim line)))

theorem forall₂_phasesOf (content : List Char) :
    List.Forall₂ NamesPhase (phaseLines content) (phasesOf content) := by
  have same : phasesOf content =
      (phaseLines content).map fun line => String.ofList (trim (dropBullet (trim line))) := by
    rw [phasesOf, phaseLines, List.filter_map, List.map_map]
    congr 1
    refine List.filter_congr fun line _ => ?_
    have blank : (trim line).isEmpty = isBlankText line := by
      rw [Bool.eq_iff_iff, List.isEmpty_iff, trim_eq_nil_iff]
    simp [isPhaseLine, blank]
  rw [same, List.forall₂_map_right_iff]
  exact List.forall₂_same.mpr fun _ _ => rfl

/-! ## Rules -/

theorem splitColon_eq_none : splitColon line = none ↔ ':' ∉ line := by
  induction line with
  | nil => simp [splitColon]
  | cons c rest ih =>
      rw [splitColon]
      split
      next colon => simp_all
      next other =>
          have other : ':' ≠ c := fun same => other (beq_iff_eq.mpr same.symm)
          simp [ih, other]

theorem splitColon_eq_some {key value : List Char} :
    splitColon line = some (key, value) ↔ line = key ++ ':' :: value ∧ ':' ∉ key := by
  induction line generalizing key with
  | nil => simp [splitColon]
  | cons c rest ih =>
      rw [splitColon]
      cases key with
      | nil => split <;> simp_all
      | cons d key =>
          split
          next colon =>
              have colon : c = ':' := by simpa using colon
              simp only [Option.some.injEq, Prod.mk.injEq, List.cons_append, List.cons.injEq,
                List.mem_cons, not_or]
              refine iff_of_false (fun same => by cases same.1) ?_
              rintro ⟨⟨rfl, -⟩, other, -⟩
              exact other colon.symm
          next other =>
              have other : ':' ≠ c := fun same => other (beq_iff_eq.mpr same.symm)
              simp only [Option.map_eq_some_iff, Prod.exists, Prod.mk.injEq, List.cons.injEq,
                List.cons_append, List.mem_cons, not_or]
              constructor
              · rintro ⟨before, after, split, ⟨rfl, rfl⟩, rfl⟩
                exact ⟨⟨rfl, (ih.mp split).1⟩, other, (ih.mp split).2⟩
              · rintro ⟨⟨rfl, whole⟩, -, new⟩
                exact ⟨key, value, ih.mpr ⟨whole, new⟩, ⟨rfl, rfl⟩, rfl⟩

/-- A line is a key and a value with the first colon between them. -/
structure HasParts (line key value : List Char) : Prop where
  whole : line = key ++ ':' :: value
  first : ':' ∉ key

/-- A line gives a rule under a key that has none yet. -/
def GivesRule (before : List (String × Value)) (line : List Char) (rule : String × Value) : Prop :=
  ∃ key value, HasParts line key value ∧ trim key ≠ [] ∧ rule.1 = String.ofList (trim key) ∧
    rule.1 ∉ before.map Prod.fst ∧ scalarValue value = .ok rule.2

/-- A line has no key, or one that has a rule already. -/
inductive FailsAsRule (before : List (String × Value)) (line : List Char) :
    DocumentProblem → Prop where
  | noColon (none : ':' ∉ line) : FailsAsRule before line (.malformedRule (String.ofList line))
  | noKey {key value : List Char} (parts : HasParts line key value) (blank : trim key = []) :
      FailsAsRule before line (.malformedRule (String.ofList line))
  | repeated {key value : List Char} (parts : HasParts line key value)
      (old : String.ofList (trim key) ∈ before.map Prod.fst) :
      FailsAsRule before line (.repeatedRule (String.ofList (trim key)))

theorem rule?_eq_some {key : String} {value : List Char} (found : rule? line = some (key, value)) :
    ∃ written, HasParts line written value ∧ trim written ≠ [] ∧
      key = String.ofList (trim written) := by
  unfold rule? at found
  split at found
  next written value parts =>
      split at found
      · cases found
      next visible =>
          cases found
          obtain ⟨whole, first⟩ := splitColon_eq_some.mp parts
          exact ⟨written, ⟨whole, first⟩, by simpa using visible, rfl⟩
  next => cases found

theorem failsAsRule_of_rule? {before : List (String × Value)} (none : rule? line = none) :
    FailsAsRule before line (.malformedRule (String.ofList line)) := by
  unfold rule? at none
  split at none
  next key value parts =>
      split at none
      next blank =>
          obtain ⟨whole, first⟩ := splitColon_eq_some.mp parts
          exact .noKey ⟨whole, first⟩ (by simpa using blank)
      · cases none
  next absent => exact .noColon (splitColon_eq_none.mp absent)

/-- Reading the lines of rules goes on behind the rules and the problems so far. -/
theorem accounts_of_foldlM_addRule {lines : List (List Char)} {rules last : Entries Value}
    {problems all : List DocumentProblem}
    (read : lines.foldlM addRule (rules, problems) = .ok (last, all)) :
    ∃ given faults, last.toList = rules.toList ++ given ∧ all = problems ++ faults ∧
      Accounts GivesRule FailsAsRule rules.toList lines given faults := by
  induction lines generalizing rules problems with
  | nil =>
      cases read
      exact ⟨[], [], by simp, by simp, .done⟩
  | cons line lines ih =>
      rw [List.foldlM_cons, addRule_eq, bind_eq_ok] at read
      obtain ⟨⟨next, nextProblems⟩, first, rest⟩ := read
      obtain ⟨given, faults, kept, told, accounts⟩ := ih rest
      have failed {problem : DocumentProblem}
          (first : (rules, problems ++ [problem]) = (next, nextProblems))
          (fails : FailsAsRule rules.toList line problem) :
          ∃ given faults, last.toList = rules.toList ++ given ∧ all = problems ++ faults ∧
            Accounts GivesRule FailsAsRule rules.toList (line :: lines) given faults := by
        cases first
        exact ⟨given, problem :: faults, kept, by simp [told], .problem fails accounts⟩
      split at first
      next none => exact failed (Except.ok.inj first) (failsAsRule_of_rule? none)
      next key value found =>
          obtain ⟨written, parts, visible, rfl⟩ := rule?_eq_some found
          split at first
          next old =>
              exact failed (Except.ok.inj first)
                (.repeated parts (Entries.contains_iff_mem_keys.mp old))
          next new =>
              rw [Bool.not_eq_true] at new
              cases readValue : scalarValue value with
              | error fault => simp [readValue, Except.map] at first
              | ok result =>
                  simp only [readValue, Except.map, Except.ok.injEq, Prod.mk.injEq] at first
                  obtain ⟨rfl, rfl⟩ := first
                  rw [Entries.toList_put_of_new new] at kept accounts
                  refine ⟨(String.ofList (trim written), result) :: given, faults, by simp [kept],
                    told, .result ⟨written, value, parts, visible, rfl, ?_, readValue⟩ accounts⟩
                  rwa [← Bool.not_eq_true, Entries.contains_iff_mem_keys] at new

/-- The lines of a rules section give rules or problems. -/
theorem accounts_of_rulesOf {rules : Entries Value} {problems : List DocumentProblem}
    (read : rulesOf content = .ok (rules, problems)) :
    Accounts GivesRule FailsAsRule [] (ruleLines content) rules.toList problems := by
  obtain ⟨given, faults, kept, told, accounts⟩ := accounts_of_foldlM_addRule read
  rw [List.nil_append] at told
  rw [show rules.toList = given from kept, told]
  exact accounts

/-! ## Sections -/

variable {sections : List Section} {questions : List Question}

/-- Where the questions of a section have no problem, there is one for every entry of its list. -/
theorem exists_describes_of_questionsIn (read : questionsIn sections = .ok (questions, [])) :
    ∃ content entries, sectionText? "questions" sections = some content ∧
      Yaml.content content = .ok (.list entries) ∧ List.Forall₂ Describes entries questions := by
  rcases questionsIn_eq_ok.mp read with
    ⟨-, -, ⟨⟩⟩ | ⟨content, there, ⟨why, -, -, ⟨⟩⟩ | ⟨value, held, listed⟩⟩
  cases value with
  | list entries =>
      exact ⟨content, entries, there, held,
        forall₂_of_accountsForEntries (accounts_of_questionsFrom listed)⟩
  | _ => cases listed

theorem forall₂_phasesIn (there : sectionText? "phases" sections = some content) :
    List.Forall₂ NamesPhase (phaseLines content) (phasesIn sections).1 := by
  simp only [phasesIn, there]
  exact forall₂_phasesOf content

/-- Where the rules of a section have no problem, there is one for every line of it. -/
theorem forall₂_of_rulesIn {rules : Entries Value} (read : rulesIn sections = .ok (rules, [])) :
    List.Forall₂ (fun line rule => ∃ before, GivesRule before line rule)
      (ruleLines ((sectionText? "rules" sections).getD [])) rules.toList := by
  unfold rulesIn at read
  cases given : rulesOf ((sectionText? "rules" sections).getD []) with
  | error fault => simp [given, Except.mapError] at read
  | ok result =>
      simp only [given, Except.mapError, Except.ok.injEq] at read
      subst read
      exact (accounts_of_rulesOf given).forall₂ rfl

/-! ## Templates -/

/-- The template has a question for every entry, a phase for every line of the phases section, if there
is one, and a rule for every line of the rules section, each in its place. -/
structure KeptIn (sections : List Section) (template : Template) : Prop where
  questions : ∃ content entries, sectionText? "questions" sections = some content ∧
    Yaml.content content = .ok (.list entries) ∧ List.Forall₂ Describes entries template.questions
  phases : ∀ content, sectionText? "phases" sections = some content →
    List.Forall₂ NamesPhase (phaseLines content) template.phases
  rules : List.Forall₂ (fun line rule => ∃ before, GivesRule before line rule)
    (ruleLines ((sectionText? "rules" sections).getD [])) template.rules.toList

/-- What the sections of a document say is kept in the template. -/
theorem exists_keptIn_of_compile {text : String} {overrides : Overrides} {template : Template}
    (compiled : compile text overrides = .ok template) :
    ∃ header sections, outline (dropReturns text.toList) = .ok (header, sections) ∧
      KeptIn sections template := by
  obtain ⟨made, rfl⟩ := compile_eq_ok.mp compiled
  have phases : made.template.phases = (phasesIn made.sections).1 := made.said.phases
  exact ⟨made.header, made.sections, made.outlined,
    { questions := exists_describes_of_questionsIn made.said.questions
      phases := fun content there => phases ▸ forall₂_phasesIn there
      rules := forall₂_of_rulesIn made.said.rules }⟩

end Document

/-! ## Main result -/

open Document

/-- In a document that compiles, the questions stand for the entries of its list one by one, the
phases for the lines of their section if there is one, and the rules for the lines of theirs. Of any
list of entries and any lines of rules that are read, each gives one question or rule, or else one
problem. -/
theorem authored_content_is_kept (text : String) (overrides : Overrides) :
    (∀ template, compile text overrides = .ok template →
      ∃ header sections, outline (dropReturns text.toList) = .ok (header, sections) ∧
        KeptIn sections template) ∧
      (∀ entries questions problems, questionsOf (.list entries) = .ok (questions, problems) →
        AccountsForEntries 1 entries questions problems) ∧
      ∀ content rules problems, rulesOf content = .ok (rules, problems) →
        Accounts GivesRule FailsAsRule [] (ruleLines content) rules.toList problems := by
  refine ⟨?_, ?_, ?_⟩
  · intro template compiled
    exact exists_keptIn_of_compile compiled
  · intro entries questions problems read
    exact accounts_of_questionsFrom read
  · intro content rules problems read
    exact accounts_of_rulesOf read

/-- A document with comments, blank lines, and lines with and without a bullet. -/
def Document.annotated : String :=
  "## Phases\n<!-- in order -->\n- greet\n\n* close\n## Questions\n" ++
    "- \x7bid: 1, phase: greet, text: Who\x7d\n- \x7bid: 2, phase: close, text: Bye\x7d\n" ++
    "## Rules\n# limits\n- maxFollowups: 2\n\ntone: warm\n"

theorem authored_content_is_kept_sample :
    ∃ template, compile annotated .none = .ok template ∧
      ∃ header sections, outline (dropReturns annotated.toList) = .ok (header, sections) ∧
        KeptIn sections template := by
  have succeeds : (compile annotated .none).isOk = true := by
    decide +kernel
  cases compiled : compile annotated .none with
  | ok template => exact ⟨template, rfl, (authored_content_is_kept _ _).1 template compiled⟩
  | error fault =>
      rw [compiled] at succeeds
      cases succeeds

end Interview
