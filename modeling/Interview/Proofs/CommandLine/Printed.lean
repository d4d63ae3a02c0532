import Interview.CommandLine.Run
import Interview.Proofs.Document.Account
import Interview.Proofs.Document.Normal
import Interview.Proofs.Template.Record
import Interview.Proofs.Value.Finite

/-!
# What is printed of a template

The template of a document is printed in JSON. All its fields are texts, counts, truth values and
lists of these, which JSON has, but for the values of its rules: a numeral beyond the range of
doubles is read as infinity, and infinity has no place in JSON. What is printed is therefore the
template with nothing in place of each infinite rule, and reading it again gives just that.
-/

namespace Interview

open Record

variable {template : Template} {value : Value} {pairs : List (String × Value)}

/-! ## What JSON carries -/

namespace Json

theorem carriedItems_eq_map (items : List Value) : carriedItems items = items.map carried := by
  induction items with
  | nil => rfl
  | cons item items ih => rw [carriedItems, ih, List.map_cons]

theorem carriedEntries_eq_map (entries : List (Value × Value)) :
    carriedEntries entries = entries.map fun entry => (entry.1, carried entry.2) := by
  induction entries with
  | nil => rfl
  | cons entry entries ih => rw [carriedEntries, ih, carriedEntry, List.map_cons]

theorem carried_ofEntries :
    carried (.ofEntries pairs) = .ofEntries (pairs.map fun pair => (pair.1, carried pair.2)) := by
  simp only [Value.ofEntries, carried, carriedEntries_eq_map, List.map_map, Function.comp_def]

theorem carried_list_of_forall {items : List Value} (same : ∀ item ∈ items, carried item = item) :
    carried (.list items) = .list items := by
  rw [carried, carriedItems_eq_map, List.map_congr_left same, List.map_id']

@[simp] theorem carried_ofOptional (text : Option String) :
    carried (.ofOptional text) = .ofOptional text := by
  cases text <;> rfl

@[simp] theorem carried_ofTexts (texts : List String) :
    carried (.ofTexts texts) = .ofTexts texts :=
  carried_list_of_forall (by simp [carried])

@[simp] theorem carried_question (question : Question) :
    carried question.toValue = question.toValue := by
  have options : carried ((question.options.map Value.ofTexts).getD .null) =
      (question.options.map Value.ofTexts).getD .null := by
    cases question.options with
    | none => rfl
    | some options => exact carried_ofTexts options
  rw [Question.toValue, carried_ofEntries]
  simp only [List.map_cons, List.map_nil, options]
  rfl

@[simp] theorem carried_info (info : CompileInfo) : carried info.toValue = info.toValue := by
  rw [CompileInfo.toValue, carried_ofEntries]
  simp only [List.map_cons, List.map_nil, carried_ofOptional]
  rfl

/-- Of a template JSON carries everything but some of its rules. -/
theorem carried_template (template : Template) :
    carried template.toValue =
      ({ template with rules := template.rules.mapValues carried }).toValue := by
  have questions : carried (.list (template.questions.map Question.toValue)) =
      .list (template.questions.map Question.toValue) :=
    carried_list_of_forall (by simp)
  have info : carried ((template.info.map CompileInfo.toValue).getD .null) =
      (template.info.map CompileInfo.toValue).getD .null := by
    cases template.info with
    | none => rfl
    | some info => exact carried_info info
  rw [Template.toValue, Template.toValue, carried_ofEntries]
  simp only [List.map_cons, List.map_nil, carried_ofOptional, carried_ofTexts, questions, info,
    carried_ofEntries]
  rfl

end Json

/-! ## The rules of a document -/

/-- Whether a value is an infinite number. -/
def Value.isInfinite : Value → Bool
  | .float number => number.isInf
  | _ => false

/-- A value with nothing in place of an infinite number. -/
def Value.withoutInfinity (value : Value) : Value :=
  if value.isInfinite then .null else value

theorem Value.withoutInfinity_eq_self_iff :
    value.withoutInfinity = value ↔ value.isInfinite = false := by
  unfold withoutInfinity
  cases infinite : value.isInfinite with
  | false => simp
  | true =>
      refine iff_of_false (fun same => ?_) (by simp)
      rw [if_pos rfl] at same
      subst same
      cases infinite

/-- A template with nothing in place of each infinite rule. -/
def Template.withoutInfinity (template : Template) : Template :=
  { template with rules := template.rules.mapValues Value.withoutInfinity }

theorem Template.withoutInfinity_eq_self_iff :
    template.withoutInfinity = template ↔
      ∀ value ∈ template.rules.values, value.isInfinite = false :=
  calc
    template.withoutInfinity = template ↔
        template.rules.mapValues Value.withoutInfinity = template.rules := by
      cases template
      simp [withoutInfinity]
    _ ↔ ∀ value ∈ template.rules.values, value.withoutInfinity = value :=
      Entries.mapValues_eq_self_iff
    _ ↔ ∀ value ∈ template.rules.values, value.isInfinite = false :=
      forall₂_congr fun _ _ => Value.withoutInfinity_eq_self_iff

namespace Document

/-- Of the values that a rule can have JSON carries all but infinity. -/
theorem carried_of_scalarValue {text : List Char} (read : scalarValue text = .ok value) :
    Json.carried value = value.withoutInfinity := by
  unfold scalarValue at read
  simp only at read
  split at read
  · cases read
    rfl
  split at read
  · cases read
    rfl
  split at read
  · cases read
    rfl
  split at read
  · cases whole : wholeNumber (String.ofList (Text.trim text)) with
    | ok n =>
        rw [whole] at read
        cases read
        rfl
    | error fault =>
        rw [whole] at read
        cases read
  split at read
  next number fraction =>
      cases read
      rw [Json.carried, Decimal.isNaN_of_readFraction? fraction, Bool.false_or]
      rfl
  · cases read
    rfl

/-- The value of a rule is what some text denotes. -/
theorem exists_scalarValue_of_mem_rules {text : String} {overrides : Overrides}
    (compiled : compile text overrides = .ok template) (member : value ∈ template.rules.values) :
    ∃ written, scalarValue written = .ok value := by
  obtain ⟨header, sections, -, kept⟩ := exists_keptIn_of_compile compiled
  obtain ⟨rule, among, rfl⟩ := List.mem_map.mp member
  have all : List.Forall₂ (fun rule _ => (∃ written, scalarValue written = .ok rule.2) ∧ True)
      template.rules.toList (ruleLines ((sectionText? "rules" sections).getD [])) :=
    kept.rules.flip.imp fun _ _ ⟨_, _, written, _, _, _, _, read⟩ => ⟨⟨written, read⟩, trivial⟩
  exact ((List.forall₂_and_left ..).mp all).1 rule among

theorem exists_text_of_compileValue {document : Value} {overrides : Overrides}
    (compiled : compileValue document overrides = .ok template) :
    ∃ text, document = .text text ∧ compile text overrides = .ok template := by
  cases document with
  | text text => exact ⟨text, rfl, compiled⟩
  | _ => cases compiled

/-- Whatever is known better than the document, its template is checked. -/
theorem isChecked_of_compile {text : String} {overrides : Overrides}
    (compiled : compile text overrides = .ok template) : template.IsChecked := by
  obtain ⟨made, rfl⟩ := compile_eq_ok.mp compiled
  exact
    { identifier := rfl
      name := rfl
      category := rfl
      info := rfl
      sourceRef := rfl
      questions := fun question member => by
        obtain ⟨place, entry, read⟩ := exists_entry_of_mem_questionsIn made.said.questions member
        exact (normal_of_questionOf read).2.2
      sound := made.said.sound }

/-- What JSON carries of the template of a document is read again. -/
theorem ofValue_carried_of_compile {document : Value} {overrides : Overrides}
    (compiled : compileValue document overrides = .ok template) :
    Template.ofValue (Json.carried template.toValue) = .ok template.withoutInfinity := by
  obtain ⟨text, rfl, compiled⟩ := exists_text_of_compileValue compiled
  have same : template.rules.mapValues Json.carried =
      template.rules.mapValues Value.withoutInfinity := by
    refine Entries.eq_of_toList (List.map_congr_left fun rule member => ?_)
    obtain ⟨written, denotes⟩ := exists_scalarValue_of_mem_rules compiled
      (List.mem_map_of_mem member)
    exact congrArg (rule.1, ·) (carried_of_scalarValue denotes)
  rw [Json.carried_template, same]
  exact Template.IsChecked.ofValue_toValue { isChecked_of_compile compiled with }

end Document

/-! ## Main result -/

/-- The template of a document, whatever is known better, is printed so that it can be read again.
What is read is the template with nothing in place of each infinite rule, so it is the template
itself exactly if no rule is infinite. This holds of the object that is printed under the name of the
template. -/
theorem printed_template_is_read_back (document : Value) (overrides : Document.Overrides)
    (template : Template) (compiled : Document.compileValue document overrides = .ok template) :
    Template.ofValue (Json.carried template.toValue) = .ok template.withoutInfinity ∧
      (Template.ofValue (Json.carried template.toValue) = .ok template ↔
        ∀ value ∈ template.rules.values, value.isInfinite = false) ∧
      ∀ (arguments : CommandLine.Arguments) (path : Path) (protocol : Option Protocol),
        arguments.summary = false →
          ∃ others, CommandLine.printed arguments path template protocol =
            Json.writeAt arguments.indent.toNat 0
              (.ofEntries (("template", Json.carried template.toValue) :: others)) ++ "\n" := by
  have read := Document.ofValue_carried_of_compile compiled
  refine ⟨read, ?_, ?_⟩
  · rw [read, Checked.ok.injEq, Template.withoutInfinity_eq_self_iff]
  · intro arguments path protocol full
    unfold CommandLine.printed CommandLine.printedValue Json.write
    rw [if_neg (by simp [full]), Json.carried_ofEntries, List.map_cons]
    exact ⟨_, rfl⟩

/-- A document with a rule beyond the range of doubles. -/
def Document.boundless : String :=
  "slug: demo\n## Phases\n- a\n## Questions\n- \x7bid: q, phase: a, text: Who\x7d\n" ++
    "## Rules\nbudget: 1e999\ntone: warm\n"

theorem Document.exists_compileValue_boundless :
    ∃ template, compileValue (.text boundless) .none = .ok template ∧
      template.rules.values.any Value.isInfinite = true := by
  have infinite : ((compileValue (.text boundless) .none).toOption.any
      fun template => template.rules.values.any Value.isInfinite) = true := by
    decide +kernel
  exact exists_ok_of_any infinite

theorem printed_template_is_read_back_boundless :
    ∃ template, Document.compileValue (.text Document.boundless) .none = .ok template ∧
      Template.ofValue (Json.carried template.toValue) = .ok template.withoutInfinity := by
  obtain ⟨template, compiled, -⟩ := Document.exists_compileValue_boundless
  exact ⟨template, compiled, (printed_template_is_read_back _ _ template compiled).1⟩

/-- A rule beyond the range of doubles is lost in what is printed. -/
theorem printed_template_loses_infinity :
    ¬ ∀ (document : Value) (overrides : Document.Overrides) (template : Template),
        Document.compileValue document overrides = .ok template →
          Template.ofValue (Json.carried template.toValue) = .ok template := by
  intro claim
  obtain ⟨template, compiled, infinite⟩ := Document.exists_compileValue_boundless
  have kept := claim _ _ template compiled
  rw [Document.ofValue_carried_of_compile compiled, Checked.ok.injEq,
    Template.withoutInfinity_eq_self_iff] at kept
  obtain ⟨value, member, above⟩ := List.any_eq_true.mp infinite
  exact absurd (kept value member) (by simp [above])

end Interview
