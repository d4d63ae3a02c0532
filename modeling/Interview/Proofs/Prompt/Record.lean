import Interview.Proofs.Prompt.Rendering
import Interview.Proofs.Value.Entries
import Interview.Prompt.Question
import Interview.Record.Write

/-!
# Prompts from records

The prompt of a question is made from records, and a layout is rendered from plain data. With every
record written as a mapping of its fields both give the same, line by line and fault by fault. So
the prompt of a question is the rendered layout for its type, trimmed and closed by a line feed.
-/

namespace Interview.Prompt

open Stencil

variable {value : Value} {pairs : List (String × Value)} {name content : String}
variable {text : Option String}

/-! ## Fields of plain data -/

theorem get_of_lookup (there : Entries.lookup name pairs = some value) :
    get (.ofEntries pairs) name = .ok value := by
  have found : (Value.ofEntries pairs).field? name = some value := by
    rw [← there, ← Value.lookup_ofEntries]
    rfl
  rw [get, found]

theorem getText_of_lookup (there : Entries.lookup name pairs = some (.text content)) :
    getText (.ofEntries pairs) name = .ok content := by
  rw [getText, get_of_lookup there, ok_bind]
  rfl

theorem getText_ofOptional (there : Entries.lookup name pairs = some (.ofOptional text)) :
    getText (.ofEntries pairs) name = .ok (shownOr text) := by
  rw [getText, get_of_lookup there, ok_bind]
  cases text <;> rfl

/-- A text that may be absent has a line under the same condition as its field. -/
theorem lineIf_ofOptional {line : String → String}
    (there : Entries.lookup name pairs = some (.ofOptional text)) :
    lineIf (.ofEntries pairs) name line = .ok (optionalLine line text) := by
  rw [lineIf, get_of_lookup there, ok_bind]
  cases text with
  | none => rfl
  | some text =>
      show (if !text.isEmpty then _ else _) = Except.ok (if text.isEmpty then "" else line text)
      cases text.isEmpty <;> rfl

/-! ## Answered questions -/

variable {exchange : Exchange} {exchanges : List Exchange}

theorem exchangeOf_toValue :
    exchangeOf exchange.toValue =
      (do .ok (exchangeLine exchange.id exchange.question (← shownAnswer exchange))) := by
  have id : getText exchange.toValue "id" = .ok exchange.id := getText_of_lookup rfl
  have question : getText exchange.toValue "question" = .ok exchange.question :=
    getText_of_lookup rfl
  have skipped : get exchange.toValue "skipped" = .ok (.bool exchange.skipped) := get_of_lookup rfl
  have answer : getText exchange.toValue "answer" = show? exchange.answer := by
    rw [Exchange.toValue, getText, get_of_lookup rfl, ok_bind]
  simp only [exchangeOf, id, question, skipped, answer, ok_bind, shownAnswer, Value.isTruthy]
  cases exchange.skipped <;> rfl

theorem mapM_exchangeOf :
    (do .ok (String.join (← (exchanges.map Exchange.toValue).mapM exchangeOf))) =
      exchangeLines exchanges := by
  induction exchanges with
  | nil => rfl
  | cons exchange exchanges ih =>
      simp only [exchangeLines, ← ih, List.map_cons, List.mapM_cons, exchangeOf_toValue, bind_assoc,
        ok_bind, pure_bind, String.join_cons]

theorem historyOf_toValue :
    historyOf (.list (exchanges.map Exchange.toValue)) = historyPart exchanges := by
  rw [historyPart, historyOf]
  cases exchanges with
  | nil => rfl
  | cons exchange exchanges =>
      rw [← mapM_exchangeOf]
      simp only [bind_assoc, ok_bind]
      rfl

/-! ## The question -/

theorem mapM_show?_text (texts : List String) : (texts.map Value.text).mapM show? = .ok texts := by
  induction texts with
  | nil => rfl
  | cons text texts ih =>
      rw [List.map_cons, List.mapM_cons, ih]
      rfl

theorem answerLinesOf_toValue {question : Question} :
    answerLinesOf (.ofType question.type) question.toValue = answerLines question := by
  have type : get question.toValue "type" = .ok (.text question.type.name) := get_of_lookup rfl
  have options : get question.toValue "options" =
      .ok ((question.options.map Value.ofTexts).getD .null) := get_of_lookup rfl
  have listed (texts : List String) : itemsOf (.ofTexts texts) = .ok (texts.map .text) := rfl
  rw [answerLines]
  cases typed : question.type with
  | freeText | other _ => rfl
  | singleChoice | multiChoice | scale =>
      simp only [Layout.ofType, answerLinesOf, type, options, ok_bind, typed, QuestionType.name]
      cases question.options with
      | none => rfl
      | some texts =>
        simp only [Option.map_some, Option.getD_some, listed, ok_bind, mapM_show?_text]
        rfl

/-- Whether questions may be merged does not matter where one is asked at a time. -/
theorem instructionOf_toValue {protocol : Protocol} :
    instructionOf protocol.toValue =
      .ok (instructionLine protocol.oneQuestionMode protocol.allowMerging) := by
  have alone : get protocol.toValue "one_question_mode" = .ok (.bool protocol.oneQuestionMode) :=
    get_of_lookup rfl
  have merging :
      get protocol.toValue "allow_question_merging" = .ok (.bool protocol.allowMerging) :=
    get_of_lookup rfl
  simp only [instructionOf, alone, merging, ok_bind, Value.isTruthy]
  cases protocol.oneQuestionMode <;> rfl

/-! ## The whole -/

/-- What a layout is rendered from for a question: every record as plain data. -/
def plainContext (persona : Persona) (protocol : Protocol) (template : Template)
    (session : Session) (question : Question) : Value :=
  .ofEntries
    [("persona", persona.toValue), ("protocol", protocol.toValue), ("playbook", template.toValue),
     ("question", question.toValue), ("phase", .text (session.phaseOr question.phase)),
     ("history", .list ((session.history template).map Exchange.toValue))]

variable {persona : Persona} {protocol : Protocol} {template : Template} {session : Session}
variable {question : Question}

/-- The lines of a prompt are those of the layout for its question, rendered from plain data. -/
theorem questionText_eq_render :
    questionText persona protocol template session question =
      render (.ofType question.type) (plainContext persona protocol template session question) := by
  have personaThere : get (plainContext persona protocol template session question) "persona" =
      .ok persona.toValue := get_of_lookup rfl
  have protocolThere : get (plainContext persona protocol template session question) "protocol" =
      .ok protocol.toValue := get_of_lookup rfl
  have playbookThere : get (plainContext persona protocol template session question) "playbook" =
      .ok template.toValue := get_of_lookup rfl
  have questionThere : get (plainContext persona protocol template session question) "question" =
      .ok question.toValue := get_of_lookup rfl
  have phase : getText (plainContext persona protocol template session question) "phase" =
      .ok (session.phaseOr question.phase) := getText_of_lookup rfl
  have history : get (plainContext persona protocol template session question) "history" =
      .ok (.list ((session.history template).map Exchange.toValue)) := get_of_lookup rfl
  have slug : getText persona.toValue "slug" = .ok persona.slug := getText_of_lookup rfl
  have named : getText persona.toValue "name" = .ok persona.name := getText_of_lookup rfl
  have description : lineIf persona.toValue "description" (· ++ "\n") =
      .ok (optionalLine (· ++ "\n") persona.description) := lineIf_ofOptional rfl
  have tone : lineIf persona.toValue "base_tone" toneLine =
      .ok (optionalLine toneLine persona.baseTone) := lineIf_ofOptional rfl
  have titled : getText template.toValue "name" = .ok (shownOr template.name) :=
    getText_ofOptional rfl
  have identifier : getText template.toValue "identifier" = .ok (shownOr template.identifier) :=
    getText_ofOptional rfl
  have category : getText template.toValue "category" = .ok (shownOr template.category) :=
    getText_ofOptional rfl
  have objective : lineIf template.toValue "objective" objectiveLine =
      .ok (optionalLine objectiveLine template.objective) := lineIf_ofOptional rfl
  have id : getText question.toValue "id" = .ok question.id := getText_of_lookup rfl
  have text : getText question.toValue "text" = .ok question.text := getText_of_lookup rfl
  simp only [questionText, render, personaThere, protocolThere, playbookThere, questionThere, phase,
    history, slug, named, description, tone, titled, identifier, category, objective, id, text,
    historyOf_toValue, answerLinesOf_toValue, instructionOf_toValue, ok_bind]

/-! ## Main result -/

/-- The prompt of a question is the layout for its type, rendered from plain data, trimmed, and
closed by a line feed; where one of the two fails, the other one does for the same fault. The layout
is the one that lists options where the question is a choice or a scale, and the one for own words
otherwise, and rendering it is filling the stencil that its text is read as. No field of a record
has to be there for this. -/
theorem ofQuestion_eq_rendered_layout (persona : Persona) (protocol : Protocol)
    (template : Template) (session : Session) (question : Question) :
    let context := plainContext persona protocol template session question
    let name :=
      if question.type ∈ [.singleChoice, .multiChoice, .scale] then "choice.jinja2"
      else "free_text.jinja2"
    ∃ layout stencil, Layout.name layout = name ∧ Stencil.open? layoutTexts name = some stencil ∧
      ofQuestion persona protocol template session question =
        (do .ok ((← render layout context).trimBlank ++ "\n")) ∧
      render layout context = stencil.fill (get context) := by
  intro context name
  have named : (Layout.ofType question.type).name = name := by
    simp only [name]
    cases question.type <;> rfl
  refine ⟨.ofType question.type, ofLayout (.ofType question.type), named, ?_, ?_, ?_⟩
  · rw [← named, open?_name]
  · rw [ofQuestion, questionText_eq_render]
  · exact render_eq_fill _ context

end Interview.Prompt
