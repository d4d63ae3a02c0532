import Interview.Prompt.Wording
import Interview.Value.Display

/-!
# Prompts from dynamic values

A prompt can be made of any mapping that has the fields which its lines show. A field that is
needed and not there is a fault; one that no line needs does not matter. The lines are made in
order, and the first fault counts.
-/

namespace Interview.Prompt

/-- A result of making lines of a prompt. -/
abbrev Made (α : Type) := Except Fault α

/-- A field of a value, which has to be there. -/
def get (value : Value) (name : String) : Made Value :=
  match value.field? name with
  | some field => .ok field
  | none => .error .undefined

/-- The text of a value. -/
def show? (value : Value) : Made String :=
  match value.text? with
  | some text => .ok text
  | none => .error .longNumber

/-- The text of a field. -/
def getText (value : Value) (name : String) : Made String := do
  show? (← get value name)

/-- The items of a value that can be gone through: of a mapping its keys, of a text its
characters. -/
def itemsOf : Value → Made (List Value)
  | .list items => .ok items
  | .set members => .ok members
  | .pair first second => .ok [first, second]
  | .mapping entries => .ok (entries.map Prod.fst)
  | .text content => .ok (content.toList.map fun c => .text (String.ofList [c]))
  | .bytes octets => .ok (octets.map fun octet => .int octet.toNat)
  | _ => .error .notIterable

/-- A line that shows a field if the field counts as true. -/
def lineIf (value : Value) (name : String) (line : String → String) : Made String := do
  let field ← get value name
  if field.isTruthy then do .ok (line (← show? field)) else .ok ""

/-- The line of one answered question. -/
def exchangeOf (item : Value) : Made String := do
  let id ← getText item "id"
  let question ← getText item "question"
  let skipped ← get item "skipped"
  let answer ← if skipped.isTruthy then .ok skippedMark else getText item "answer"
  .ok (exchangeLine id question answer)

/-- The lines of the answered questions, if there are any. -/
def historyOf (history : Value) : Made String := do
  if history.isTruthy then
    let lines ← (← itemsOf history).mapM exchangeOf
    .ok (historyTitle ++ String.join lines ++ "\n")
  else .ok ""

/-- The lines that say how to answer. -/
def answerLinesOf (layout : Layout) (question : Value) : Made String := do
  match layout with
  | .plain => .ok ""
  | .freeText => .ok freeTextLine
  | .choice =>
    let title :=
      match ← get question "type" with
      | .text "multi_choice" => multiChoiceTitle
      | .text "scale" => scaleTitle
      | _ => singleChoiceTitle
    let options ← (← itemsOf (← get question "options")).mapM show?
    .ok (title ++ String.join (options.map optionLine))

/-- The line that says what the facilitator may do. -/
def instructionOf (protocol : Value) : Made String := do
  if (← get protocol "one_question_mode").isTruthy then .ok (instructionLine true false)
  else .ok (instructionLine false (← get protocol "allow_question_merging").isTruthy)

/-- The prompt that a mapping gives. -/
def render (layout : Layout) (context : Value) : Made String := do
  let persona ← get context "persona"
  let greeting := greetingLine (← getText persona "name") (← getText persona "slug")
  let description ← lineIf persona "description" (· ++ "\n")
  let tone ← lineIf persona "base_tone" toneLine
  let playbook ← get context "playbook"
  let title := playbookLine (← getText playbook "name") (← getText playbook "identifier")
    (← getText playbook "category")
  let objective ← lineIf playbook "objective" objectiveLine
  let phase := phaseLine (← getText context "phase")
  let history ← historyOf (← get context "history")
  let question ← get context "question"
  let asked := questionLines (← getText question "id") (← getText question "text")
  let answer ← answerLinesOf layout question
  let instruction ← instructionOf (← get context "protocol")
  .ok (greeting ++ description ++ tone ++ "\n" ++ title ++ objective ++ phase ++ "\n" ++ history ++
    asked ++ answer ++ "\n" ++ instruction)

end Interview.Prompt
