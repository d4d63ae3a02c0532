import Interview.Persona
import Interview.Prompt.Wording
import Interview.Session.Progress
import Interview.Text.Blank
import Interview.Value.Display

/-!
# The prompt of a question

The prompt that asks one question of a session is made of the persona, the protocol, the template
and what was answered so far. All texts go in unchanged, and the blanks around the whole are
replaced by one line feed at its end.
-/

namespace Interview.Prompt

/-- The layout for a type of question. -/
def Layout.ofType : QuestionType → Layout
  | .singleChoice | .multiChoice | .scale => .choice
  | .freeText | .other _ => .freeText

/-- A line for a text that may be absent or empty, and is then left out. -/
def optionalLine (line : String → String) : Option String → String
  | none => ""
  | some text => if text.isEmpty then "" else line text

/-- The answer of an answered question as the prompt shows it. -/
def shownAnswer (exchange : Exchange) : Except Fault String :=
  if exchange.skipped then .ok skippedMark
  else
    match exchange.answer.text? with
    | some text => .ok text
    | none => .error .longNumber

/-- The lines of the answered questions. -/
def exchangeLines : List Exchange → Except Fault String
  | [] => .ok ""
  | exchange :: exchanges => do
    let answer ← shownAnswer exchange
    let others ← exchangeLines exchanges
    .ok (exchangeLine exchange.id exchange.question answer ++ others)

/-- The part of the prompt about the answered questions, which is left out if there are none. -/
def historyPart (history : List Exchange) : Except Fault String :=
  if history.isEmpty then .ok ""
  else do .ok (historyTitle ++ (← exchangeLines history) ++ "\n")

/-- The title above the options. -/
def choiceTitle : QuestionType → String
  | .multiChoice => multiChoiceTitle
  | .scale => scaleTitle
  | _ => singleChoiceTitle

/-- The lines that say how to answer a question. A choice needs options. -/
def answerLines (question : Question) : Except Fault String :=
  match Layout.ofType question.type, question.options with
  | .choice, some options =>
    .ok (choiceTitle question.type ++ String.join (options.map optionLine))
  | .choice, none => .error .notIterable
  | _, _ => .ok freeTextLine

/-- The lines of the prompt. -/
def questionText (persona : Persona) (protocol : Protocol) (template : Template)
    (session : Session) (question : Question) : Except Fault String := do
  let history ← historyPart (session.history template)
  let answer ← answerLines question
  .ok (greetingLine persona.name persona.slug ++
    optionalLine (· ++ "\n") persona.description ++
    optionalLine toneLine persona.baseTone ++
    "\n" ++
    playbookLine (shownOr template.name) (shownOr template.identifier)
      (shownOr template.category) ++
    optionalLine objectiveLine template.objective ++
    phaseLine (session.phaseOr question.phase) ++
    "\n" ++
    history ++
    questionLines question.id question.text ++
    answer ++
    "\n" ++
    instructionLine protocol.oneQuestionMode protocol.allowMerging)

/-- The prompt that asks a question. -/
def ofQuestion (persona : Persona) (protocol : Protocol) (template : Template) (session : Session)
    (question : Question) : Except Fault String := do
  .ok ((← questionText persona protocol template session question).trimBlank ++ "\n")

end Interview.Prompt
