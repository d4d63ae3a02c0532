import Interview.Proofs.Prompt.Record
import Interview.Proofs.Session.Views
import Interview.Proofs.Template.Soundness
import Interview.Proofs.Text.Trim
import Interview.Proofs.Value.Whole

/-!
# The lines of a prompt

A prompt is a text of lines. `promptLines` says which, and in which order: one line for each thing
that is said, an empty line between its parts, and every text as it is. A prompt is made whenever
the answers that it shows can be written, and then it is the text of these lines and nothing else.
-/

namespace Interview

open Prompt

variable {persona : Persona} {protocol : Protocol} {template : Template} {session : Session}
variable {question : Question} {questions : List Question}

/-! ## Lines -/

/-- A line for a text, unless the text is absent or empty. -/
def filledLine (line : String → String) : Option String → List String
  | some text => if text = "" then [] else [line text]
  | none => []

/-- The answer to a question as a prompt shows it. -/
def Session.shownText (session : Session) (question : Question) : String :=
  if question.id ∈ session.skipped then "(skipped)"
  else ((session.answers.find? question.id).bind Value.text?).getD ""

/-- The line of an answered question. -/
def Session.answeredLine (session : Session) (question : Question) : String :=
  "- Q (" ++ question.id ++ "): " ++ question.text ++ " → A: " ++ session.shownText question

/-- The lines about the answered questions, in the order of the template, with an empty line behind
them. -/
def Session.answeredLines (session : Session) (template : Template) : List String :=
  match template.ordered.filter (session.hasAnswer ·.id) with
  | [] => []
  | answered => "Previous answers:" :: answered.map session.answeredLine ++ [""]

/-- The lines that say how to answer a question. -/
def Question.formatLines (question : Question) : List String :=
  let listed (heading : String) : List String :=
    heading :: (question.options.getD []).map fun option => "  - \"" ++ option ++ "\""
  match question.type with
  | .singleChoice => listed "The user picks exactly one of:"
  | .multiChoice => listed "The user may pick one or more of:"
  | .scale => listed "The user picks one point on this scale:"
  | .freeText | .other _ => ["The user answers in their own words."]

/-- The line that says what the facilitator may do. -/
def Protocol.instruction (protocol : Protocol) : String :=
  if protocol.oneQuestionMode then
    "Ask ONLY this one question, and wait for the user response. Do not answer on their behalf."
  else if protocol.allowMerging then
    "You may combine this question with a closely related follow-up if it keeps the " ++
      "conversation natural."
  else "Ask this question, and wait for the user response. Do not answer on their behalf."

/-- The lines of the prompt that asks a question. -/
def promptLines (persona : Persona) (protocol : Protocol) (template : Template)
    (session : Session) (question : Question) : List String :=
  ["You are " ++ persona.name ++ " (" ++ persona.slug ++
    "), facilitating a structured discovery interview."] ++
  filledLine id persona.description ++
  filledLine ("Tone: " ++ ·) persona.baseTone ++
  ["",
   "Playbook: " ++ shownOr template.name ++ " (" ++ shownOr template.identifier ++
     ") — category: " ++ shownOr template.category] ++
  filledLine ("Playbook objective: " ++ ·) template.objective ++
  ["Current phase: " ++ session.phaseOr question.phase, ""] ++
  session.answeredLines template ++
  ["Question ID: " ++ question.id, "Question: " ++ question.text] ++
  question.formatLines ++
  ["", protocol.instruction]

/-! ## Closed lines -/

theorem append_feed {line : List Char} :
    String.ofList line ++ "\n" = String.ofList (line ++ ['\n']) :=
  String.ofList_append.symm

theorem closedText_single {line : String} : closedText [line] = line ++ "\n" := by
  rw [closedText_cons, closedText_nil, String.append_empty]

theorem optionalLine_eq {line : String → String} {text : Option String} :
    optionalLine (fun text => line text ++ "\n") text = closedText (filledLine line text) := by
  cases text with
  | none => rfl
  | some text =>
      simp only [optionalLine, filledLine, String.isEmpty_iff]
      split
      · rfl
      · exact closedText_single.symm

theorem greetingLine_eq {name slug : String} :
    greetingLine name slug =
      closedText ["You are " ++ name ++ " (" ++ slug ++
        "), facilitating a structured discovery interview."] := by
  have ending : "), facilitating a structured discovery interview." ++ "\n" =
      "), facilitating a structured discovery interview.\n" := append_feed
  rw [closedText_single, greetingLine, ← ending]
  simp only [String.append_assoc]

theorem instructionLine_eq :
    instructionLine protocol.oneQuestionMode protocol.allowMerging =
      closedText [protocol.instruction] := by
  rw [closedText_single, instructionLine, Protocol.instruction]
  cases protocol.oneQuestionMode with
  | true =>
      symm
      exact append_feed
  | false =>
      simp only [Bool.false_eq_true, if_false]
      cases protocol.allowMerging with
      | true =>
          simp only [if_true]
          rw [String.append_assoc, append_feed]
          rfl
      | false =>
          simp only [Bool.false_eq_true, if_false]
          symm
          exact append_feed

theorem join_optionLine {options : List String} :
    String.join (options.map optionLine) =
      closedText (options.map fun option => "  - \"" ++ option ++ "\"") := by
  have ending : "\"" ++ "\n" = "\"\n" := append_feed
  have line (option : String) : optionLine option = "  - \"" ++ option ++ "\"" ++ "\n" := by
    rw [optionLine, ← ending]
    simp only [String.append_assoc]
  rw [closedText, List.map_map]
  exact congrArg String.join (List.map_congr_left fun option _ => line option)

theorem answerLines_eq (complete : question.isChoice → question.hasOptions) :
    answerLines question = .ok (closedText question.formatLines) := by
  have multi : "The user may pick one or more of:" ++ "\n" = multiChoiceTitle := append_feed
  have scale : "The user picks one point on this scale:" ++ "\n" = scaleTitle := append_feed
  have single : "The user picks exactly one of:" ++ "\n" = singleChoiceTitle := append_feed
  have free : "The user answers in their own words." ++ "\n" = freeTextLine := append_feed
  rw [answerLines, Question.formatLines]
  rw [Question.isChoice, Question.hasOptions_iff] at complete
  cases typed : question.type with
  | freeText | other _ =>
      simp only [Layout.ofType, closedText_single, free]
  | singleChoice | multiChoice | scale =>
      rw [typed] at complete
      obtain ⟨first, others, listed⟩ := complete rfl
      simp only [Layout.ofType, listed, Option.getD_some, closedText_cons, choiceTitle,
        join_optionLine, single, multi, scale]

theorem playbookLine_eq {name identifier category : String} :
    playbookLine name identifier category = closedText
      ["Playbook: " ++ name ++ " (" ++ identifier ++ ") — category: " ++ category] := by
  rw [closedText_single]
  rfl

theorem phaseLine_eq {phase : String} :
    phaseLine phase = closedText ["Current phase: " ++ phase] := by
  rw [closedText_single]
  rfl

theorem questionLines_eq {id text : String} :
    questionLines id text = closedText ["Question ID: " ++ id, "Question: " ++ text] := by
  have lines : questionLines id text =
      "Question ID: " ++ id ++ "\nQuestion: " ++ text ++ "\n" := rfl
  have between : "\n" ++ "Question: " = "\nQuestion: " := String.ofList_append.symm
  rw [closedText_cons, closedText_single, lines, ← between]
  simp only [String.append_assoc]

theorem exchangeLine_eq {id text answer : String} :
    exchangeLine id text answer =
      closedText ["- Q (" ++ id ++ "): " ++ text ++ " → A: " ++ answer] := by
  rw [closedText_single]
  rfl

/-! ## The answered questions -/

/-- A prompt can show the answer to a question: there is none, or it is passed over as skipped, or
every integer in it can be written. -/
def Session.CanShow (session : Session) (question : Question) : Prop :=
  question.id ∉ session.skipped → ∀ answer, session.answers.find? question.id = some answer →
    answer.IsWritable

variable {exchange : Exchange} {exchanges : List Exchange}

theorem shownAnswer_of_tells (tells : exchange.Tells session question)
    (shown : session.CanShow question) :
    shownAnswer exchange = .ok (session.shownText question) := by
  rw [shownAnswer, Session.shownText]
  by_cases skipped : question.id ∈ session.skipped
  · rw [if_pos (tells.skipped.mpr skipped), if_pos skipped]
    rfl
  · obtain ⟨text, written⟩ := Option.isSome_iff_exists.mp
      (Value.isSome_text?_iff.mpr (shown skipped exchange.answer tells.answer))
    rw [if_neg (mt tells.skipped.mp skipped), if_neg skipped, tells.answer, written]
    simp [written]

theorem shownAnswer_eq_error (tells : exchange.Tells session question)
    (hidden : ¬ session.CanShow question) : shownAnswer exchange = .error .longNumber := by
  have ⟨kept, answer, found, long⟩ : question.id ∉ session.skipped ∧
      ∃ answer, session.answers.find? question.id = some answer ∧ ¬ answer.IsWritable := by
    simpa [Session.CanShow] using hidden
  obtain rfl : exchange.answer = answer := Option.some.inj (tells.answer.symm.trans found)
  have unwritten : exchange.answer.text? = none := by
    rw [← Option.not_isSome_iff_eq_none, Value.isSome_text?_iff]
    exact long
  rw [shownAnswer, if_neg (mt tells.skipped.mp kept), unwritten]

/-- One line for each answered question, in their order. -/
theorem exchangeLines_eq
    (tells : List.Forall₂ (fun exchange question => exchange.Tells session question)
      exchanges questions) (shown : ∀ question ∈ questions, session.CanShow question) :
    exchangeLines exchanges = .ok (closedText (questions.map session.answeredLine)) := by
  induction tells with
  | nil => rfl
  | cons first _ ih =>
      rw [exchangeLines, shownAnswer_of_tells first (shown _ List.mem_cons_self),
        ih fun question later => shown question (List.mem_cons_of_mem _ later), List.map_cons,
        ← List.singleton_append, closedText_append, Session.answeredLine, ← exchangeLine_eq,
        first.id, first.text]
      rfl

/-- One answer that cannot be shown is enough for there to be no lines. -/
theorem exchangeLines_eq_error
    (tells : List.Forall₂ (fun exchange question => exchange.Tells session question)
      exchanges questions) (hidden : ∃ question ∈ questions, ¬ session.CanShow question) :
    exchangeLines exchanges = .error .longNumber := by
  induction tells with
  | nil => simp at hidden
  | @cons exchange question exchanges questions first _ ih =>
      by_cases shown : session.CanShow question
      · have later : ∃ question ∈ questions, ¬ session.CanShow question := by
          simpa [shown] using hidden
        rw [exchangeLines, shownAnswer_of_tells first shown, ih later]
        rfl
      · rw [exchangeLines, shownAnswer_eq_error first shown]
        rfl

/-- Questions without an answer can be shown, so that the answered ones decide for all. -/
theorem canShow_answered_iff (checked : template.IsChecked) :
    (∀ question ∈ template.ordered.filter (session.hasAnswer ·.id), session.CanShow question) ↔
      ∀ question ∈ template.questions, session.CanShow question := by
  constructor
  · intro shown question declared kept answer found
    have answered : session.hasAnswer question.id := by
      rw [Session.hasAnswer, Entries.contains, found]
      rfl
    exact shown question (List.mem_filter.mpr ⟨checked.mem_ordered.mpr declared, answered⟩) kept
      answer found
  · intro shown question answered
    exact shown question (checked.mem_ordered.mp (List.mem_filter.mp answered).1)

theorem historyPart_eq (checked : template.IsChecked)
    (shown : ∀ question ∈ template.questions, session.CanShow question) :
    historyPart (session.history template) = .ok (closedText (session.answeredLines template)) := by
  have lines := exchangeLines_eq session.history_tells ((canShow_answered_iff checked).mpr shown)
  have title : "Previous answers:" ++ "\n" = historyTitle := append_feed
  have tells : List.Forall₂ (fun exchange question => exchange.Tells session question)
      (session.history template) (template.ordered.filter (session.hasAnswer ·.id)) :=
    session.history_tells
  rw [historyPart, Session.answeredLines]
  cases answered : template.ordered.filter (session.hasAnswer ·.id) with
  | nil =>
      rw [answered, List.forall₂_nil_right_iff] at tells
      rw [tells]
      rfl
  | cons question questions =>
      rw [answered] at tells lines
      obtain ⟨exchange, exchanges, -, -, made⟩ := List.forall₂_cons_right_iff.mp tells
      rw [lines, made]
      simp only [List.cons_append, closedText_cons, closedText_append, title,
        List.isEmpty_cons, String.empty_append, String.append_assoc]
      rfl

theorem historyPart_eq_error (checked : template.IsChecked)
    (hidden : ∃ question ∈ template.questions, ¬ session.CanShow question) :
    historyPart (session.history template) = .error .longNumber := by
  have some : ∃ question ∈ template.ordered.filter (session.hasAnswer ·.id),
      ¬ session.CanShow question := by
    obtain ⟨question, declared, blocked⟩ := hidden
    by_contra none
    refine blocked ((canShow_answered_iff checked).mp (fun other answered => ?_) question declared)
    exact not_not.mp fun blocked => none ⟨other, answered, blocked⟩
  have lines := exchangeLines_eq_error session.history_tells some
  rw [historyPart]
  cases made : session.history template with
  | nil =>
      rw [made] at lines
      cases lines
  | cons exchange exchanges =>
      rw [← made, lines, made]
      rfl

/-! ## The whole -/

theorem questionText_eq (checked : template.IsChecked) (declared : question ∈ template.questions)
    (shown : ∀ question ∈ template.questions, session.CanShow question) :
    questionText persona protocol template session question =
      .ok (closedText (promptLines persona protocol template session question)) := by
  have complete : question.isChoice → question.hasOptions :=
    ((structuralProblems_eq_nil.mp checked.sound).2.2.2.2 question declared).2
  have feed : closedText [""] = "\n" := closedText_single
  have description (text : Option String) :
      optionalLine (· ++ "\n") text = closedText (filledLine id text) := optionalLine_eq
  have tone (text : Option String) :
      optionalLine toneLine text = closedText (filledLine ("Tone: " ++ ·) text) := optionalLine_eq
  have objective (text : Option String) : optionalLine objectiveLine text =
      closedText (filledLine ("Playbook objective: " ++ ·) text) := optionalLine_eq
  rw [questionText, historyPart_eq checked shown, answerLines_eq complete, greetingLine_eq,
    playbookLine_eq, phaseLine_eq, questionLines_eq, instructionLine_eq, description, tone,
    objective, ← feed]
  simp only [ok_bind, ← closedText_append]
  simp only [promptLines, List.append_assoc, List.cons_append, List.nil_append]

theorem questionText_eq_error (checked : template.IsChecked)
    (hidden : ∃ question ∈ template.questions, ¬ session.CanShow question) :
    questionText persona protocol template session question = .error .longNumber := by
  rw [questionText, historyPart_eq_error checked hidden]
  rfl

/-! ## Ends of a prompt -/

section Ends

variable (persona protocol template session question)

/-- Every instruction is a sentence. -/
theorem exists_instruction_eq :
    ∃ front, protocol.instruction.toList = front ++ ['.'] := by
  refine List.getLast?_eq_some_iff.mp ?_
  rw [Protocol.instruction]
  split
  · rw [String.toList_ofList]
    rfl
  · split
    · rw [String.toList_append, String.toList_ofList, String.toList_ofList]
      rfl
    · rw [String.toList_ofList]
      rfl

theorem head?_promptLines :
    (closedText (promptLines persona protocol template session question)).toList.head? =
      some 'Y' := by
  simp only [promptLines, List.append_assoc, List.cons_append, closedText_cons, String.append_assoc,
    String.toList_append, List.head?_append]
  rfl

theorem exists_promptLines_eq :
    ∃ front, (closedText (promptLines persona protocol template session question)).toList =
      front ++ ['.', '\n'] := by
  obtain ⟨front, ends⟩ := exists_instruction_eq protocol
  have last : (closedText ["", protocol.instruction]).toList = '\n' :: front ++ ['.', '\n'] := by
    rw [toList_closedText]
    simp [ends]
  rw [promptLines, closedText_append, String.toList_append, last, ← List.append_assoc]
  exact ⟨_, rfl⟩

/-- Trimming takes the last line feed off, which is put back. -/
theorem trimBlank_closedText_promptLines :
    (closedText (promptLines persona protocol template session question)).trimBlank ++ "\n" =
      closedText (promptLines persona protocol template session question) := by
  have begins := head?_promptLines persona protocol template session question
  obtain ⟨front, ends⟩ := exists_promptLines_eq persona protocol template session question
  rw [ends] at begins
  have kept : Text.trim (front ++ ['.']) = front ++ ['.'] := by
    refine Text.strip_eq_self_iff.mpr ⟨fun first found => ?_, fun last found => ?_⟩
    · cases front with
      | nil =>
          obtain rfl : '.' = first := by simpa using found
          decide
      | cons c front =>
          obtain rfl : first = 'Y' := by simpa [Option.some.inj found] using begins
          decide
    · obtain rfl : '.' = last := by simpa using found
      decide
  have feed : Text.isBlankText ['\n'] := by decide
  have split : front ++ ['.', '\n'] = (front ++ ['.']) ++ ['\n'] := by simp
  rw [← String.toList_inj, String.toList_append, String.trimBlank, String.toList_ofList, ends,
    split, Text.trim_append_of_blank feed, kept]
  rfl

end Ends

end Interview
