import Interview.Proofs.Prompt.Stencil

/-!
# The layouts of prompts

The three layouts are kept as texts under their names. One of them is whole, and the other two put
their own lines into it, between the question and the instruction. `open?_name` says what the texts
are as stencils, down to the line feeds that are left of them. `render_eq_fill` says that the lines
of a prompt are what those stencils give: the same text or the same fault, whatever they are filled
with.
-/

namespace Interview.Prompt

/-! ## Texts -/

/-- The layout with nothing between the question and the instruction. -/
def plainLines : List String :=
  ["You are {{ persona.name }} ({{ persona.slug }}), facilitating a structured discovery interview.",
   "{% if persona.description %}",
   "{{ persona.description }}",
   "{% endif %}",
   "{% if persona.base_tone %}",
   "Tone: {{ persona.base_tone }}",
   "{% endif %}",
   "",
   "Playbook: {{ playbook.name }} ({{ playbook.identifier }}) — category: {{ playbook.category }}",
   "{% if playbook.objective %}",
   "Playbook objective: {{ playbook.objective }}",
   "{% endif %}",
   "Current phase: {{ phase }}",
   "",
   "{% if history %}",
   "Previous answers:",
   "{% for item in history %}",
   "- Q ({{ item.id }}): {{ item.question }} → A: {% if item.skipped %}(skipped){% else %}{{ item.answer }}{% endif %}",
   "",
   "{% endfor %}",
   "",
   "{% endif %}",
   "Question ID: {{ question.id }}",
   "Question: {{ question.text }}",
   "{% block answer_format %}{% endblock %}",
   "",
   "{% if protocol.one_question_mode %}",
   "Ask ONLY this one question, and wait for the user response. Do not answer on their behalf.",
   "{% elif protocol.allow_question_merging %}",
   "You may combine this question with a closely related follow-up if it keeps the conversation natural.",
   "{% else %}",
   "Ask this question, and wait for the user response. Do not answer on their behalf.",
   "{% endif %}"]

/-- The layout that lists options. -/
def choiceLines : List String :=
  ["\x7b% extends \"_base.jinja2\" %\x7d",
   "{% block answer_format %}",
   "\x7b% if question.type == \"multi_choice\" %\x7d",
   "The user may pick one or more of:",
   "\x7b% elif question.type == \"scale\" %\x7d",
   "The user picks one point on this scale:",
   "{% else %}",
   "The user picks exactly one of:",
   "{% endif %}",
   "{% for option in question.options %}",
   "  - \"\x7b\x7b option \x7d\x7d\"",
   "{% endfor %}",
   "{% endblock %}"]

/-- The layout for an answer in own words. -/
def freeTextLines : List String :=
  ["\x7b% extends \"_base.jinja2\" %\x7d",
   "{% block answer_format %}",
   "The user answers in their own words.",
   "{% endblock %}"]

/-- The name under which a layout is kept. -/
def Layout.name : Layout → String
  | .plain => "_base.jinja2"
  | .freeText => "free_text.jinja2"
  | .choice => "choice.jinja2"

/-- The text of lines, each with a line feed at its end. -/
def closedText (lines : List String) : String :=
  String.join (lines.map (· ++ "\n"))

@[simp] theorem closedText_nil : closedText [] = "" :=
  rfl

theorem closedText_cons {line : String} {lines : List String} :
    closedText (line :: lines) = line ++ "\n" ++ closedText lines := by
  rw [closedText, List.map_cons, String.join_cons, closedText]

theorem closedText_append {lines others : List String} :
    closedText (lines ++ others) = closedText lines ++ closedText others := by
  induction lines with
  | nil => rw [closedText_nil, List.nil_append, String.empty_append]
  | cons line lines ih =>
      simp only [List.cons_append, closedText_cons, ih, String.append_assoc]

theorem toList_closedText {lines : List String} :
    (closedText lines).toList = lines.flatMap fun line => line.toList ++ ['\n'] := by
  induction lines with
  | nil => rfl
  | cons line lines ih =>
      rw [closedText_cons, String.toList_append, String.toList_append, ih, List.flatMap_cons]
      rfl

/-- The texts of the layouts under their names. -/
def layoutTexts : List (String × String) :=
  [(Layout.plain.name, closedText plainLines), (Layout.choice.name, closedText choiceLines),
   (Layout.freeText.name, closedText freeTextLines)]

/-! ## Stencils -/

namespace Stencil

/-- A field of a named value. -/
def inside (name field : String) : Place :=
  ⟨name, [field]⟩

def greeting : List Stencil :=
  [.text "You are ", .hole (inside "persona" "name"), .text " (", .hole (inside "persona" "slug"),
   .text "), facilitating a structured discovery interview.\n"]

/-- A line that shows a field behind a lead, and is left out unless the field counts as true. -/
def optional (name field : String) (lead : List Stencil) : Stencil :=
  .choice (.holds (inside name field)) (row (lead ++ [.hole (inside name field), .text "\n"]))
    .nothing

def description : Stencil := optional "persona" "description" []

def tone : Stencil := optional "persona" "base_tone" [.text "Tone: "]

/-- The line of the playbook with the empty line in front of it. -/
def title : List Stencil :=
  [.text "\nPlaybook: ", .hole (inside "playbook" "name"), .text " (",
   .hole (inside "playbook" "identifier"), .text ") — category: ",
   .hole (inside "playbook" "category"), .text "\n"]

def objective : Stencil := optional "playbook" "objective" [.text "Playbook objective: "]

/-- The line of the phase with the empty line behind it. -/
def phase : List Stencil :=
  [.text "Current phase: ", .hole ⟨"phase", []⟩, .text "\n\n"]

def exchange : Stencil :=
  row
    [.text "- Q (", .hole (inside "item" "id"), .text "): ", .hole (inside "item" "question"),
     .text " → A: ",
     .choice (.holds (inside "item" "skipped")) (row [.text "(skipped)"])
       (row [.hole (inside "item" "answer")]),
     .text "\n"]

def history : Stencil :=
  .choice (.holds ⟨"history", []⟩)
    (row [.text "Previous answers:\n", .each "item" ⟨"history", []⟩ exchange, .text "\n"]) .nothing

def asked : List Stencil :=
  [.text "Question ID: ", .hole (inside "question" "id"), .text "\nQuestion: ",
   .hole (inside "question" "text"), .text "\n"]

def heading : Stencil :=
  .choice (.equals (inside "question" "type") "multi_choice")
    (row [.text "The user may pick one or more of:\n"])
    (.choice (.equals (inside "question" "type") "scale")
      (row [.text "The user picks one point on this scale:\n"])
      (row [.text "The user picks exactly one of:\n"]))

def options : Stencil :=
  .each "option" (inside "question" "options")
    (row [.text "  - \"", .hole ⟨"option", []⟩, .text "\"\n"])

/-- The lines that a layout has of its own. -/
def answer : Layout → List Stencil
  | .plain => []
  | .freeText => [.text "The user answers in their own words.\n"]
  | .choice => [heading, options]

def instruction : Stencil :=
  .choice (.holds (inside "protocol" "one_question_mode"))
    (row
      [.text "Ask ONLY this one question, and wait for the user response. Do not answer on their behalf.\n"])
    (.choice (.holds (inside "protocol" "allow_question_merging"))
      (row
        [.text "You may combine this question with a closely related follow-up if it keeps the conversation natural.\n"])
      (row
        [.text "Ask this question, and wait for the user response. Do not answer on their behalf.\n"]))

/-- The stencil of a layout. -/
def ofLayout (layout : Layout) : Stencil :=
  row
    (greeting ++ [description, tone] ++ title ++ [objective] ++ phase ++ [history] ++ asked ++
      [.block "answer_format" (row (answer layout)), .text "\n", instruction])

/-! ## Reading the texts -/

set_option maxRecDepth 4000 in
theorem read?_plain : read? (closedText plainLines) = some (ofLayout .plain, none) := by
  simp only [read?, toList_closedText, plainLines, List.flatMap_cons, List.flatMap_nil]
  repeat rw [String.toList_ofList]
  rfl

theorem read?_choice :
    read? (closedText choiceLines) =
      some (row [.block "answer_format" (row (answer .choice))], some Layout.plain.name) := by
  simp only [read?, toList_closedText, choiceLines, List.flatMap_cons, List.flatMap_nil]
  repeat rw [String.toList_ofList]
  rfl

theorem read?_freeText :
    read? (closedText freeTextLines) =
      some (row [.block "answer_format" (row (answer .freeText))], some Layout.plain.name) := by
  simp only [read?, toList_closedText, freeTextLines, List.flatMap_cons, List.flatMap_nil]
  repeat rw [String.toList_ofList]
  rfl

/-- The lines of another layout stand in the block of the plain one. -/
theorem withBlocks_ofLayout (layout : Layout) :
    (ofLayout .plain).withBlocks [("answer_format", row (answer layout))] = ofLayout layout :=
  rfl

/-- Every layout is read as its stencil. -/
theorem open?_name (layout : Layout) : open? layoutTexts layout.name = some (ofLayout layout) := by
  have plain : layoutTexts.lookup Layout.plain.name = some (closedText plainLines) := rfl
  cases layout with
  | plain => exact open?_of_whole plain read?_plain
  | freeText =>
      have there : layoutTexts.lookup Layout.freeText.name = some (closedText freeTextLines) := rfl
      rw [open?_of_base there read?_freeText plain read?_plain]
      exact congrArg some (withBlocks_ofLayout .freeText)
  | choice =>
      have there : layoutTexts.lookup Layout.choice.name = some (closedText choiceLines) := rfl
      rw [open?_of_base there read?_choice plain read?_plain]
      exact congrArg some (withBlocks_ofLayout .choice)

end Stencil

end Interview.Prompt
