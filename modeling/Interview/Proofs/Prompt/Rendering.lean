import Interview.Proofs.Prompt.Layout

/-!
# Rendering a layout

The lines of a prompt are made one by one from a mapping, and its layout is a stencil. Each line is
what one part of the stencil gives, also where a field is not there or cannot be shown, so that both
give the same text or the same fault: `render_eq_fill`.
-/

namespace Interview.Prompt

open Stencil

variable {context persona playbook asked value item : Value} {layout : Layout} {scope : Scope}
variable {name field text : String} {yes no : Stencil}

/-! ## Parts that show a field -/

theorem fill_nothing : nothing.fill scope = .ok "" :=
  rfl

theorem fill_text : (Stencil.text text).fill scope = .ok text :=
  rfl

theorem fill_lead : (row [.text text]).fill scope = .ok text := by
  simp only [fill_row_cons, fill_row_nil, fill_text, ok_bind, String.append_empty]

theorem fill_inside :
    (Stencil.hole (inside name field)).fill scope = (do getText (← scope name) field) := by
  simp only [fill, inside, Place.value_field, bind_assoc, getText]

/-- A part that depends on the truth of a field. -/
theorem fill_choice_inside :
    (Stencil.choice (.holds (inside name field)) yes no).fill scope =
      (do if (← get (← scope name) field).isTruthy then yes.fill scope else no.fill scope) := by
  simp only [fill, Test.isPassed, inside, Place.value_field, ok_bind, bind_assoc]

/-- A part that depends on the text of a field. -/
theorem fill_choice_equals :
    (Stencil.choice (.equals (inside name field) text) yes no).fill scope =
      (do if isText text (← get (← scope name) field) then yes.fill scope else no.fill scope) := by
  simp only [fill, Test.isPassed, inside, Place.value_field, ok_bind, bind_assoc]

theorem fill_optional (there : scope name = .ok value) {lead : List Stencil} {front : String}
    (fills : (row lead).fill scope = .ok front) :
    (Stencil.optional name field lead).fill scope = lineIf value field (front ++ · ++ "\n") := by
  rw [Stencil.optional, fill_choice_inside, lineIf, there]
  cases found : get value field with
  | error fault => simp only [ok_bind, found, error_bind]
  | ok content =>
      simp only [ok_bind, fill_row_append, fills, fill_row_cons, fill_row_nil, fill_inside, there,
        getText, found, fill_text, fill_nothing, bind_assoc, String.append_assoc,
        String.append_empty]

/-- What is made of each item is made of all of them. -/
theorem mapM_eq_map {α β γ : Type} (make : α → Made β) (finish : β → γ) (items : List α) :
    items.mapM (fun item => (do .ok (finish (← make item)) : Made γ)) =
      (do .ok ((← items.mapM make).map finish)) := by
  induction items with
  | nil => rfl
  | cons item items ih =>
      simp only [List.mapM_cons, ih, bind_assoc, ok_bind]
      rfl

theorem isText_iff : isText text value ↔ value = .text text := by
  cases value <;> simp [isText]

/-! ## The parts of a layout -/

theorem fill_greeting (there : scope "persona" = .ok persona) :
    (row greeting).fill scope =
      (do .ok (greetingLine (← getText persona "name") (← getText persona "slug"))) := by
  have line (name slug : String) : greetingLine name slug = "You are " ++ name ++ " (" ++ slug ++
      "), facilitating a structured discovery interview.\n" := rfl
  simp only [greeting, fill_row_cons, fill_row_nil, fill_text, fill_inside, there, ok_bind,
    bind_assoc, line, String.append_assoc, String.append_empty]

theorem fill_description (there : scope "persona" = .ok persona) :
    description.fill scope = lineIf persona "description" (· ++ "\n") := by
  rw [description, fill_optional there fill_row_nil]
  simp only [String.empty_append]

theorem fill_tone (there : scope "persona" = .ok persona) :
    tone.fill scope = lineIf persona "base_tone" toneLine :=
  fill_optional there fill_lead

theorem fill_title (there : scope "playbook" = .ok playbook) :
    (row title).fill scope =
      (do .ok ("\n" ++ playbookLine (← getText playbook "name") (← getText playbook "identifier")
        (← getText playbook "category"))) := by
  have line (name identifier category : String) : "\n" ++ playbookLine name identifier category =
      "\nPlaybook: " ++ name ++ " (" ++ identifier ++ ") — category: " ++ category ++ "\n" := by
    have opening : "\n" ++ "Playbook: " = "\nPlaybook: " := rfl
    show "\n" ++ ("Playbook: " ++ name ++ " (" ++ identifier ++ ") — category: " ++ category ++
      "\n") = _
    simp only [← String.append_assoc, opening]
  simp only [title, fill_row_cons, fill_row_nil, fill_text, fill_inside, there, ok_bind,
    bind_assoc, line, String.append_assoc, String.append_empty]

theorem fill_objective (there : scope "playbook" = .ok playbook) :
    objective.fill scope = lineIf playbook "objective" objectiveLine :=
  fill_optional there fill_lead

theorem fill_phase :
    (row phase).fill scope = (do .ok (phaseLine (← show? (← scope "phase")) ++ "\n")) := by
  have line (name : String) : phaseLine name ++ "\n" = "Current phase: " ++ name ++ "\n\n" :=
    String.append_assoc
  simp only [phase, fill_row_cons, fill_row_nil, fill, Place.value_name, line, ok_bind, bind_assoc,
    String.append_assoc, String.append_empty]

theorem fill_exchange (there : scope "item" = .ok item) :
    exchange.fill scope = exchangeOf item := by
  have line (id question answer : String) : exchangeLine id question answer =
      "- Q (" ++ id ++ "): " ++ question ++ " → A: " ++ answer ++ "\n" := rfl
  have skips : (row [.text "(skipped)"]).fill scope = .ok skippedMark := fill_lead
  simp only [exchange, fill_row_cons, fill_row_nil, fill_text, fill_inside, fill_choice_inside,
    there, skips, bind_ok, ok_bind, bind_assoc, exchangeOf, line, String.append_assoc,
    String.append_empty]
  cases get item "skipped" with
  | error fault => rfl
  | ok skipped =>
      cases truth : skipped.isTruthy <;>
        simp only [ok_bind, truth, if_true, if_false, Bool.false_eq_true]

theorem fill_history : history.fill scope = (do historyOf (← scope "history")) := by
  have each (item : Value) : exchange.fill (scope.bind "item" item) = exchangeOf item :=
    fill_exchange Scope.bind_self
  have first : historyTitle = "Previous answers:\n" := rfl
  cases there : scope "history" with
  | error fault => simp only [history, fill, Test.isPassed, Place.value_name, there, error_bind]
  | ok items =>
      simp only [history, fill, Test.isPassed, Place.value_name, there, ok_bind, historyOf, first,
        each, fill_row_cons, fill_row_nil, bind_assoc, String.append_assoc, String.append_empty]

theorem fill_asked (there : scope "question" = .ok asked) :
    (row Stencil.asked).fill scope =
      (do .ok (questionLines (← getText asked "id") (← getText asked "text"))) := by
  have lines (id text : String) : questionLines id text =
      "Question ID: " ++ id ++ "\nQuestion: " ++ text ++ "\n" := rfl
  simp only [Stencil.asked, fill_row_cons, fill_row_nil, fill_text, fill_inside, there, ok_bind,
    bind_assoc, lines, String.append_assoc, String.append_empty]

theorem fill_heading (there : scope "question" = .ok asked) {kind : Value}
    (typed : get asked "type" = .ok kind) :
    heading.fill scope = .ok
      (if isText "multi_choice" kind then multiChoiceTitle
      else if isText "scale" kind then scaleTitle
      else singleChoiceTitle) := by
  simp only [heading, fill_choice_equals, fill_lead, there, typed, ok_bind]
  cases isText "multi_choice" kind <;> cases isText "scale" kind <;> rfl

theorem fill_options (there : scope "question" = .ok asked) :
    options.fill scope = (do
      let shown ← (← itemsOf (← get asked "options")).mapM show?
      .ok (String.join (shown.map optionLine))) := by
  have line (option : String) : optionLine option = "  - \"" ++ option ++ "\"\n" := rfl
  have each (option : Value) :
      (row [.text "  - \"", .hole ⟨"option", []⟩, .text "\"\n"]).fill
        (scope.bind "option" option) = (do .ok (optionLine (← show? option))) := by
    simp only [fill_row_cons, fill_row_nil, fill, Place.value_name, Scope.bind_self, ok_bind,
      bind_assoc, line, String.append_assoc, String.append_empty]
  simp only [options, fill, inside, Place.value_field, there, ok_bind, each, mapM_eq_map,
    bind_assoc]

/-- The lines that a layout has of its own. -/
theorem fill_answer (there : scope "question" = .ok asked) :
    (row (answer layout)).fill scope = answerLinesOf layout asked := by
  cases layout with
  | plain => rfl
  | freeText => exact fill_lead
  | choice =>
      cases typed : get asked "type" with
      | error fault =>
          simp only [answer, heading, fill_choice_equals, fill_row_cons, there, ok_bind,
            answerLinesOf, typed, error_bind]
      | ok kind =>
          simp only [answer, fill_row_cons, fill_row_nil, fill_heading there typed,
            fill_options there, answerLinesOf, typed, ok_bind, bind_assoc, String.append_empty]
          by_cases multi : kind = .text "multi_choice"
          · subst multi
            rfl
          by_cases scale : kind = .text "scale"
          · subst scale
            rfl
          rw [if_neg (mt isText_iff.mp multi), if_neg (mt isText_iff.mp scale)]
          split
          next => exact absurd rfl multi
          next => exact absurd rfl scale
          next => rfl

theorem fill_instruction (there : scope "protocol" = .ok value) :
    instruction.fill scope = instructionOf value := by
  simp only [instruction, fill_choice_inside, there, ok_bind, instructionOf, fill_lead]
  cases get value "one_question_mode" with
  | error fault => rfl
  | ok alone =>
      cases isAlone : alone.isTruthy with
      | true =>
          simp only [ok_bind, isAlone, if_true]
          rfl
      | false =>
          simp only [ok_bind, isAlone, Bool.false_eq_true, if_false]
          refine congrArg _ (funext fun merges => ?_)
          cases merges.isTruthy with
          | true =>
              refine congrArg Except.ok ?_
              show _ =
                "You may combine this question with a closely related follow-up if it keeps the " ++
                  "conversation natural.\n"
              rw [← String.ofList_append]
              rfl
          | false => rfl

/-! ## The whole -/

/-- A layout that is filled from a mapping gives the lines of the prompt, or their fault. -/
theorem render_eq_fill (layout : Layout) (context : Value) :
    render layout context = (ofLayout layout).fill (get context) := by
  have block : (Stencil.block "answer_format" (row (answer layout))).fill (get context) =
      (row (answer layout)).fill (get context) := rfl
  simp only [ofLayout, fill_row_append, fill_row_cons, fill_row_nil, fill_phase, fill_history,
    fill_text, block, ok_bind, bind_assoc, render, getText]
  -- A value that is missing is noticed where it is first named, which both sides do at one place.
  cases personaThere : get context "persona" with
  | error fault =>
      simp only [greeting, fill_row_cons, fill_text, fill_inside, personaThere, ok_bind, error_bind]
  | ok persona =>
      simp only [fill_greeting personaThere, fill_description personaThere, fill_tone personaThere,
        ok_bind, bind_assoc, getText]
      cases playbookThere : get context "playbook" with
      | error fault =>
          simp only [title, fill_row_cons, fill_text, fill_inside, playbookThere, ok_bind,
            error_bind]
      | ok playbook =>
          simp only [fill_title playbookThere, fill_objective playbookThere, ok_bind, bind_assoc,
            getText]
          cases questionThere : get context "question" with
          | error fault =>
              simp only [Stencil.asked, fill_row_cons, fill_text, fill_inside, questionThere,
                ok_bind, error_bind]
          | ok question =>
              simp only [fill_asked questionThere, fill_answer questionThere, ok_bind, bind_assoc,
                getText]
              cases protocolThere : get context "protocol" with
              | error fault =>
                  simp only [instruction, fill_choice_inside, protocolThere, error_bind]
              | ok protocol =>
                  simp only [fill_instruction protocolThere, ok_bind, String.append_assoc,
                    String.append_empty]

end Interview.Prompt
