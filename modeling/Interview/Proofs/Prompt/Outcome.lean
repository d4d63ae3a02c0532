import Interview.Proofs.Prompt.Lines
import Interview.Proofs.Protocol.Order

/-!
# Prompts of checked templates

Three things could keep a question from its prompt. A layout could name a field that is not there or
go through options that are lacking; with a checked template neither happens. An answer could hold
an integer that is too long to be written; this is up to the session, and it is the only case in
which there is no prompt. In all others the prompt is the text of its lines.
-/

namespace Interview

open Prompt

variable {persona : Persona} {protocol : Protocol} {template : Template} {session : Session}
variable {question : Question}

/-! ## With and without a prompt -/

theorem ofQuestion_eq (checked : template.IsChecked) (declared : question ∈ template.questions)
    (shown : ∀ asked ∈ template.questions, session.CanShow asked) :
    ofQuestion persona protocol template session question =
      .ok (closedText (promptLines persona protocol template session question)) := by
  rw [ofQuestion, questionText_eq checked declared shown, ok_bind,
    trimBlank_closedText_promptLines]

theorem ofQuestion_eq_error (checked : template.IsChecked)
    (hidden : ∃ asked ∈ template.questions, ¬ session.CanShow asked) :
    ofQuestion persona protocol template session question = .error .longNumber := by
  rw [ofQuestion, questionText_eq_error checked hidden, error_bind]

/-- The layout of a question, as it is read from its text, gives the lines of the prompt. -/
theorem fill_eq (checked : template.IsChecked) (declared : question ∈ template.questions)
    (shown : ∀ asked ∈ template.questions, session.CanShow asked) :
    (Stencil.ofLayout (.ofType question.type)).fill
        (get (plainContext persona protocol template session question)) =
      .ok (closedText (promptLines persona protocol template session question)) := by
  rw [← render_eq_fill, ← questionText_eq_render, questionText_eq checked declared shown]

/-- Where all integers of all answers can be written, every question can be shown. -/
theorem canShow_of_writable (writable : ∀ answer ∈ session.answers.values, answer.IsWritable)
    (asked : Question) : session.CanShow asked := by
  intro _ answer found
  exact writable answer (List.mem_map_of_mem (Entries.mem_of_lookup found))

/-! ## Samples -/

/-- A persona with a description and with a tone of no characters. -/
def Persona.sample : Persona :=
  { slug := "ada"
    name := "Ada"
    description := some "A patient listener."
    baseTone := some "" }

/-- A session of the sample template in which one question is answered by a list and one is
skipped. -/
def Session.listening : Session :=
  { Session.start "s" with
    phase := some "discover"
    answers := (Entries.empty.put "pain" .null).put "name" (.list [.text "Bo", .null])
    skipped := ["pain"] }

/-- A session of the sample template in which a question is answered by an integer that has one
digit too many. -/
def Session.overlong : Session :=
  { Session.start "s" with
    answers := Entries.empty.put "name" (.int (Int.ofNat (Nat.pow 10 Decimal.digitLimit))) }

/-- The question of the sample template that has options. -/
def Question.often : Question :=
  { id := "often", phase := "discover", text := "How often?", type := .scale
    options := some ["daily", "weekly"] }

theorem writable_listening : ∀ answer ∈ Session.listening.answers.values, answer.IsWritable := by
  intro answer held
  have one : answer = .null ∨ answer = .list [.text "Bo", .null] := by
    simpa [Session.listening, Entries.values, Entries.put, Entries.write, Entries.empty] using held
  rcases one with rfl | rfl <;> simp [Value.IsWritable, Value.wholes, Value.wholesInList]

/-- The least integer that has too many digits. -/
theorem not_isWritable_limit :
    ¬ Decimal.IsWritable (Int.ofNat (Nat.pow 10 Decimal.digitLimit)) := by
  rw [Decimal.IsWritable]
  generalize Nat.pow 10 Decimal.digitLimit = limit
  exact Nat.lt_irrefl limit

theorem not_canShow_overlong :
    ∃ asked ∈ Template.sample.questions, ¬ Session.overlong.CanShow asked := by
  refine ⟨_, List.mem_cons_of_mem _ List.mem_cons_self, fun shown => not_isWritable_limit ?_⟩
  exact shown List.not_mem_nil _ Entries.find?_put_self _ List.mem_cons_self

/-! ## Main results -/

/-- A question of a checked template has a prompt whenever the answers hold no integer that is too
long to be written: filling the layout for its type with the plain data reaches nothing that is not
there, and where that layout goes through options, the question has some. -/
theorem exists_prompt (checked : template.IsChecked) (declared : question ∈ template.questions)
    (writable : ∀ answer ∈ session.answers.values, answer.IsWritable)
    (persona : Persona) (protocol : Protocol) :
    (∃ stencil raw,
      Stencil.open? layoutTexts (Layout.ofType question.type).name = some stencil ∧
        stencil.fill (get (plainContext persona protocol template session question)) = .ok raw ∧
        ofQuestion persona protocol template session question = .ok (raw.trimBlank ++ "\n")) ∧
      (Layout.ofType question.type = .choice →
        ∃ first others, question.options = some (first :: others)) := by
  have shown : ∀ asked ∈ template.questions, session.CanShow asked :=
    fun asked _ => canShow_of_writable writable asked
  refine ⟨⟨_, _, Stencil.open?_name _, fill_eq checked declared shown, ?_⟩, fun choice => ?_⟩
  · rw [ofQuestion_eq checked declared shown, trimBlank_closedText_promptLines]
  · refine (structuralProblems_eq_nil_iff_fits.mp checked.sound).someOption question declared ?_
    cases typed : question.type <;> simp_all [Layout.ofType]

theorem exists_prompt_listening :
    Template.sample.IsChecked ∧ Question.often ∈ Template.sample.questions ∧
      (∀ answer ∈ Session.listening.answers.values, answer.IsWritable) ∧
      ∃ text, ofQuestion .sample .sample .sample .listening .often = .ok text := by
  have declared : Question.often ∈ Template.sample.questions := by decide
  obtain ⟨⟨_, _, -, -, made⟩, -⟩ := exists_prompt Template.sample_isChecked declared
    writable_listening Persona.sample Protocol.sample
  exact ⟨Template.sample_isChecked, declared, writable_listening, _, made⟩

/-- The prompt of a question of a checked template is the text of `promptLines`, and nothing else,
if every question of the template can be shown; it then also is what the layout for the type of the
question gives. If some question cannot be shown, because its answer holds an integer that is too
long to be written, there is no prompt. The text of the lines ends with one line feed only. -/
theorem prompt_eq_lines (checked : template.IsChecked)
    (declared : question ∈ template.questions) (persona : Persona) (protocol : Protocol)
    (session : Session) :
    let text := closedText (promptLines persona protocol template session question)
    let context := plainContext persona protocol template session question
    ((∀ asked ∈ template.questions, session.CanShow asked) →
      ofQuestion persona protocol template session question = .ok text ∧
        ∃ stencil,
          Stencil.open? layoutTexts (Layout.ofType question.type).name = some stencil ∧
            stencil.fill (get context) = .ok text) ∧
      ((∃ asked ∈ template.questions, ¬ session.CanShow asked) →
        ofQuestion persona protocol template session question = .error .longNumber) ∧
      ∃ front last, text.toList = front ++ [last, '\n'] ∧ last ≠ '\n' := by
  intro text context
  refine ⟨fun shown => ⟨ofQuestion_eq checked declared shown, _, Stencil.open?_name _,
    fill_eq checked declared shown⟩, ofQuestion_eq_error checked, ?_⟩
  obtain ⟨front, ends⟩ := exists_promptLines_eq persona protocol template session question
  exact ⟨front, '.', ends, by decide⟩

theorem prompt_eq_lines_listening :
    Template.sample.IsChecked ∧ Question.often ∈ Template.sample.questions ∧
      (∀ asked ∈ Template.sample.questions, Session.listening.CanShow asked) ∧
      ofQuestion .sample .sample .sample .listening .often = .ok (closedText
        ["You are Ada (ada), facilitating a structured discovery interview.",
         "A patient listener.",
         "",
         "Playbook: Sample (sample) — category: general",
         "Current phase: discover",
         "",
         "Previous answers:",
         "- Q (name): Who are you? → A: ['Bo', None]",
         "- Q (pain): What slows you down? → A: (skipped)",
         "",
         "Question ID: often",
         "Question: How often?",
         "The user picks one point on this scale:",
         "  - \"daily\"",
         "  - \"weekly\"",
         "",
         "Ask ONLY this one question, and wait for the user response. " ++
           "Do not answer on their behalf."]) := by
  have declared : Question.often ∈ Template.sample.questions := by decide
  have shown : ∀ asked ∈ Template.sample.questions, Session.listening.CanShow asked :=
    fun asked _ => canShow_of_writable writable_listening asked
  obtain ⟨made, -⟩ := prompt_eq_lines Template.sample_isChecked declared Persona.sample
    Protocol.sample Session.listening
  exact ⟨Template.sample_isChecked, declared, shown, (made shown).1⟩

/-- An answer can be too long: the sample template has no prompt then, of these lines or others. -/
theorem no_prompt_overlong :
    Template.sample.IsChecked ∧ Question.often ∈ Template.sample.questions ∧
      ∀ text, ofQuestion .sample .sample .sample .overlong .often ≠ .ok text := by
  refine ⟨Template.sample_isChecked, by decide, fun text => ?_⟩
  rw [ofQuestion_eq_error Template.sample_isChecked not_canShow_overlong]
  exact fun made => by cases made

end Interview
