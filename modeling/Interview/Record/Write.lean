import Interview.Persona
import Interview.Protocol.Basic
import Interview.Session.Progress
import Interview.Template.Basic

/-!
# Records as values

The reverse of reading: each record as a mapping that lists all its fields in order. Protocols have
two such forms, one for each way of naming their fields.
-/

namespace Interview

/-- A text that may be absent, as a value. -/
def Value.ofOptional (text : Option String) : Value :=
  (text.map Value.text).getD .null

/-- Texts as a list. -/
def Value.ofTexts (texts : List String) : Value :=
  .list (texts.map .text)

/-- The fields of a protocol, each with both of its names. -/
def Protocol.fields (protocol : Protocol) : List (String × String × Value) :=
  [("slug", "slug", .ofOptional protocol.slug),
   ("phases", "phases", .ofTexts protocol.phases),
   ("one_question_mode", "oneQuestionMode", .bool protocol.oneQuestionMode),
   ("max_questions", "maxQuestions", .int protocol.maxQuestions),
   ("max_followups", "maxFollowups", .int protocol.maxFollowups),
   ("drift_soft_limit", "driftSoftLimit", .int protocol.driftSoftLimit),
   ("drift_hard_limit", "driftHardLimit", .int protocol.driftHardLimit),
   ("allow_question_merging", "allowQuestionMerging", .bool protocol.allowMerging),
   ("allow_question_skipping", "allowQuestionSkipping", .bool protocol.allowSkipping),
   ("strict_phases", "strictPhases", .bool protocol.strictPhases)]

/-- A protocol as a mapping with names of words joined by underscores. -/
def Protocol.toValue (protocol : Protocol) : Value :=
  .ofEntries (protocol.fields.map fun (name, _, value) => (name, value))

/-- A protocol as a mapping with names in camel case. -/
def Protocol.toCamelValue (protocol : Protocol) : Value :=
  .ofEntries (protocol.fields.map fun (_, name, value) => (name, value))

/-- A persona as a mapping. -/
def Persona.toValue (persona : Persona) : Value :=
  .ofEntries
    [("slug", .text persona.slug), ("name", .text persona.name),
     ("description", .ofOptional persona.description),
     ("base_tone", .ofOptional persona.baseTone)]

/-- A question as a mapping. -/
def Question.toValue (question : Question) : Value :=
  .ofEntries
    [("id", .text question.id), ("phase", .text question.phase), ("text", .text question.text),
     ("type", .text question.type.name),
     ("options", (question.options.map Value.ofTexts).getD .null)]

/-- Compile information as a mapping. -/
def CompileInfo.toValue (info : CompileInfo) : Value :=
  .ofEntries
    [("phase_count", .int info.phaseCount), ("question_count", .int info.questionCount),
     ("source_ref", .ofOptional info.sourceRef),
     ("used_default_phases", .bool info.usedDefaultPhases)]

/-- A template as a mapping. -/
def Template.toValue (template : Template) : Value :=
  .ofEntries
    [("identifier", .ofOptional template.identifier), ("name", .ofOptional template.name),
     ("category", .ofOptional template.category), ("phases", .ofTexts template.phases),
     ("questions", .list (template.questions.map Question.toValue)),
     ("objective", .ofOptional template.objective), ("version", .ofOptional template.version),
     ("protocol_ref", .ofOptional template.protocolRef),
     ("persona_ref", .ofOptional template.personaRef),
     ("rules_overrides", .ofEntries template.rules.toList),
     ("scoring_model", .ofOptional template.scoring),
     ("report_spec", .ofOptional template.report),
     ("compile_info", (template.info.map CompileInfo.toValue).getD .null)]

/-- A session as a mapping. Skipped questions are listed in the order of their ids. -/
def Session.toValue (session : Session) : Value :=
  .ofEntries
    [("session_id", .text session.id), ("current_phase", .ofOptional session.phase),
     ("current_question_id", .ofOptional session.question),
     ("answers", .ofEntries session.answers.toList),
     ("total_questions_asked", .int session.askedInPhase),
     ("questions_asked_total", .int session.asked),
     ("followup_count", .int session.followups), ("drift_count", .int session.drifts),
     ("skipped_question_ids", .ofTexts (session.skipped.mergeSort fun a b => decide (a ≤ b)))]

/-- The progress of a phase as a mapping. -/
def PhaseProgress.toValue (progress : PhaseProgress) : Value :=
  .ofEntries
    [("phase", .text progress.phase), ("answered", .int progress.answered),
     ("total", .int progress.total), ("complete", .bool progress.isComplete)]

/-- An answered question as a mapping. -/
def Exchange.toValue (exchange : Exchange) : Value :=
  .ofEntries
    [("id", .text exchange.id), ("question", .text exchange.question),
     ("answer", exchange.answer), ("skipped", .bool exchange.skipped)]

end Interview
