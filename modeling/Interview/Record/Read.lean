import Interview.Persona
import Interview.Protocol.Basic
import Interview.Record.Field
import Interview.Session.Basic
import Interview.Template.Problem

/-!
# Records from values

Protocols, personas, questions, templates and sessions are read from dynamic values. The fields of
protocols and personas go by two names each, the first in camel case.
-/

namespace Interview

open Record

/-- A protocol whose fields are sound, if no rule on the whole is broken. -/
def Protocol.guard (result : Checked Protocol) : Checked Protocol :=
  guarded (fun protocol => protocol.problem?.map (·.message)) result

/-- The protocol that a value describes. -/
def Protocol.ofValue (value : Value) : Checked Protocol :=
  (recordEntries "Protocol" value).andThen fun entries =>
    Protocol.guard <|
      Protocol.mk
        <$> field entries "slug" [] (some none) (readOptional readText)
        <*> field entries "phases" [] none (readList readText)
        <*> field entries "oneQuestionMode" ["one_question_mode"] (some true) readTruth
        <*> field entries "maxQuestions" ["max_questions"] none (readWholeFrom 1)
        <*> field entries "maxFollowups" ["max_followups"] none (readWholeFrom 0)
        <*> field entries "driftSoftLimit" ["drift_soft_limit"] none (readWholeFrom 0)
        <*> field entries "driftHardLimit" ["drift_hard_limit"] none (readWholeFrom 0)
        <*> field entries "allowQuestionMerging" ["allow_question_merging"] (some false) readTruth
        <*> field entries "allowQuestionSkipping" ["allow_question_skipping"] (some false) readTruth
        <*> field entries "strictPhases" ["strict_phases"] (some true) readTruth

/-- The persona that a value describes. -/
def Persona.ofValue (value : Value) : Checked Persona :=
  (recordEntries "Persona" value).andThen fun entries =>
    Persona.mk
      <$> field entries "slug" [] none readText
      <*> field entries "name" [] none readText
      <*> field entries "description" [] (some none) (readOptional readText)
      <*> field entries "baseTone" ["base_tone"] (some none) (readOptional readText)

/-- One of the known types, by its name. -/
def QuestionType.ofValue : Reader QuestionType
  | .text name =>
    let type := QuestionType.ofName name
    if type.isKnown then .ok type else .fail .unknownType
  | _ => .fail .unknownType

/-- The question that a value describes. -/
def Question.ofValue (value : Value) : Checked Question :=
  (recordEntries "Question" value).andThen fun entries =>
    Question.mk
      <$> field entries "id" [] none readText
      <*> field entries "phase" [] none readText
      <*> field entries "text" [] none readText
      <*> field entries "type" [] (some .freeText) QuestionType.ofValue
      <*> field entries "options" [] (some none) (readOptional (readList readText))

/-- The compile information that a value describes. -/
def CompileInfo.ofValue (value : Value) : Checked CompileInfo :=
  (recordEntries "CompileInfo" value).andThen fun entries =>
    CompileInfo.mk
      <$> field entries "phase_count" [] none readWhole
      <*> field entries "question_count" [] none readWhole
      <*> (some <$> field entries "source_ref" [] none readText)
      <*> field entries "used_default_phases" [] (some false) readTruth

/-- A template whose fields are sound, if its phases and questions fit together. -/
def Template.guard (result : Checked Template) : Checked Template :=
  guarded (fun template =>
    match structuralProblems template.phases template.questions with
    | [] => none
    | problems => some ("; ".intercalate (problems.map (·.message)))) result

/-- A field that may be absent, or present with an absent value. -/
def optionalText (entries : List (Value × Value)) (name : String) : Checked (Option String) :=
  field entries name [] (some none) (readOptional readText)

/-- A text field that must be present, of a record that may lack it when it is not checked. -/
def requiredText (entries : List (Value × Value)) (name : String) : Checked (Option String) :=
  some <$> field entries name [] none readText

/-- The template that a value describes. -/
def Template.ofValue (value : Value) : Checked Template :=
  (recordEntries "Template" value).andThen fun entries =>
    Template.guard <|
      Template.mk
        <$> requiredText entries "identifier"
        <*> requiredText entries "name"
        <*> requiredText entries "category"
        <*> field entries "phases" [] none (readList readText)
        <*> field entries "questions" [] none (readList Question.ofValue)
        <*> optionalText entries "objective"
        <*> optionalText entries "version"
        <*> optionalText entries "protocol_ref"
        <*> optionalText entries "persona_ref"
        <*> field entries "rules_overrides" [] (some .empty) readEntries
        <*> optionalText entries "scoring_model"
        <*> optionalText entries "report_spec"
        <*> (some <$> field entries "compile_info" [] none CompileInfo.ofValue)

/-- A counter of a session, zero if it is absent. -/
def counter (entries : List (Value × Value)) (name : String) : Checked Int :=
  field entries name [] (some 0) readWhole

/-- The session that a value describes. -/
def Session.ofValue (value : Value) : Checked Session :=
  (recordEntries "SessionState" value).andThen fun entries =>
    Session.mk
      <$> field entries "session_id" [] none readText
      <*> optionalText entries "current_phase"
      <*> optionalText entries "current_question_id"
      <*> field entries "answers" [] (some .empty) readEntries
      <*> counter entries "total_questions_asked"
      <*> counter entries "questions_asked_total"
      <*> counter entries "followup_count"
      <*> counter entries "drift_count"
      <*> field entries "skipped_question_ids" [] (some []) readTextSet

end Interview
