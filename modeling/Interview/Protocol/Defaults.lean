import Interview.Environment
import Interview.Record.Read
import Interview.Record.Write

/-!
# The standard protocol

Where no protocol is given, a strict one over the five standard phases applies. Its limits can be
set from outside; they are checked when a protocol is made of them.
-/

namespace Interview

/-- The phases of an interview whose playbook does not name any: to greet, to discover, to validate,
to synthesize and to advance. -/
def standardPhases : List String :=
  ["greet_frame", "discover_probe", "validate_quantify", "synthesize_reflect", "advance_close"]

namespace Protocol

/-- What a protocol has where nothing else is said. The values are not checked yet. -/
structure Defaults where
  phases : List Value
  maxQuestions : Value
  maxFollowups : Value
  driftSoftLimit : Value
  driftHardLimit : Value

/-- Twenty-five questions, three follow-ups, and digressions up to three and five. -/
def Defaults.standard : Defaults :=
  { phases := standardPhases.map .text
    maxQuestions := .int 25
    maxFollowups := .int 3
    driftSoftLimit := .int 3
    driftHardLimit := .int 5 }

/-- The standard values with the limits that the environment sets. -/
def Defaults.ofEnvironment (environment : Environment) : Except NumberFault Defaults := do
  let maxQuestions ← environment.whole "PLAYBOOK_DEFAULT_MAX_QUESTIONS" 25
  let maxFollowups ← environment.whole "PLAYBOOK_DEFAULT_MAX_FOLLOWUPS" 3
  let driftSoftLimit ← environment.whole "PLAYBOOK_DEFAULT_DRIFT_SOFT_LIMIT" 3
  let driftHardLimit ← environment.whole "PLAYBOOK_DEFAULT_DRIFT_HARD_LIMIT" 5
  .ok { Defaults.standard with
    maxQuestions := .int maxQuestions
    maxFollowups := .int maxFollowups
    driftSoftLimit := .int driftSoftLimit
    driftHardLimit := .int driftHardLimit }

/-- The values as fields of a protocol with a name. -/
def Defaults.fields (defaults : Defaults) (slug : String) : Entries Value :=
  .ofList
    [("slug", .text slug), ("phases", .list defaults.phases),
     ("max_questions", defaults.maxQuestions), ("max_followups", defaults.maxFollowups),
     ("drift_soft_limit", defaults.driftSoftLimit),
     ("drift_hard_limit", defaults.driftHardLimit)]

/-- The values as a mapping. -/
def Defaults.toValue (defaults : Defaults) : Value :=
  .ofEntries
    [("phases", .list defaults.phases), ("max_questions", defaults.maxQuestions),
     ("max_followups", defaults.maxFollowups), ("drift_soft_limit", defaults.driftSoftLimit),
     ("drift_hard_limit", defaults.driftHardLimit)]

/-- The protocol that the values make, if they are sound. -/
def ofDefaults (defaults : Defaults) : Record.Checked Protocol :=
  ofValue (.ofEntries (defaults.fields "default").toList)

end Protocol

end Interview
