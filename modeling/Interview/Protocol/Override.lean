import Interview.Protocol.FieldName
import Interview.Record.Read
import Interview.Record.Write

/-!
# Rules of a template

A template can change the protocol under which it is used: each of its rules whose name means a
field of a protocol replaces that field, except for the name and the phases of the protocol. The
result is checked like any other protocol.
-/

namespace Interview.Protocol

/-- The fields that a rule can set. -/
def ruleFields : List String :=
  ["one_question_mode", "max_questions", "max_followups", "drift_soft_limit", "drift_hard_limit",
   "allow_question_merging", "allow_question_skipping", "strict_phases"]

/-- The fields that the rules of a template set. Of two rules for one field the last counts. -/
def updates (rules : Entries Value) : Entries Value :=
  .ofList (rules.toList.filterMap fun (key, value) =>
    let name := fieldName key
    if ruleFields.contains name then some (name, value) else none)

/-- Why the rules of a template do not go with a protocol. -/
structure OverrideFault where
  identifier : Option String
  faults : List Record.Fault
deriving DecidableEq, Repr

/-- The problems in words, one for each fault. -/
def OverrideFault.problems (fault : OverrideFault) : List String :=
  fault.faults.map fun fault => "rules override: " ++ fault.cause.message

/-- What is said of a template that is not valid. -/
def invalidTemplate (identifier : String) (problems : List String) : String :=
  "Template '" ++ identifier ++ "' is invalid: " ++ "; ".intercalate problems

/-- The fault in words. -/
def OverrideFault.message (fault : OverrideFault) : String :=
  invalidTemplate (shownOr fault.identifier) fault.problems

/-- The protocol with some of its fields set, if it is sound. -/
def set (protocol : Protocol) (updates : Entries Value) : Record.Checked Protocol :=
  let fields := Entries.ofList (protocol.fields.map fun (name, _, value) => (name, value))
  ofValue (.ofEntries (updates.toList.foldl (fun fields (name, value) => fields.put name value)
    fields).toList)

/-- The protocol under which a template is used. Without rules for it the protocol stays as it
is. -/
def resolve (protocol : Protocol) (template : Template) : Except OverrideFault Protocol :=
  let updates := updates template.rules
  if updates.isEmpty then .ok protocol
  else
    match protocol.set updates with
    | .ok resolved => .ok resolved
    | .faulty faults => .error ⟨template.identifier, faults⟩

end Interview.Protocol
