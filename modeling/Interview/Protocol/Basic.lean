/-!
# Protocols

A protocol is the set of rules of a session: the order in which the phases follow each other, how
many questions, follow-ups and digressions a session allows, and what may be merged or skipped.
-/

namespace Interview

/-- The rules of a session. -/
structure Protocol where
  slug : Option String
  phases : List String
  oneQuestionMode : Bool
  maxQuestions : Int
  maxFollowups : Int
  driftSoftLimit : Int
  driftHardLimit : Int
  allowMerging : Bool
  allowSkipping : Bool
  strictPhases : Bool
deriving DecidableEq, Repr

/-- What keeps well-formed fields from being a protocol. -/
inductive ProtocolProblem where
  | noPhases
  | repeatedPhases
  | limitsCrossed
deriving DecidableEq, Repr

/-- The problem in words. -/
def ProtocolProblem.message : ProtocolProblem → String
  | .noPhases => "protocol must declare at least one phase"
  | .repeatedPhases => "protocol phases must be unique"
  | .limitsCrossed => "drift_soft_limit must be <= drift_hard_limit"

namespace Protocol

/-- The element after the first occurrence of another in a list. -/
def successorIn (phase : String) : List String → Option String
  | [] => none
  | first :: rest => if first = phase then rest.head? else successorIn phase rest

/-- The phase after a phase: none after the last phase, and none after a foreign one. -/
def nextPhase (protocol : Protocol) (phase : String) : Option String :=
  successorIn phase protocol.phases

/-- The first of the checks on the whole protocol that fails. -/
def problem? (protocol : Protocol) : Option ProtocolProblem :=
  if protocol.phases.isEmpty then some .noPhases
  else if ¬ protocol.phases.Nodup then some .repeatedPhases
  else if protocol.driftHardLimit < protocol.driftSoftLimit then some .limitsCrossed
  else none

/-- The rules that every checked protocol satisfies. -/
structure IsChecked (protocol : Protocol) : Prop where
  phases_ne_nil : protocol.phases ≠ []
  phases_nodup : protocol.phases.Nodup
  one_le_maxQuestions : 1 ≤ protocol.maxQuestions
  zero_le_maxFollowups : 0 ≤ protocol.maxFollowups
  zero_le_driftSoftLimit : 0 ≤ protocol.driftSoftLimit
  soft_le_hard : protocol.driftSoftLimit ≤ protocol.driftHardLimit

end Protocol

end Interview
