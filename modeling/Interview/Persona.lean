/-!
# Personas

A persona is the character in which the interviewer speaks.
-/

namespace Interview

/-- The character of an interviewer. -/
structure Persona where
  slug : String
  name : String
  description : Option String
  baseTone : Option String
deriving DecidableEq, Repr

end Interview
