import Interview.Text.Lower

/-!
# Names of rules

Authors write the name of a field of a protocol in camel case or with underscores. Both lead to the
same name: an underscore is put before each inner capital, and all letters are made small. One field
has two further names, which speak of the questions of a playbook.
-/

namespace Interview.Protocol

/-- Capitals of the basic alphabet. -/
def isCapital (c : Char) : Bool :=
  'A' ≤ c && c ≤ 'Z'

/-- An underscore before each capital. -/
def splitCapitals (text : List Char) : List Char :=
  text.flatMap fun c => if isCapital c then ['_', c] else [c]

/-- Words joined by underscores, from camel case or from such words. -/
def joinWords : List Char → List Char
  | [] => []
  | c :: rest => Text.lower (c :: splitCapitals rest)

/-- The further names of the field `max_questions`. -/
def questionLimitNames : List String := ["localMaxQuestions", "local_max_questions"]

/-- The name of the field that an author means. -/
def fieldName (key : String) : String :=
  if questionLimitNames.contains key then "max_questions" else .ofList (joinWords key.toList)

end Interview.Protocol
