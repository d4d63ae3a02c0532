/-!
# Questions

A question belongs to one phase of an interview and is answered in its own words or by choosing
among options. Four types are known. A record that was not checked can carry any other type, which
is then treated like the first.
-/

namespace Interview

/-- How a question is answered. -/
inductive QuestionType where
  | freeText
  | singleChoice
  | multiChoice
  | scale
  | other (name : String)
deriving DecidableEq, Repr

namespace QuestionType

/-- The types that a playbook can give to a question. -/
def known : List QuestionType := [.freeText, .singleChoice, .multiChoice, .scale]

def name : QuestionType → String
  | .freeText => "free_text"
  | .singleChoice => "single_choice"
  | .multiChoice => "multi_choice"
  | .scale => "scale"
  | .other name => name

/-- The type with a name. -/
def ofName (name : String) : QuestionType :=
  if name = "free_text" then .freeText
  else if name = "single_choice" then .singleChoice
  else if name = "multi_choice" then .multiChoice
  else if name = "scale" then .scale
  else .other name

def isKnown : QuestionType → Bool
  | .other _ => false
  | _ => true

/-- Whether the type is only meaningful with options. -/
def needsOptions : QuestionType → Bool
  | .singleChoice | .multiChoice | .scale => true
  | .freeText | .other _ => false

@[simp] theorem ofName_name_of_isKnown {type : QuestionType} (known : type.isKnown) :
    ofName type.name = type := by
  cases type <;> first | rfl | simp [isKnown] at known

@[simp] theorem name_ofName (name : String) : (ofName name).name = name := by
  unfold ofName
  split
  · simp [QuestionType.name, *]
  · split
    · simp [QuestionType.name, *]
    · split
      · simp [QuestionType.name, *]
      · split <;> simp [QuestionType.name, *]

end QuestionType

/-- One question of an interview. Questions without options have none, not an empty list. -/
structure Question where
  id : String
  phase : String
  text : String
  type : QuestionType
  options : Option (List String)
deriving DecidableEq, Repr

namespace Question

/-- Whether the question is answered by choosing among options. -/
def isChoice (question : Question) : Bool :=
  question.type.needsOptions

/-- Whether at least one option is there. -/
def hasOptions (question : Question) : Bool :=
  question.options.any (!·.isEmpty)

/-- Questions that arrive as checked records have a known type. -/
def IsChecked (question : Question) : Prop :=
  question.type.isKnown = true

instance (question : Question) : Decidable question.IsChecked :=
  inferInstanceAs (Decidable (_ = _))

end Question

end Interview
