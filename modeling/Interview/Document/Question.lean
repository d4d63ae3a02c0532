import Interview.Document.Header
import Interview.Document.Problem
import Interview.Yaml.Content

/-!
# The phases and questions of a document

Phases are the lines of their section. Questions are the entries of a list in YAML; each needs an
id, a phase and a text, and can have a type and options. An entry that is not sound is left out and
reported.
-/

namespace Interview.Document

open Interview.Text

/-- Whether a trimmed line of the phases section names a phase. -/
def isPhaseLine (text : List Char) : Bool :=
  !text.isEmpty && text.head? != some '#' && !"<!--".toList.isPrefixOf text

/-- The phases that the lines of their section name, in order. -/
def phasesOf (content : List Char) : List String :=
  (((lines content).map trim).filter isPhaseLine).map fun text =>
    String.ofList (trim (dropBullet text))

/-- The fields that each question needs. -/
def neededFields : List String := ["id", "phase", "text"]

/-- Whether a field is absent or its text is blank. -/
def isFieldMissing (entry : List (Value × Value)) (field : String) : Except LongNumber Bool :=
  match Value.lookup (.text field) entry with
  | none | some .null => .ok true
  | some value => do .ok (← textOf value).isBlankText

/-- The needed fields that are absent or blank. -/
def missingFields (entry : List (Value × Value)) : Except LongNumber (List String) :=
  neededFields.filterM (isFieldMissing entry)

/-- The trimmed text of a field, empty if the field is absent. -/
def fieldText (entry : List (Value × Value)) (field : String) : Except LongNumber String :=
  match Value.lookup (.text field) entry with
  | some value => do .ok (← textOf value).trimBlank
  | none => .ok ""

/-- The id of an entry as a message shows it. -/
def shownId (entry : List (Value × Value)) : Except LongNumber (Option String) :=
  match Value.lookup (.text "id") entry with
  | none | some .null => .ok none
  | some value => some <$> textOf value

/-- The type of an entry. A type that is absent or empty means free text. -/
def typeOf (entry : List (Value × Value)) : Except LongNumber QuestionType :=
  match Value.lookup (.text "type") entry with
  | none => .ok .freeText
  | some value =>
    if value.isTruthy then do .ok (.ofName (← textOf value).trimBlank) else .ok .freeText

/-- The options of an entry: none, their texts, or no list at all. -/
def optionsOf (entry : List (Value × Value)) :
    Except LongNumber (Option (Option (List String))) :=
  match Value.lookup (.text "options") entry with
  | none | some .null => .ok (some none)
  | some (.list items) => do .ok (some (some (← items.mapM textOf)))
  | some _ => .ok none

/-- The question that an entry describes, or what is wrong with it. -/
def questionOf (place : Nat) (entry : Value) :
    Except LongNumber (Except DocumentProblem Question) :=
  match entry with
  | .mapping fields => do
    let missing ← missingFields fields
    if !missing.isEmpty then
      .ok (.error (.fieldsMissing place (← shownId fields) missing))
    else
      let id ← fieldText fields "id"
      let type ← typeOf fields
      if !type.isKnown then .ok (.error (.unknownType id type.name))
      else
        match ← optionsOf fields with
        | none => .ok (.error (.optionsNotList id))
        | some options =>
          let phase ← fieldText fields "phase"
          let text ← fieldText fields "text"
          .ok (.ok { id, phase, text, type, options })
  | _ => .ok (.error (.entryNotMapping place))

/-- The questions of a list of entries, the first of which has the number `place`, and what is
wrong with the others. -/
def questionsFrom : (place : Nat) → List Value →
    Except LongNumber (List Question × List DocumentProblem)
  | _, [] => .ok ([], [])
  | place, entry :: entries => do
    let result ← questionOf place entry
    let (questions, problems) ← questionsFrom (place + 1) entries
    match result with
    | .ok question => .ok (question :: questions, problems)
    | .error problem => .ok (questions, problem :: problems)

/-- The questions of the value that their section holds, and what is wrong with it. -/
def questionsOf : Value → Except LongNumber (List Question × List DocumentProblem)
  | .null => .ok ([], [.emptyQuestions])
  | .list entries => questionsFrom 1 entries
  | _ => .ok ([], [.questionsNotList])

end Interview.Document
