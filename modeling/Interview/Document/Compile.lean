import Interview.Digest
import Interview.Document.Question
import Interview.Document.Slug
import Interview.Protocol.Defaults

/-!
# Templates from documents

A document becomes a template or is refused with all its problems; there is no partial template.
A problem of the outline ends the reading at once, while problems of the sections are collected.
What the header leaves open is filled in: the identifier from the name or title or else from the
digest of the document, the name from the title or else from the identifier, and the category is
the general one.
-/

namespace Interview.Document

open Interview.Text

/-- Why a document gives no template. Beside its problems, a scalar can have no value of its type,
and a number more digits than are read or written. -/
inductive Fault where
  | problems (all : List DocumentProblem)
  | scalar (why : Yaml.ScalarFault)
  | longNumeral (fault : NumberFault)
  | longNumber
deriving DecidableEq, Repr

/-- The fault in words, where there are words for it. -/
def Fault.message? : Fault → Option String
  | .problems all => some ("; ".intercalate (all.map (·.message)))
  | .scalar _ => none
  | .longNumeral fault => some fault.message
  | .longNumber => some (tooManyDigits "")

/-- What a caller knows better than the document. An absent or empty value counts as unknown, but
for the reference to the source, for which only absence does. -/
structure Overrides where
  identifier : Value
  name : Value
  category : Value
  sourceRef : Value

/-- Nothing is known better. -/
def Overrides.none : Overrides := ⟨.null, .null, .null, .null⟩

/-- Overrides with a reference to the source only. -/
def Overrides.source (reference : String) : Overrides :=
  { Overrides.none with sourceRef := .text reference }

/-- One problem that ends the reading. -/
def refuse {α : Type} (problem : DocumentProblem) : Except Fault α :=
  .error (.problems [problem])

/-- A result whose only fault is a number with too many digits. -/
def orLong {α : Type} : Except LongNumber α → Except Fault α
  | .ok value => .ok value
  | .error _ => .error .longNumber

/-- The content of a part of the document in YAML. What is malformed there is a problem. -/
def contentOf (text : List Char) : Except Fault (Except Yaml.Malformed Value) :=
  match Yaml.content text with
  | .ok value => .ok (.ok value)
  | .error (.malformed why) => .ok (.error why)
  | .error (.scalar why) => .error (.scalar why)

/-- The entries of a frontmatter. A blank one has none. -/
def frontmatterEntries (text : List Char) : Except Fault (List (Value × Value)) :=
  if isBlankText text then .ok []
  else do
    match ← contentOf text with
    | .error why => refuse (.frontmatterNotYaml text why)
    | .ok (.mapping entries) => .ok entries
    | .ok _ => refuse .frontmatterNotMapping

/-- The header and the sections of a document. -/
def outline (text : List Char) : Except Fault (Header × List Section) := do
  let (frontmatter, body) ←
    match Opening.ofLines (lines text) with
    | .plain body => .ok ([], body)
    | .fenced frontmatter body => do .ok (← frontmatterEntries (unlines frontmatter), body)
    | .unclosed => refuse .openFrontmatter
  let (preamble, sections) := splitSections body
  match repeatedSection? [] sections with
  | some part => refuse (.repeatedSection (String.ofList part.heading))
  | none => .ok (⟨frontmatter, Preamble.ofLines preamble⟩, sections)

/-- The number of digits of a digest that an identifier takes. -/
def digestPart : Nat := 12

/-- The identifier of a document that names none: the slug of its name or title, or else one with
the beginning of its digest. -/
def fallbackIdentifier (named : Option String) (digest : String) : String :=
  match named.bind fun text => slug? text.toList with
  | some slug => String.ofList slug
  | none => "playbook-" ++ String.ofList (digest.toList.take digestPart)

/-- The identifier: the override, the slug in the header, or the fallback. -/
def identifierOf (override : Value) (header : Header) (digest : String) :
    Except LongNumber Value := do
  if override.isTruthy then .ok override
  else
    match ← header.text? "slug" with
    | some slug => .ok (.text slug)
    | none =>
      let named ← header.text? "name"
      .ok (.text (fallbackIdentifier (named.or header.title?) digest))

/-- The name: the override, the name in the header, the title, or the identifier. -/
def nameOf (override : Value) (header : Header) (identifier : Value) :
    Except LongNumber Value := do
  if override.isTruthy then .ok override
  else
    match (← header.text? "name").or header.title? with
    | some name => .ok (.text name)
    | none => .ok identifier

/-- The category of a document that names none. -/
def generalCategory : String := "general"

/-- The category: the override, that in the header, or the general one. -/
def categoryOf (override : Value) (header : Header) : Except LongNumber Value := do
  if override.isTruthy then .ok override
  else .ok (.text ((← header.text? "category").getD generalCategory))

/-- The phases of a document, whether they are the standard ones, and what is wrong with them. -/
def phasesIn (sections : List Section) : List String × Bool × List DocumentProblem :=
  match sectionText? "phases" sections with
  | none => (standardPhases, true, [])
  | some text =>
    let phases := phasesOf text
    (phases, false, if phases.isEmpty then [.noPhaseLines] else [])

/-- The questions of a document, and what is wrong with them. -/
def questionsIn (sections : List Section) :
    Except Fault (List Question × List DocumentProblem) := do
  match sectionText? "questions" sections with
  | none => .ok ([], [.noQuestions])
  | some text =>
    match ← contentOf text with
    | .error why => .ok ([], [.questionsNotYaml text why])
    | .ok value => orLong (questionsOf value)

/-- The rules of a document, and what is wrong with them. -/
def rulesIn (sections : List Section) : Except Fault (Entries Value × List DocumentProblem) :=
  (rulesOf ((sectionText? "rules" sections).getD [])).mapError .longNumeral

/-- A section that is kept as it is, without the blanks around it, unless it is blank. -/
def verbatim? (text : Option (List Char)) : Option String :=
  match text.map trim with
  | some (c :: rest) => some (String.ofList (c :: rest))
  | _ => none

/-- What the sections of a document say. -/
structure Body where
  phases : List String
  usesStandardPhases : Bool
  questions : List Question
  rules : Entries Value
  scoring : Option String
  report : Option String

/-- What the sections say, if nothing is wrong with them and the phases and questions fit
together. -/
def bodyOf (sections : List Section) : Except Fault Body := do
  let (phases, usesStandardPhases, phaseProblems) := phasesIn sections
  let (questions, questionProblems) ← questionsIn sections
  let (rules, ruleProblems) ← rulesIn sections
  let problems := phaseProblems ++ questionProblems ++ ruleProblems ++
    (structuralProblems phases questions).map .structural
  if problems.isEmpty then
    .ok { phases, usesStandardPhases, questions, rules
          scoring := verbatim? (sectionText? "scoring" sections)
          report := verbatim? (sectionText? "report" sections) }
  else .error (.problems problems)

/-- A checked value, or what is wrong with it as problems of the document. -/
def orProblems {α : Type} : Record.Checked α → Except Fault α
  | .ok value => .ok value
  | .faulty faults => .error (.problems (faults.map fun fault => .badField fault.cause.message))

/-- The reference to the source: the override, or the digest of the document. -/
def sourceRefOf (override : Value) (digest : String) : Value :=
  match override with
  | .null => .text ("sha256:" ++ digest)
  | value => value

/-- The template that a document gives. -/
def compile (text : String) (overrides : Overrides) : Except Fault Template := do
  let (header, sections) ← outline (dropReturns text.toList)
  let digest := Digest.ofText text
  let identifier ← orLong (identifierOf overrides.identifier header digest)
  let name ← orLong (nameOf overrides.name header identifier)
  let category ← orLong (categoryOf overrides.category header)
  let body ← bodyOf sections
  let objective ← orLong (header.text? "objective")
  let version ← orLong (header.text? "version")
  let protocolRef ← orLong (header.text? "protocol")
  let personaRef ← orLong (header.text? "persona")
  let sourceRef ← orProblems (Record.readText (sourceRefOf overrides.sourceRef digest))
  let (identifier, name, category) ← orProblems <|
    (fun identifier name category => (identifier, name, category))
      <$> Record.readText identifier <*> Record.readText name <*> Record.readText category
  .ok { identifier := some identifier
        name := some name
        category := some category
        phases := body.phases
        questions := body.questions
        objective, version, protocolRef, personaRef
        rules := body.rules
        scoring := body.scoring
        report := body.report
        info := some
          { phaseCount := body.phases.length
            questionCount := body.questions.length
            sourceRef := some sourceRef
            usedDefaultPhases := body.usesStandardPhases } }

/-- The kind of a value, as a message names it. -/
def kindName : Value → String
  | .null => "NoneType"
  | .bool _ => "bool"
  | .int _ => "int"
  | .float _ => "float"
  | .text _ => "str"
  | .bytes _ => "bytes"
  | .date _ => "date"
  | .moment _ => "datetime"
  | .list _ | .again .list _ => "list"
  | .pair _ _ => "tuple"
  | .set _ => "set"
  | .mapping _ | .again .mapping _ => "dict"

/-- The template that a value gives, which has to be the text of a document. -/
def compileValue (document : Value) (overrides : Overrides) : Except Fault Template :=
  match document with
  | .text text => compile text overrides
  | value => refuse (.notText (kindName value))

end Interview.Document
