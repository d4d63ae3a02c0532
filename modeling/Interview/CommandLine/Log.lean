import Interview.Document.Compile
import Interview.Protocol.File
import Interview.Protocol.Override

/-!
# The log

While a playbook is compiled, the log is told what is done. Each line of the log has a level, and
those of the level that is asked for and of the levels above it are written. A written line starts
with the time, which is no part of it here.
-/

namespace Interview.CommandLine

open Interview.Document

/-- The levels of the log. The lowest one has no lines of its own, and lets all lines be written. -/
inductive LogLevel where
  | all
  | debug
  | info
  | warning
  | error
  | critical
deriving DecidableEq, Repr

namespace LogLevel

/-- The names of the levels, two of which have two. -/
def names : List (String × LogLevel) :=
  [("CRITICAL", .critical), ("FATAL", .critical), ("ERROR", .error), ("WARNING", .warning),
   ("WARN", .warning), ("INFO", .info), ("DEBUG", .debug), ("NOTSET", .all)]

/-- The name of a level in the log. -/
def name (level : LogLevel) : String :=
  ((names.find? fun (_, named) => named == level).map Prod.fst).getD ""

/-- The place of a level in their order. -/
def rank : LogLevel → Nat
  | .all => 0
  | .debug => 1
  | .info => 2
  | .warning => 3
  | .error => 4
  | .critical => 5

/-- A capital letter. Two letters have capitals of the basic alphabet without being of it. -/
def capital (c : Char) : Char :=
  if c == 'ı' then 'I' else if c == 'ſ' then 'S' else c.toUpper

/-- The level that a text names, in any case. -/
def ofText? (text : String) : Option LogLevel :=
  names.lookup (String.ofList (text.toList.map capital))

end LogLevel

/-- A line of the log, from a part of the program. -/
structure LogLine where
  level : LogLevel
  source : String
  text : String
deriving DecidableEq, Repr

/-- Whether a line is written at a level. -/
def LogLine.isWritten (level : LogLevel) (line : LogLine) : Bool :=
  decide (level.rank ≤ line.level.rank)

/-- A line as it is written behind the time. -/
def LogLine.written (line : LogLine) : String :=
  line.level.name ++ " " ++ line.source ++ ": " ++ line.text ++ "\n"

/-! ## Documents -/

/-- What the log is told by the compiler of documents. -/
def documentLine (level : LogLevel) (text : String) : LogLine :=
  ⟨level, "playbook_engine.compiler", text⟩

/-- The sections before the first one whose name has occurred before it. -/
def unrepeated (seen : List (List Char)) : List Section → List Section
  | [] => []
  | part :: sections =>
    if seen.contains part.key then [] else part :: unrepeated (part.key :: seen) sections

/-- The sections that a document is divided into, once its frontmatter has been read. -/
def dividedSections (text : List Char) : List Section :=
  match Opening.ofLines (Text.lines text) with
  | .plain body => (splitSections body).2
  | .fenced frontmatter body =>
    match frontmatterEntries (Text.unlines frontmatter) with
    | .ok _ => (splitSections body).2
    | .error _ => []
  | .unclosed => []

/-- The lines about the sections that are not read. A section that comes twice ends them. -/
def ignoredLines (text : String) : List LogLine :=
  let sections := unrepeated [] (dividedSections (Text.dropReturns text.toList))
  (sections.filter fun part => !sectionNames.any (·.toList == part.key)).map fun part =>
    documentLine .debug ("Ignoring unknown section '" ++ String.ofList part.key ++ "'")

/-- The line about a template that has been compiled. -/
def compiledLine (template : Template) : LogLine :=
  let ending := if template.info.any (·.usedDefaultPhases) then " (default phases)" else ""
  documentLine .info
    ("Compiled template " ++ shownOr template.identifier ++ ": " ++
      toString template.phases.length ++ " phases, " ++ toString template.questions.length ++
      " questions" ++ ending)

/-! ## Protocols -/

/-- What the log is told by the parts that handle protocols. -/
def protocolLine (level : LogLevel) (text : String) : LogLine :=
  ⟨level, "playbook_engine.protocol", text⟩

/-- The line about a protocol that has been loaded. -/
def loadedLine (protocol : Protocol) (path : Path) : LogLine :=
  protocolLine .info ("Loaded protocol " ++ shownOr protocol.slug ++ " from " ++ path.text)

/-- The lines about the rules of a template that are none of a protocol. -/
def foreignLines (template : Template) : List LogLine :=
  (template.rules.keys.filter fun key =>
      !Protocol.ruleFields.contains (Protocol.fieldName key)).map fun key =>
    protocolLine .debug
      ("Rule '" ++ key ++ "' of " ++ shownOr template.identifier ++ " is not a protocol override")

/-- The line about the rules of a template that have been applied to a protocol. -/
def resolvedLine (protocol : Protocol) (template : Template) : LogLine :=
  let updates := Value.ofEntries (Protocol.updates template.rules).toList
  protocolLine .debug
    ("Resolved protocol " ++ shownOr protocol.slug ++ " for " ++ shownOr template.identifier ++
      " with " ++ updates.text?.getD "")

/-- The lines about the protocol for a template. Without rules for it the protocol stays as it is,
and rules that do not go with it are reported. -/
def resolvingLines (protocol : Protocol) (template : Template) : List LogLine :=
  foreignLines template ++
    if (Protocol.updates template.rules).isEmpty then []
    else
      match protocol.resolve template with
      | .ok _ => [resolvedLine protocol template]
      | .error _ => []

end Interview.CommandLine
