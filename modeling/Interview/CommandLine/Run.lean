import Interview.CommandLine.Arguments
import Interview.CommandLine.Log
import Interview.Json.Writer
import Interview.Protocol.File
import Interview.Registry

/-!
# The command line

The program compiles playbooks and prints each template, in full or in one line, and on request the
protocol with the rules of the template applied. A playbook with problems is reported, and the
others are still compiled. What else goes wrong ends the program. Beside the output stand the
reports and the log, in the order in which they come.
-/

namespace Interview.CommandLine

/-- What ends the program before all files are through. -/
inductive ProgramFault where
  | badLogLevel
  | protocol (fault : Protocol.LoadFault)
  | isDirectory
  | document (fault : Document.Fault)
deriving DecidableEq, Repr

/-- The fault in words, where there are words for it. -/
def ProgramFault.message? : ProgramFault → Option String
  | .protocol fault => fault.message?
  | .document fault => fault.message?
  | .badLogLevel | .isDirectory => none

/-- How the program ends. -/
inductive Ending where
  | finished (failed : Bool)
  | help
  | usage (fault : UsageFault)
  | broken (fault : ProgramFault)
deriving DecidableEq, Repr

/-- Something that is said beside the output: a problem of a playbook, another reason why a file
gives nothing, or a line of the log. -/
inductive Notice where
  | problem (path : Path) (cause : DocumentProblem)
  | refused (path : Path) (reason : String)
  | logged (line : LogLine)
deriving DecidableEq, Repr

/-- How the program ends, and what it has written by then. -/
structure Outcome where
  ending : Ending
  output : String
  notices : List Notice
deriving DecidableEq, Repr

/-- What comes of a file: a template, or reports, or the end of the program. -/
inductive FileResult where
  | printed (output : String)
  | failed (reports : List Notice)
  | broken (fault : ProgramFault)
deriving DecidableEq, Repr

/-- What comes of a file, and the lines of the log on the way there. -/
structure FileOutcome where
  log : List LogLine
  result : FileResult
deriving DecidableEq, Repr

/-- A line of the reports about a file. -/
def reportLine (path : Path) (what : String) : String :=
  path.text ++ ": " ++ what ++ "\n"

/-- A notice that is a report, in words. -/
def Notice.report? : Notice → Option String
  | .problem path cause => some (reportLine path cause.message)
  | .refused path reason => some (reportLine path reason)
  | .logged _ => none

/-- A notice as it is written. -/
def Notice.text : Notice → String
  | .problem path cause => reportLine path cause.message
  | .refused path reason => reportLine path reason
  | .logged line => line.written

/-- Whether a notice is written at a level of the log. Reports always are. -/
def Notice.isWritten (level : LogLevel) : Notice → Bool
  | .problem _ _ | .refused _ _ => true
  | .logged line => line.isWritten level

/-- All that is said beside the output, in words. -/
def Outcome.noticeText (outcome : Outcome) : String :=
  String.join (outcome.notices.map Notice.text)

/-- The reports in words, without the log. -/
def Outcome.errors (outcome : Outcome) : String :=
  String.join (outcome.notices.filterMap Notice.report?)

/-- The line that sums up a template. -/
def summaryLine (path : Path) (template : Template) : String :=
  let count (number : CompileInfo → Int) : String :=
    ((template.info.map fun info => toString (number info)).getD "")
  path.text ++ ": " ++ shownOr template.identifier ++ " — " ++ count (·.phaseCount) ++
    " phases, " ++ count (·.questionCount) ++ " questions\n"

/-- A template and the protocol for it, as one value. -/
def printedValue (template : Template) (protocol : Option Protocol) : Value :=
  .ofEntries (("template", template.toValue) ::
    (protocol.map fun protocol => ("protocol", protocol.toCamelValue)).toList)

/-- What is printed for a template. -/
def printed (arguments : Arguments) (path : Path) (template : Template)
    (protocol : Option Protocol) : String :=
  if arguments.summary then summaryLine path template
  else Json.write arguments.indent.toNat (printedValue template protocol) ++ "\n"

/-- The protocol for a template: the one given, with the rules of the template applied. -/
def protocolFor (protocol : Option Protocol) (template : Template) :
    Except Protocol.OverrideFault (Option Protocol) :=
  match protocol with
  | none => .ok none
  | some protocol => (protocol.resolve template).map some

/-- The lines of the log on the way from a template to the protocol for it. -/
def protocolLines (protocol : Option Protocol) (template : Template) : List LogLine :=
  match protocol with
  | none => []
  | some protocol => resolvingLines protocol template

/-- What comes of the text of a playbook. -/
def compileText (arguments : Arguments) (protocol : Option Protocol) (path : Path)
    (text : String) : FileOutcome :=
  match Document.compile text (.source path.text) with
  | .error (.problems all) => ⟨ignoredLines text, .failed (all.map (.problem path))⟩
  | .error fault => ⟨ignoredLines text, .broken (.document fault)⟩
  | .ok template =>
    let log := ignoredLines text ++ compiledLine template :: protocolLines protocol template
    match protocolFor protocol template with
    | .error fault => ⟨log, .failed [.refused path fault.message]⟩
    | .ok protocol => ⟨log, .printed (printed arguments path template protocol)⟩

/-- What comes of a file. -/
def compileFile (read : FileReader) (arguments : Arguments) (protocol : Option Protocol)
    (path : Path) : FileOutcome :=
  match read path with
  | .ok text => compileText arguments protocol path text
  | .error .missing =>
    ⟨[], .failed [.refused path ("Missing playbook file: " ++ path.text)]⟩
  | .error .isDirectory => ⟨[], .broken .isDirectory⟩

/-- The outcome with lines of the log before all that it tells. -/
def Outcome.logging (log : List LogLine) (outcome : Outcome) : Outcome :=
  { outcome with notices := log.map .logged ++ outcome.notices }

@[simp] theorem Outcome.ending_logging (log : List LogLine) (outcome : Outcome) :
    (outcome.logging log).ending = outcome.ending := rfl

@[simp] theorem Outcome.output_logging (log : List LogLine) (outcome : Outcome) :
    (outcome.logging log).output = outcome.output := rfl

@[simp] theorem Outcome.notices_logging (log : List LogLine) (outcome : Outcome) :
    (outcome.logging log).notices = log.map .logged ++ outcome.notices := rfl

/-- The outcome with what comes of a file before all that it tells. -/
def Outcome.after (outcome : Outcome) : FileResult → Outcome
  | .printed output => { outcome with output := output ++ outcome.output }
  | .failed reports =>
    { outcome with
      notices := reports ++ outcome.notices
      ending :=
        match outcome.ending with
        | .finished _ => .finished true
        | ending => ending }
  | .broken fault => ⟨.broken fault, "", []⟩

/-- What is written for files one after the other, with all lines of the log. -/
def compileFiles (read : FileReader) (arguments : Arguments) (protocol : Option Protocol) :
    List Path → Outcome
  | [] => ⟨.finished false, "", []⟩
  | path :: paths =>
    let file := compileFile read arguments protocol path
    ((compileFiles read arguments protocol paths).after file.result).logging file.log

/-- The protocol that the arguments name. -/
def protocolOf (read : FileReader) (environment : Environment) (arguments : Arguments) :
    Except ProgramFault (Option Protocol) :=
  match arguments.protocol with
  | none => .ok none
  | some path => ((Protocol.load read environment path).map some).mapError .protocol

/-- The lines of the log about the protocol that the arguments name. -/
def loadedLines (arguments : Arguments) (protocol : Option Protocol) : List LogLine :=
  match arguments.protocol, protocol with
  | some path, some protocol => [loadedLine protocol path]
  | _, _ => []

/-- The outcome without the lines of the log below a level. -/
def Outcome.atLevel (level : LogLevel) (outcome : Outcome) : Outcome :=
  { outcome with notices := outcome.notices.filter (·.isWritten level) }

@[simp] theorem Outcome.ending_atLevel (level : LogLevel) (outcome : Outcome) :
    (outcome.atLevel level).ending = outcome.ending := rfl

@[simp] theorem Outcome.output_atLevel (level : LogLevel) (outcome : Outcome) :
    (outcome.atLevel level).output = outcome.output := rfl

@[simp] theorem Outcome.notices_atLevel (level : LogLevel) (outcome : Outcome) :
    (outcome.atLevel level).notices = outcome.notices.filter (·.isWritten level) := rfl

/-- What the program does with sound arguments. -/
def follow (read : FileReader) (environment : Environment) (arguments : Arguments) : Outcome :=
  match LogLevel.ofText? arguments.logLevel with
  | none => ⟨.broken .badLogLevel, "", []⟩
  | some level =>
    match protocolOf read environment arguments with
    | .error fault => ⟨.broken fault, "", []⟩
    | .ok protocol =>
      ((compileFiles read arguments protocol arguments.files).logging
        (loadedLines arguments protocol)).atLevel level

/-- What the program does with its arguments. -/
def run (read : FileReader) (environment : Environment) (texts : List String) : Outcome :=
  match Arguments.read environment texts with
  | .ok arguments => follow read environment arguments
  | .error .help => ⟨.help, "", []⟩
  | .error (.usage fault) => ⟨.usage fault, "", []⟩

end Interview.CommandLine
