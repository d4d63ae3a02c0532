import Interview.Environment
import Interview.Files.Path

/-!
# Arguments of the command line

An argument that starts with a hyphen is an option, unless it is a number or holds a space. Options
can be shortened as long as one option alone is meant, and can carry their value after an equals
sign. Two hyphens alone end the options. All other arguments are files, which have to stand
together.
-/

namespace Interview.CommandLine

open Interview.Text

/-- What an option asks for. -/
inductive Flag where
  | help
  | summary
  | protocol
  | indent
  | logLevel
deriving DecidableEq, Repr

/-- The names of the options. -/
def flagNames : List (String × Flag) :=
  [("-h", .help), ("--help", .help), ("--summary", .summary), ("--protocol", .protocol),
   ("--indent", .indent), ("--log-level", .logLevel)]

/-- All names of an option. -/
def Flag.name (flag : Flag) : String :=
  "/".intercalate ((flagNames.filter (·.2 == flag)).map Prod.fst)

/-- Whether an option comes with a value. -/
def Flag.takesValue : Flag → Bool
  | .help | .summary => false
  | .protocol | .indent | .logLevel => true

/-- What is wrong with the arguments. -/
inductive UsageFault where
  | ambiguous (argument : String) (names : List String)
  | valueMissing (flag : Flag)
  | notWhole (flag : Flag) (text : String)
  | valueIgnored (flag : Flag) (text : String)
  | unrecognized (arguments : List String)
  | filesMissing
deriving DecidableEq, Repr

/-- The name under which the program speaks of itself. -/
def programName : String := "playbook-compile"

/-- What is said of an option. -/
def aboutFlag (flag : Flag) (what : String) : String :=
  "argument " ++ flag.name ++ ": " ++ what

/-- The fault in words. -/
def UsageFault.message (fault : UsageFault) : String :=
  programName ++ ": error: " ++
    match fault with
    | .ambiguous argument names =>
      "ambiguous option: " ++ argument ++ " could match " ++ ", ".intercalate names
    | .valueMissing flag => aboutFlag flag "expected one argument"
    | .notWhole flag text => aboutFlag flag ("invalid int value: " ++ text.quoted)
    | .valueIgnored flag text => aboutFlag flag ("ignored explicit argument " ++ text.quoted)
    | .unrecognized arguments => "unrecognized arguments: " ++ " ".intercalate arguments
    | .filesMissing => "the following arguments are required: files"

/-- Why the arguments are not followed: help is asked for, or they are faulty. -/
inductive Stop where
  | help
  | usage (fault : UsageFault)
deriving DecidableEq, Repr

/-! ## Kinds of arguments -/

/-- A value that an option carries in the same argument: after an equals sign, or as further letters
after a single hyphen. -/
inductive Carried where
  | none
  | value (text : String)
  | letters (text : String)
deriving DecidableEq, Repr

/-- An argument by its kind. An option can carry a value; one without a flag is unknown. -/
inductive Word where
  | plain (text : String)
  | separator
  | option (flag : Option Flag) (carried : Carried) (text : String)
deriving DecidableEq, Repr

/-- The argument as it was given. -/
def Word.text : Word → String
  | .plain text => text
  | .separator => "--"
  | .option _ _ text => text

/-- The parts of an argument before and after its first equals sign. -/
def splitEquals (text : List Char) : List Char × Carried :=
  match text.span (· != '=') with
  | (name, _ :: value) => (name, .value (.ofList value))
  | (name, []) => (name, .none)

/-- Whether a text is a negative number: a minus and digits, which a point may precede or divide. -/
def isNegativeNumber (text : List Char) : Bool :=
  let text := if text.getLast? == some '\n' then text.dropLast else text
  match text with
  | '-' :: rest =>
    match rest.span isDigit with
    | (whole, []) => !whole.isEmpty
    | (_, '.' :: fraction) => !fraction.isEmpty && fraction.all isDigit
    | _ => false
  | _ => false

/-- The options that an argument can mean, each with its full name and what it carries. -/
def candidates (text : List Char) : List (Flag × String × Carried) :=
  match text with
  | '-' :: '-' :: _ =>
    let (start, carried) := splitEquals text
    flagNames.filterMap fun (name, flag) =>
      if start.isPrefixOf name.toList then some (flag, name, carried) else none
  | '-' :: c :: rest =>
    flagNames.filterMap fun (name, flag) =>
      if name.toList = ['-', c] then some (flag, name, .letters (.ofList rest))
      else if text.isPrefixOf name.toList then some (flag, name, .none)
      else none
  | _ => []

/-- The kind of an argument before the end of the options. -/
def Word.ofText (text : String) : Except Stop Word :=
  let characters := text.toList
  if characters.head? != some '-' then .ok (.plain text)
  else
    match flagNames.lookup text with
    | some flag => .ok (.option (some flag) .none text)
    | none =>
      if characters.length = 1 then .ok (.plain text)
      else
        let (start, carried) := splitEquals characters
        match flagNames.lookup (String.ofList start) with
        | some flag => .ok (.option (some flag) carried text)
        | none =>
          match candidates characters with
          | [(flag, _, carried)] => .ok (.option (some flag) carried text)
          | [] =>
            if isNegativeNumber characters || characters.contains ' ' then .ok (.plain text)
            else .ok (.option none .none text)
          | several => .error (.usage (.ambiguous text (several.map fun (_, name, _) => name)))

/-- The kinds of all arguments. After two hyphens alone none is an option. -/
def Word.ofTexts : List String → Except Stop (List Word)
  | [] => .ok []
  | text :: texts =>
    if text = "--" then .ok (.separator :: texts.map .plain)
    else do
      let word ← Word.ofText text
      let words ← Word.ofTexts texts
      .ok (word :: words)

/-! ## What the arguments ask for -/

/-- What the arguments ask for. -/
structure Arguments where
  files : List Path
  summary : Bool
  protocol : Option Path
  indent : Int
  logLevel : String
deriving DecidableEq, Repr

/-- The state of going through the arguments: the settings so far, the files once they have been
found, and what nobody asked for. -/
structure Reading where
  summary : Bool
  protocol : Option Path
  indent : Int
  logLevel : String
  files : Option (List String)
  extras : List String

/-- The depth of indentation where none is given. -/
def standardIndent : Int := 2

/-- The state before the first argument. The level of logging can come from the environment. -/
def Reading.initial (environment : Environment) : Reading :=
  { summary := false, protocol := none, indent := standardIndent
    logLevel := (environment.lookup "PLAYBOOK_LOG_LEVEL").getD "WARNING"
    files := none, extras := [] }

/-- The effect of an option with its value. -/
def Reading.apply (state : Reading) (flag : Flag) (value : String) : Except Stop Reading :=
  match flag with
  | .help => .error .help
  | .summary => .ok { state with summary := true }
  | .protocol => .ok { state with protocol := some (.ofText value) }
  | .logLevel => .ok { state with logLevel := value }
  | .indent =>
    match Decimal.readWhole 10 value.toList with
    | .ok indent => .ok { state with indent }
    | .error _ => .error (.usage (.notWhole .indent value))

/-- The value that is given by mistake among letters after a single hyphen: one after an equals
sign, or letters that start with another hyphen. Letters that are no option end the search. -/
def ignoredLetters? : List Char → Option (List Char)
  | [] => none
  | c :: rest =>
    if c == '-' then some (c :: rest)
    else if (flagNames.lookup (String.ofList ['-', c])).isSome then
      match rest with
      | '=' :: value => some value
      | rest => ignoredLetters? rest
    else none

/-- The effect of an option that takes no value, with what it carries. -/
def Reading.applyAlone (state : Reading) (flag : Flag) (carried : Carried) :
    Except Stop Reading :=
  match carried with
  | .none => state.apply flag ""
  | .value text => .error (.usage (.valueIgnored flag text))
  | .letters text =>
    match ignoredLetters? text.toList with
    | some value => .error (.usage (.valueIgnored flag (String.ofList value)))
    | none => state.apply flag ""

/-- A run of arguments that are not options. The first such run gives the files. -/
def Reading.addRun (state : Reading) (run : List Word) : Reading :=
  let isPlain (word : Word) : Bool := word != .separator
  if state.files.isNone && run.any isPlain then
    { state with files := some ((run.filter isPlain).map Word.text) }
  else { state with extras := state.extras ++ run.map Word.text }

/-- Whether an argument is an option. -/
def Word.isOption : Word → Bool
  | .option _ _ _ => true
  | _ => false

/-- The state after all arguments. -/
def Reading.run : (fuel : Nat) → Reading → List Word → Except Stop Reading
  | 0, state, _ => .ok state
  | _, state, [] => .ok state
  | fuel + 1, state, .option none _ text :: words =>
    Reading.run fuel { state with extras := state.extras ++ [text] } words
  | fuel + 1, state, .option (some flag) carried _ :: words =>
    if flag.takesValue then
      match carried, words with
      | .value value, words | .letters value, words => do
        Reading.run fuel (← state.apply flag value) words
      | .none, .plain value :: words => do Reading.run fuel (← state.apply flag value) words
      | .none, _ => .error (.usage (.valueMissing flag))
    else do Reading.run fuel (← state.applyAlone flag carried) words
  | fuel + 1, state, words =>
    let run := words.takeWhile (!·.isOption)
    Reading.run fuel (state.addRun run) (words.drop run.length)

/-- What the arguments ask for, if they are sound. -/
def Arguments.read (environment : Environment) (texts : List String) : Except Stop Arguments := do
  let words ← Word.ofTexts texts
  let state ← Reading.run (words.length + 1) (.initial environment) words
  match state.files, state.extras with
  | none, _ => .error (.usage .filesMissing)
  | some files, [] =>
    .ok { files := files.map .ofText, summary := state.summary, protocol := state.protocol
          indent := state.indent, logLevel := state.logLevel }
  | some _, extras => .error (.usage (.unrecognized extras))

end Interview.CommandLine
