import Interview.CommandLine.Run

/-!
# The program

Reads the files that the arguments name and the settings of the environment, lets
`CommandLine.run` decide what is to be written, and writes it. The lines of the log are written
without the time.
-/

open Interview

/-- The settings that the program looks at. -/
def settingNames : List String :=
  ["PLAYBOOK_LOG_LEVEL", "PLAYBOOK_DEFAULT_MAX_QUESTIONS", "PLAYBOOK_DEFAULT_MAX_FOLLOWUPS",
   "PLAYBOOK_DEFAULT_DRIFT_SOFT_LIMIT", "PLAYBOOK_DEFAULT_DRIFT_HARD_LIMIT"]

/-- The settings that are there. -/
def readSettings : IO Environment :=
  settingNames.filterMapM fun name => do
    return (← IO.getEnv name).map (name, ·)

/-- The text of a file, or why there is none. -/
def readText (path : Path) : IO (Except FileFault String) := do
  try
    let text ← IO.FS.readFile path.text
    return .ok (.ofList (Text.ofPlatform text.toList))
  catch
    | .noFileOrDirectory .. => return .error .missing
    | _ => return .error .isDirectory

/-- The files that the arguments name. -/
def namedFiles (environment : Environment) (texts : List String) : List Path :=
  match CommandLine.Arguments.read environment texts with
  | .ok arguments => arguments.protocol.toList ++ arguments.files
  | .error _ => []

/-- The code with which the program ends, and what it says of its end. -/
def ended : CommandLine.Ending → UInt32 × String
  | .finished failed => (if failed then 1 else 0, "")
  | .help => (0, "")
  | .usage fault => (2, fault.message ++ "\n")
  | .broken fault => (1, (fault.message?.getD "the program cannot go on") ++ "\n")

/-- Compiles the playbooks that the arguments name. -/
def main (texts : List String) : IO UInt32 := do
  let environment ← readSettings
  let files ← (namedFiles environment texts).mapM fun path => do
    return (path, ← readText path)
  let read : FileReader := fun path => (files.lookup path).getD (.error .missing)
  let outcome := CommandLine.run read environment texts
  let (code, remark) := ended outcome.ending
  IO.print outcome.output
  IO.eprint (outcome.noticeText ++ remark)
  return code
