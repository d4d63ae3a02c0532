import Interview.Files.Tree
import Interview.Protocol.Defaults
import Interview.Protocol.FieldName
import Interview.Value.Display
import Interview.Yaml.Content

/-!
# Protocols from files

A protocol file is a mapping in YAML. What it does not say comes from the defaults, and a protocol
without a name is named after its file.
-/

namespace Interview.Protocol

/-- Why a file does not give a protocol. -/
inductive LoadFault where
  | missing (path : Path)
  | isDirectory
  | yaml (fault : Yaml.Fault)
  | notMapping (path : Path)
  | setting (fault : NumberFault)
  | longKey
  | unsound (faults : List Record.Fault)
deriving DecidableEq, Repr

/-- The fault in words, where there are words for it. -/
def LoadFault.message? : LoadFault → Option String
  | .missing path => some ("Missing protocol file: " ++ path.text)
  | .notMapping path => some ("Protocol file " ++ path.text ++ " must contain a mapping")
  | .setting fault => some fault.message
  | .longKey => some (tooManyDigits "")
  | .isDirectory | .yaml _ | .unsound _ => none

/-- The fields that a mapping sets, put over those already there. -/
def overlay (fields : Entries Value) : List (Value × Value) → Option (Entries Value)
  | [] => some fields
  | (key, value) :: entries =>
    match key.text? with
    | some key => overlay (fields.put (fieldName key) value) entries
    | none => none

/-- The protocol that the text of a file describes. -/
def ofText (environment : Environment) (path : Path) (text : String) :
    Except LoadFault Protocol := do
  let content ← (Yaml.content text.toList).mapError .yaml
  match content with
  | .mapping entries =>
    let defaults ← (Defaults.ofEnvironment environment).mapError .setting
    match overlay (defaults.fields path.stem) entries with
    | none => .error .longKey
    | some fields =>
      match ofValue (.ofEntries fields.toList) with
      | .ok protocol => .ok protocol
      | .faulty faults => .error (.unsound faults)
  | _ => .error (.notMapping path)

/-- The protocol that a file describes. -/
def load (read : FileReader) (environment : Environment) (path : Path) :
    Except LoadFault Protocol :=
  match read path with
  | .ok text => ofText environment path text
  | .error .missing => .error (.missing path)
  | .error .isDirectory => .error .isDirectory

end Interview.Protocol
