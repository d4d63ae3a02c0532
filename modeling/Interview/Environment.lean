import Interview.Decimal.Numeral
import Interview.Text.Quoted

/-!
# Settings from the environment

A setting is a text under a name. Limits are whole numbers, which are read from their numerals.
-/

namespace Interview

/-- The settings by name. -/
abbrev Environment := List (String × String)

/-- A text that should be a whole number, and why it is not. -/
structure NumberFault where
  text : String
  fault : Decimal.NumeralFault
deriving DecidableEq, Repr

/-- The number of characters of a text that a message shows. -/
def NumberFault.shownLength : Nat := 200

/-- What is said of a number that is too long to be read or written. -/
def tooManyDigits (size : String) : String :=
  "Exceeds the limit (" ++ toString Decimal.digitLimit ++
    " digits) for integer string conversion" ++ size ++
    "; use sys.set_int_max_str_digits() to increase the limit"

/-- What is said of a numeral with too many digits. -/
def longNumeral (digits : Nat) : String :=
  tooManyDigits (": value has " ++ toString digits ++ " digits")

/-- The fault in words. -/
def NumberFault.message (fault : NumberFault) : String :=
  match fault.fault with
  | .malformed =>
    "invalid literal for int() with base 10: " ++
      String.ofList (fault.text.quoted.toList.take shownLength)
  | .tooLong digits => longNumeral digits

/-- A text as a whole number. -/
def wholeNumber (text : String) : Except NumberFault Int :=
  match Decimal.readWhole 10 text.toList with
  | .ok number => .ok number
  | .error fault => .error ⟨text, fault⟩

/-- A setting as a whole number, or `standard` if it is absent. -/
def Environment.whole (environment : Environment) (name : String) (standard : Int) :
    Except NumberFault Int :=
  match environment.lookup name with
  | some text => wholeNumber text
  | none => .ok standard

end Interview
