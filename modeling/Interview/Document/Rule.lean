import Interview.Decimal.Numeral
import Interview.Entries
import Interview.Environment
import Interview.Document.Problem
import Interview.Text.Line
import Interview.Text.Lower

/-!
# Rules

A rule is a line with a key, a colon and a value. The value is a text if it stands between quotes,
and else a truth value or a number if it has the form of one.
-/

namespace Interview.Document

open Interview.Text

/-- A bullet at the start of a text: a mark, or digits with a point or bracket, before a blank. What
follows it and its blanks, or the whole text if there is none. -/
def dropBullet (text : List Char) : List Char :=
  let after :=
    match text with
    | [] => []
    | c :: rest =>
      if c == '-' || c == '*' || c == '+' then rest
      else
        match text.span isDigit with
        | (_ :: _, mark :: rest) => if mark == '.' || mark == ')' then rest else []
        | _ => []
  match after with
  | c :: _ => if isBlank c then after.dropWhile isBlank else text
  | [] => text

/-- The text between two equal quotes, if the whole is such a text. -/
def quotedContent? : List Char → Option (List Char)
  | [] => none
  | mark :: rest =>
    if (mark == '\'' || mark == '"') && rest.getLast? == some mark then some rest.dropLast
    else none

/-- A text without the quotes around it, if there are any. -/
def unquote (text : List Char) : List Char :=
  (quotedContent? text).getD text

/-- Whether a text is a whole number: digits after at most one sign. -/
def isWholeForm (text : List Char) : Bool :=
  let digits := (Decimal.splitSign text).2
  !digits.isEmpty && digits.all isDigit

/-- The value that a text denotes in a rule: a quoted text, a truth value in any case, a number, or
else the text itself. -/
def scalarValue (text : List Char) : Except NumberFault Value :=
  let text := trim text
  match quotedContent? text with
  | some content => .ok (.text (String.ofList content))
  | none =>
    let lowered := lower text
    if lowered == "true".toList then .ok (.bool true)
    else if lowered == "false".toList then .ok (.bool false)
    else if isWholeForm text then (wholeNumber (String.ofList text)).map .int
    else
      match Decimal.readFraction? text with
      | some number => .ok (.float number)
      | none => .ok (.text (String.ofList text))

/-- The parts of a text before and after its first colon, if there is one. -/
def splitColon : List Char → Option (List Char × List Char)
  | [] => none
  | c :: rest =>
    if c == ':' then some ([], rest)
    else (splitColon rest).map fun (before, after) => (c :: before, after)

/-- Whether a line, without its bullet, is to be read. -/
def isRuleLine (text : List Char) : Bool :=
  !text.isEmpty && text.head? != some '#'

/-- One rule more, or one problem more. -/
def addRule (sofar : Entries Value × List DocumentProblem) (text : List Char) :
    Except NumberFault (Entries Value × List DocumentProblem) :=
  let (rules, problems) := sofar
  match splitColon text with
  | none => .ok (rules, problems ++ [.malformedRule (String.ofList text)])
  | some (key, value) =>
    let key := String.ofList (trim key)
    if key.isEmpty then .ok (rules, problems ++ [.malformedRule (String.ofList text)])
    else if rules.contains key then .ok (rules, problems ++ [.repeatedRule key])
    else do
      let value ← scalarValue value
      .ok (rules.put key value, problems)

/-- The rules of a section, and what is wrong with its lines. -/
def rulesOf (content : List Char) : Except NumberFault (Entries Value × List DocumentProblem) :=
  (((lines content).map fun line => dropBullet (trim line)).filter isRuleLine).foldlM addRule
    (.empty, [])

end Interview.Document
