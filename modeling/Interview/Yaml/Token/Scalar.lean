import Interview.Text.Digit
import Interview.Yaml.Cursor
import Interview.Yaml.Fault

/-!
# The text of scalars

A scalar is written plain, between quotes, or as a block of indented lines. A line end inside a
plain or quoted scalar counts as a space, unless empty lines follow, which stand for themselves.
-/

namespace Interview.Yaml

open Interview.Text (hexDigit?)

/-- Spaces and tabs. -/
def isSpaceOrTab (c : Char) : Bool :=
  c == ' ' || c == '\t'

/-- A line end and the empty lines after it, as they count inside a scalar. -/
def folded (lineEnd : Char) (emptyLines : List Char) : List Char :=
  if lineEnd != '\n' then lineEnd :: emptyLines
  else if emptyLines.isEmpty then [' ']
  else emptyLines

/-! ## Quoted scalars -/

/-- The character that an escape of one letter stands for. -/
def escaped? : Char → Option Char
  | '0' => some '\x00'
  | 'a' => some '\x07'
  | 'b' => some '\x08'
  | 't' | '\t' => some '\t'
  | 'n' => some '\n'
  | 'v' => some '\x0b'
  | 'f' => some '\x0c'
  | 'r' => some '\r'
  | 'e' => some '\x1b'
  | ' ' => some ' '
  | '"' => some '"'
  | '\\' => some '\\'
  | '/' => some '/'
  | 'N' => some '\u0085'
  | '_' => some '\u00a0'
  | 'L' => some '\u2028'
  | 'P' => some '\u2029'
  | _ => none

/-- The number of hexadecimal digits after an escape's letter. -/
def escapeWidth? : Char → Option Nat
  | 'x' => some 2
  | 'u' => some 4
  | 'U' => some 8
  | _ => none

/-- The number that exactly `width` leading hexadecimal digits denote. -/
def leadingHex? : (width : Nat) → (value : Nat) → List Char → Option Nat
  | 0, value, _ => some value
  | _, _, [] => none
  | width + 1, value, c :: rest =>
    match hexDigit? c with
    | some digit => leadingHex? width (value * 16 + digit) rest
    | none => none

/-- The character with a code point. A surrogate is a code point without a character, so its escape
counts as malformed here, although a reader whose texts can hold surrogates takes it. -/
def charOfCode (code : Nat) : Except Fault Char :=
  if code.isValidChar then .ok (Char.ofNat code)
  else if code < 0x110000 then .error (.malformed .badEscape)
  else if code < 0x80000000 then .error (.scalar .unreadable)
  else .error (.scalar .tooLarge)

/-- The character of an escape, whose backslash has been passed, and the position behind it. -/
def escape (cursor : Cursor) : Except Fault (Char × Cursor) :=
  match cursor.rest with
  | [] => .error (.malformed .badEscape)
  | c :: rest =>
    match escaped? c, escapeWidth? c with
    | some plain, _ => .ok (plain, cursor.step)
    | none, some width =>
      match leadingHex? width 0 rest with
      | some code => do .ok (← charOfCode code, cursor.skip (width + 1))
      | none => .error (.malformed .badEscape)
    | none, none => .error (.malformed .badEscape)

/-- The empty lines at the start of a line inside quotes, and the position of the first text. -/
def quotedLineEnds : (fuel : Nat) → Cursor → Except Fault (List Char × Cursor)
  | 0, _ => .error (.malformed .openQuote)
  | fuel + 1, cursor =>
    if cursor.atSeparator then .error (.malformed .openQuote)
    else
      let cursor := cursor.pass isSpaceOrTab
      match cursor.lineEnd? with
      | some (lineEnd, cursor) => do
        let (others, cursor) ← quotedLineEnds fuel cursor
        .ok (lineEnd :: others, cursor)
      | none => .ok ([], cursor)

/-- The text before the closing quote `mark`, and the position behind that quote. -/
def quotedFrom (mark : Char) : (fuel : Nat) → Cursor → Except Fault (List Char × Cursor)
  | 0, _ => .error (.malformed .openQuote)
  | fuel + 1, cursor =>
    match cursor.rest with
    | [] => .error (.malformed .openQuote)
    | c :: rest =>
      if isGap c then
        let (blanks, after) := cursor.span isSpaceOrTab
        match after.lineEnd? with
        | some (lineEnd, after) => do
          let (emptyLines, after) ← quotedLineEnds fuel after
          let (text, after) ← quotedFrom mark fuel after
          .ok (folded lineEnd emptyLines ++ text, after)
        | none => do
          let (text, after) ← quotedFrom mark fuel after
          .ok (blanks ++ text, after)
      else if c == mark then
        if mark == '\'' && rest.head? == some mark then do
          let (text, after) ← quotedFrom mark fuel (cursor.skip 2)
          .ok (mark :: text, after)
        else .ok ([], cursor.step)
      else if mark == '"' && c == '\\' then
        match cursor.step.lineEnd? with
        | some (_, after) => do
          let (emptyLines, after) ← quotedLineEnds fuel after
          let (text, after) ← quotedFrom mark fuel after
          .ok (emptyLines ++ text, after)
        | none => do
          let (character, after) ← escape cursor.step
          let (text, after) ← quotedFrom mark fuel after
          .ok (character :: text, after)
      else do
        let (text, after) ← quotedFrom mark fuel cursor.step
        .ok (c :: text, after)

/-- The text of the quoted scalar that starts at a quote, and the position behind it. -/
def quotedScalar (mark : Char) (cursor : Cursor) : Except Fault (List Char × Cursor) :=
  quotedFrom mark (cursor.left + 1) cursor.step

/-! ## Plain scalars -/

/-- The brackets and the comma, which end a plain scalar inside a flow collection. -/
def isFlowMark (c : Char) : Bool :=
  c == ',' || c == '[' || c == ']' || c == '\x7b' || c == '\x7d'

/-- The leading characters of a text that a plain scalar can hold without a gap. A colon is one of
them unless a gap follows, or, inside a flow collection, a bracket or comma. -/
def plainWord (inFlow : Bool) : List Char → List Char
  | [] => []
  | c :: rest =>
    if isGap c || (c == ':' && startsOrEnds (fun d => isGap d || (inFlow && isFlowMark d)) rest) ||
        (inFlow && (isFlowMark c || c == '?')) then []
    else c :: plainWord inFlow rest

/-- The line ends after a line of a plain scalar, and the position of the next text; `none` for the
line ends if a separator of documents comes first. -/
def plainLineEnds : (fuel : Nat) → Cursor → Option (List Char) × Cursor
  | 0, cursor => (some [], cursor)
  | fuel + 1, cursor =>
    if cursor.sees (· == ' ') then plainLineEnds fuel cursor.step
    else
      match cursor.lineEnd? with
      | none => (some [], cursor)
      | some (lineEnd, cursor) =>
        if cursor.atSeparator then (none, cursor)
        else
          let (others, cursor) := plainLineEnds fuel cursor
          (others.map (lineEnd :: ·), cursor)

/-- What lies between two words of a plain scalar. -/
structure PlainGap where
  /-- What the gap counts for, if the scalar can go on behind it. -/
  text : Option (List Char)
  after : Cursor
  crossesLine : Bool

/-- The gap at a position behind a word. -/
def plainGap (cursor : Cursor) : PlainGap :=
  let (blanks, after) := cursor.span (· == ' ')
  match after.lineEnd? with
  | none => ⟨if blanks.isEmpty then none else some blanks, after, false⟩
  | some (lineEnd, after) =>
    if after.atSeparator then ⟨none, after, true⟩
    else
      let (emptyLines, after) := plainLineEnds (after.left + 1) after
      ⟨emptyLines.map (folded lineEnd), after, true⟩

/-- The text of a plain scalar, the position behind it and the gap after it, and whether that gap
crosses a line end. Outside flow collections every line has to be indented by `indent` columns. -/
def plainScalar (inFlow : Bool) (indent : Nat) :
    (fuel : Nat) → Cursor → List Char × Cursor × Bool
  | 0, cursor => ([], cursor, false)
  | fuel + 1, cursor =>
    let word := plainWord inFlow cursor.rest
    let gap := plainGap (cursor.skip word.length)
    match gap.text with
    | none => (word, gap.after, gap.crossesLine)
    | some between =>
      if gap.after.sees (· == '#') || (!inFlow && gap.after.column < indent) ||
          (plainWord inFlow gap.after.rest).isEmpty then
        (word, gap.after, gap.crossesLine)
      else
        let (others, after, crossesLine) := plainScalar inFlow indent fuel gap.after
        (word ++ between ++ others, after, crossesLine)

/-! ## Block scalars -/

/-- What the header of a block scalar says about the line ends after its text: all are dropped, the
first is kept, or all are kept. -/
inductive Chomping where
  | strip
  | clip
  | keep
deriving DecidableEq, Repr

/-- The header of a block scalar: what happens to its last line ends, and its indentation if it is
given. -/
structure BlockHeader where
  chomping : Chomping
  indent : Option Nat
deriving DecidableEq, Repr

def chomping? : Char → Option Chomping
  | '+' => some .keep
  | '-' => some .strip
  | _ => none

/-- The digit of an indentation. -/
def indentDigit? (c : Char) : Option Nat :=
  if '0' ≤ c ∧ c ≤ '9' then some (c.toNat - 48) else none

/-- The header that stands at the start of a text and the number of its characters. -/
def blockHeader (text : List Char) : BlockHeader × Nat :=
  match text with
  | [] => (⟨.clip, none⟩, 0)
  | c :: rest =>
    match chomping? c, indentDigit? c with
    | some chomping, _ =>
      match rest.head?.bind indentDigit? with
      | some digit => (⟨chomping, some digit⟩, 2)
      | none => (⟨chomping, none⟩, 1)
    | none, some digit =>
      match rest.head?.bind chomping? with
      | some chomping => (⟨chomping, some digit⟩, 2)
      | none => (⟨.clip, some digit⟩, 1)
    | none, none => (⟨.clip, none⟩, 0)

/-- The position at the start of the next line, where only spaces and a comment may come before. -/
def passRestOfLine (why : Malformed) (cursor : Cursor) : Except Fault Cursor :=
  let cursor := (cursor.pass (· == ' ')).passComment
  match cursor.lineEnd? with
  | some (_, cursor) => .ok cursor
  | none => if cursor.rest.isEmpty then .ok cursor else .error (.malformed why)

/-- The empty lines before the text of a block scalar, the widest indentation found before the
first text, and the position of that text. -/
def blockIndent : (fuel : Nat) → (widest : Nat) → Cursor → List Char × Nat × Cursor
  | 0, widest, cursor => ([], widest, cursor)
  | fuel + 1, widest, cursor =>
    if cursor.sees (· == ' ') then
      let cursor := cursor.step
      blockIndent fuel (max widest cursor.column) cursor
    else
      match cursor.lineEnd? with
      | some (lineEnd, cursor) =>
        let (others, widest, cursor) := blockIndent fuel widest cursor
        (lineEnd :: others, widest, cursor)
      | none => ([], widest, cursor)

/-- The position behind the spaces that indent a line, at most as far as the column `indent`. -/
def passIndent (indent : Nat) (cursor : Cursor) : Cursor :=
  cursor.skip (min (indent - cursor.column) (cursor.rest.takeWhile (· == ' ')).length)

/-- The empty lines at a position inside a block scalar, and the position behind them and the
indentation of the next line. -/
def blockLineEnds (indent : Nat) : (fuel : Nat) → Cursor → List Char × Cursor
  | 0, cursor => ([], cursor)
  | fuel + 1, cursor =>
    let cursor := passIndent indent cursor
    match cursor.lineEnd? with
    | some (lineEnd, cursor) =>
      let (others, cursor) := blockLineEnds indent fuel cursor
      (lineEnd :: others, cursor)
    | none => ([], cursor)

/-- The text of a block scalar without its last line ends, and these. -/
structure BlockText where
  text : List Char
  lineEnd : List Char
  emptyLines : List Char
  after : Cursor

/-- Whether a line of the block scalar starts here. -/
def inBlock (indent : Nat) (cursor : Cursor) : Bool :=
  cursor.column == indent && !cursor.rest.isEmpty

/-- The lines of a block scalar from the start of one of them. With `folds`, the line end between
two lines that do not start with a space or tab counts as a space. -/
def blockLines (folds : Bool) (indent : Nat) : (fuel : Nat) → Cursor → BlockText
  | 0, cursor => ⟨[], [], [], cursor⟩
  | fuel + 1, cursor =>
    let (line, after) := cursor.span (!isBreak ·)
    let (lineEnd, after) :=
      match after.lineEnd? with
      | some (lineEnd, after) => ([lineEnd], after)
      | none => ([], after)
    let (emptyLines, next) := blockLineEnds indent (after.left + 1) after
    if inBlock indent next then
      let between :=
        if folds && lineEnd == ['\n'] && !cursor.sees isSpaceOrTab && !next.sees isSpaceOrTab then
          if emptyLines.isEmpty then [' '] else []
        else lineEnd
      let others := blockLines folds indent fuel next
      { others with text := line ++ between ++ emptyLines ++ others.text }
    else ⟨line, lineEnd, emptyLines, next⟩

/-- The text of the block scalar that starts at its indicator, and the position behind it. Its
lines are indented by `least` columns at least. -/
def blockScalar (folds : Bool) (least : Nat) (cursor : Cursor) :
    Except Fault (List Char × Cursor) := do
  let (header, width) := blockHeader cursor.step.rest
  let cursor := cursor.step.skip width
  if header.indent = some 0 || !cursor.seesOrEnds isBreakOrSpace then
    .error (.malformed .badBlockHeader)
  else
    let cursor ← passRestOfLine .badBlockHeader cursor
    let fuel := cursor.left + 1
    let (emptyLines, indent, cursor) :=
      match header.indent with
      | none =>
        let (emptyLines, widest, cursor) := blockIndent fuel 0 cursor
        (emptyLines, max least widest, cursor)
      | some more =>
        let indent := least + more - 1
        let (emptyLines, cursor) := blockLineEnds indent fuel cursor
        (emptyLines, indent, cursor)
    let block :=
      if inBlock indent cursor then
        let block := blockLines folds indent fuel cursor
        { block with text := emptyLines ++ block.text }
      else ⟨[], [], emptyLines, cursor⟩
    let ending :=
      match header.chomping with
      | .strip => []
      | .clip => block.lineEnd
      | .keep => block.lineEnd ++ block.emptyLines
    .ok (block.text ++ ending, block.after)

end Interview.Yaml
