import Interview.Yaml.Token.Name

/-!
# The tokens of a text

The text is read from left to right. Outside flow collections the column of a token decides which
block collections end before it. Any token that starts a node may turn out to be a key: its place is
remembered until a colon on the same line confirms it or the line ends. The `key` token is then put
in at the remembered place.
-/

namespace Interview.Yaml

/-- A place that becomes a key if a colon follows soon enough. `before` counts the tokens before it.
In a block mapping that has begun, a key is required at the column of the mapping. -/
structure PendingKey where
  before : Nat
  required : Bool
  index : Nat
  line : Nat
  column : Nat
deriving DecidableEq, Repr

/-- The number of characters within which a key must be followed by its colon. -/
def keySpan : Nat := 1024

/-- Whether the colon that would confirm a key can no longer come. -/
def PendingKey.isStale (key : PendingKey) (cursor : Cursor) : Bool :=
  key.line != cursor.line || keySpan < cursor.index - key.index

/-- The state of reading: the tokens read so far, latest first, with their number, the columns of
the open block collections, innermost first, and the place of a possible key on this level and on
the levels of the flow collections around it. -/
structure Lexer where
  cursor : Cursor
  tokens : List Token
  count : Nat
  indents : List Nat
  key : Option PendingKey
  outer : List (Option PendingKey)
  keyAllowed : Bool

namespace Lexer

/-- The state before the first token. -/
def ofText (text : List Char) : Lexer :=
  { cursor := .ofText text, tokens := [], count := 0, indents := [], key := none, outer := [],
    keyAllowed := true }

/-- Whether a flow collection is open. -/
def inFlow (s : Lexer) : Bool := !s.outer.isEmpty

/-- The column that the text of a scalar on the following lines must reach. -/
def textIndent (s : Lexer) : Nat :=
  match s.indents with
  | [] => 0
  | indent :: _ => indent + 1

/-- The state behind a token. -/
def emit (s : Lexer) (token : Token) (after : Cursor) : Lexer :=
  { s with cursor := after, tokens := token :: s.tokens, count := s.count + 1 }

/-- The position of the next token, and whether a line end comes before it. -/
def nextPlace : (fuel : Nat) → Cursor → Bool × Cursor
  | 0, cursor => (false, cursor)
  | fuel + 1, cursor =>
    let cursor := (cursor.pass (· == ' ')).passComment
    match cursor.lineEnd? with
    | some (_, cursor) => (true, (nextPlace fuel cursor).2)
    | none => (false, cursor)

/-- The state at the next token. A new line outside flow collections can begin with a key. -/
def passGap (s : Lexer) : Lexer :=
  let cursor :=
    if s.cursor.index == 0 && s.cursor.sees (· == '\uFEFF') then s.cursor.step else s.cursor
  let (crossed, cursor) := nextPlace (cursor.left + 1) cursor
  { s with cursor, keyAllowed := s.keyAllowed || (crossed && !s.inFlow) }

/-- The possible key of this level is given up. -/
def dropKey (s : Lexer) : Except Fault Lexer :=
  if s.key.any (·.required) then .error (.malformed .lostKey) else .ok { s with key := none }

/-- The possible keys of all levels whose colon cannot come any more are given up. -/
def dropStale (s : Lexer) : Except Fault Lexer :=
  let stale (key : PendingKey) : Bool := key.isStale s.cursor
  if (s.key :: s.outer).any (·.any fun key => key.required && stale key) then
    .error (.malformed .lostKey)
  else
    .ok { s with
      key := s.key.filter (!stale ·)
      outer := s.outer.map (·.filter (!stale ·)) }

/-- The place before the next token may become a key. -/
def saveKey (s : Lexer) : Except Fault Lexer :=
  if s.keyAllowed then do
    let s ← s.dropKey
    .ok { s with
      key := some
        { before := s.count
          required := !s.inFlow && s.indents.head? == some s.cursor.column
          index := s.cursor.index
          line := s.cursor.line
          column := s.cursor.column } }
  else .ok s

/-- The state after the ends of `n` block collections. -/
def closeBlocks : (n : Nat) → Lexer → Lexer
  | 0, s => s
  | n + 1, s =>
    closeBlocks n { s with
      tokens := .blockEnd :: s.tokens, count := s.count + 1, indents := s.indents.drop 1 }

/-- The block collections whose column is beyond `column` end, outside flow collections. -/
def closeBeyond (s : Lexer) (column : Nat) : Lexer :=
  if s.inFlow then s else s.closeBlocks (s.indents.takeWhile (column < ·)).length

/-- All block collections end, outside flow collections. -/
def closeAll (s : Lexer) : Lexer :=
  if s.inFlow then s else s.closeBlocks s.indents.length

/-- Whether a column is beyond that of the innermost block collection. -/
def isDeeper (s : Lexer) (column : Nat) : Bool :=
  s.indents.head?.all (· < column)

/-- A block collection starts at the next token, unless one is open at its column. -/
def openBlock (s : Lexer) (start : Token) : Lexer :=
  let column := s.cursor.column
  if s.isDeeper column then
    { s.emit start s.cursor with indents := column :: s.indents }
  else s

/-- A flow collection starts. -/
def openFlow (s : Lexer) (start : Token) : Except Fault Lexer := do
  let s ← s.saveKey
  .ok { s.emit start s.cursor.step with key := none, outer := s.key :: s.outer, keyAllowed := true }

/-- A flow collection ends. -/
def closeFlow (s : Lexer) (finish : Token) : Except Fault Lexer := do
  let s ← s.dropKey
  match s.outer with
  | [] => .error (.malformed .strayBracket)
  | key :: outer => .ok { s.emit finish s.cursor.step with key, outer, keyAllowed := false }

/-- A comma between the entries of a flow collection. -/
def comma (s : Lexer) : Except Fault Lexer := do
  let s ← s.dropKey
  .ok { s.emit .comma s.cursor.step with keyAllowed := true }

/-- The hyphen before an entry of a block list. -/
def entry (s : Lexer) : Except Fault Lexer := do
  if !s.inFlow && !s.keyAllowed then .error (.malformed .misplacedEntry)
  else
    let s := if s.inFlow then s else s.openBlock .blockListStart
    let s ← s.dropKey
    .ok { s.emit .entry s.cursor.step with keyAllowed := true }

/-- The question mark before a key. -/
def markedKey (s : Lexer) : Except Fault Lexer := do
  if !s.inFlow && !s.keyAllowed then .error (.malformed .misplacedKey)
  else
    let s := if s.inFlow then s else s.openBlock .blockMappingStart
    let s ← s.dropKey
    .ok { s.emit .key s.cursor.step with keyAllowed := !s.inFlow }

/-- The tokens, latest first, with others put in before the last `n` of them. -/
def putIn (n : Nat) (others tokens : List Token) : List Token :=
  tokens.take n ++ others ++ tokens.drop n

/-- The colon before a value, which confirms the possible key of this level. Its first key opens a
block mapping. -/
def value (s : Lexer) : Except Fault Lexer :=
  match s.key with
  | some key =>
    let opens := !s.inFlow && s.isDeeper key.column
    let marks := if opens then [.key, .blockMappingStart] else [.key]
    let s :=
      { s with
        tokens := putIn (s.count - key.before) marks s.tokens
        count := s.count + marks.length
        indents := if opens then key.column :: s.indents else s.indents
        key := none
        keyAllowed := false }
    .ok (s.emit .value s.cursor.step)
  | none =>
    if !s.inFlow && !s.keyAllowed then .error (.malformed .misplacedValue)
    else
      let s := if s.inFlow then s else s.openBlock .blockMappingStart
      .ok { s.emit .value s.cursor.step with keyAllowed := !s.inFlow }

/-- A token that may be a key, read by `read` from its first character on. -/
def node {α : Type} (s : Lexer) (read : Cursor → Except Fault (α × Cursor)) (token : α → Token) :
    Except Fault Lexer := do
  let s ← s.saveKey
  let (content, after) ← read s.cursor
  .ok { s.emit (token content) after with keyAllowed := false }

/-- A plain scalar. If the gap behind it crosses a line end, a key may follow. -/
def plain (s : Lexer) : Except Fault Lexer := do
  let s ← s.saveKey
  let (content, after, crossed) :=
    plainScalar s.inFlow s.textIndent (s.cursor.left + 1) s.cursor
  .ok { s.emit (.scalar true content) after with keyAllowed := crossed }

/-- A block scalar. -/
def block (s : Lexer) (folds : Bool) : Except Fault Lexer := do
  let s ← s.dropKey
  let (content, after) ← blockScalar folds (max s.textIndent 1) s.cursor
  .ok { s.emit (.scalar false content) after with keyAllowed := true }

/-- A line that declares or separates documents. -/
def boundary (s : Lexer) (token : Token) (after : Cursor) : Except Fault Lexer := do
  let s ← s.closeAll.dropKey
  .ok { s.emit token after with keyAllowed := false }

/-- Characters that announce something other than a plain scalar. -/
def isIndicator (c : Char) : Bool :=
  "-?:,[]\x7b\x7d#&*!|>'\"%@\x60".toList.contains c

/-- Whether a plain scalar can start with `c` before the text `rest`. -/
def startsPlain (inFlow : Bool) (c : Char) (rest : List Char) : Bool :=
  !(isGap c || isIndicator c) ||
    (!startsOrEnds isGap rest && (c == '-' || (!inFlow && (c == '?' || c == ':'))))

/-- The state behind the token that starts with `c` before the text `rest`. -/
def tokenAt (s : Lexer) (c : Char) (rest : List Char) : Except Fault Lexer := do
  if s.cursor.column == 0 && c == '%' then
    let (declared, after) ← directive s.cursor
    s.boundary (.directive declared) after
  else if s.cursor.column == 0 && s.cursor.atSeparator then
    s.boundary (if c == '-' then .documentStart else .documentEnd) (s.cursor.skip 3)
  else if c == '[' then s.openFlow .flowListStart
  else if c == '\x7b' then s.openFlow .flowMappingStart
  else if c == ']' then s.closeFlow .flowListEnd
  else if c == '\x7d' then s.closeFlow .flowMappingEnd
  else if c == ',' then s.comma
  else if c == '-' && startsOrEnds isGap rest then s.entry
  else if c == '?' && (s.inFlow || startsOrEnds isGap rest) then s.markedKey
  else if c == ':' && (s.inFlow || startsOrEnds isGap rest) then s.value
  else if c == '*' then s.node anchorName .alias
  else if c == '&' then s.node anchorName .anchor
  else if c == '!' then s.node tagName .tag
  else if c == '|' && !s.inFlow then s.block false
  else if c == '>' && !s.inFlow then s.block true
  else if c == '\'' || c == '"' then s.node (quotedScalar c) (.scalar false)
  else if startsPlain s.inFlow c rest then s.plain
  else .error (.malformed .strangeStart)

/-- The state behind the next token, or at the end of the text. -/
def next (s : Lexer) : Except Fault (Bool × Lexer) := do
  let s ← s.passGap.dropStale
  let s := s.closeBeyond s.cursor.column
  match s.cursor.rest with
  | [] => do
    let s ← s.closeAll.dropKey
    .ok (true, s)
  | c :: rest => do
    let s ← s.tokenAt c rest
    .ok (false, s)

end Lexer

/-- The tokens of a text, and what cut them short if something did. -/
structure Tokens where
  tokens : List Token
  fault : Option Fault
deriving DecidableEq, Repr

/-- The tokens from a state on. -/
def Lexer.run : (fuel : Nat) → Lexer → Tokens
  | 0, s => ⟨s.tokens.reverse, none⟩
  | fuel + 1, s =>
    match s.next with
    | .error fault => ⟨s.tokens.reverse, some fault⟩
    | .ok (true, s) => ⟨s.tokens.reverse, none⟩
    | .ok (false, s) => s.run fuel

/-- Characters that may stand in a document: tabs, line ends, and what is neither a control
character, half of a pair nor reserved. -/
def isAdmitted (c : Char) : Bool :=
  let n := c.toNat
  c == '\t' || c == '\n' || c == '\r' || (0x20 ≤ n && n ≤ 0x7E) || n == 0x85 ||
    (0xA0 ≤ n && n ≤ 0xD7FF) || (0xE000 ≤ n && n ≤ 0xFFFD) || 0x10000 ≤ n

/-- The tokens of a text. Each takes at least one character, so their number is below that of the
characters and one. -/
def Tokens.ofText (text : List Char) : Tokens :=
  if text.all isAdmitted then (Lexer.ofText text).run (text.length + 1)
  else ⟨[], some (.malformed .strangeCharacter)⟩

end Interview.Yaml
