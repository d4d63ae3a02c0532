/-!
# Positions in a text

A cursor is what is left of a text together with the place where it starts: the number of
characters before it, its line and its column. Indentation is measured in columns, and a key has to
end on the line on which it begins.
-/

namespace Interview.Yaml

/-- Characters that end a line. -/
def isBreak (c : Char) : Bool :=
  c == '\n' || c == '\r' || c == '\u0085' || c == '\u2028' || c == '\u2029'

/-- Line ends and spaces. -/
def isBreakOrSpace (c : Char) : Bool :=
  c == ' ' || isBreak c

/-- Line ends, spaces and tabs. -/
def isGap (c : Char) : Bool :=
  c == ' ' || c == '\t' || isBreak c

/-- Whether a text starts with a character of the class `p` or has ended. -/
def startsOrEnds (p : Char → Bool) : List Char → Bool
  | [] => true
  | c :: _ => p c

/-- Characters of names: letters and digits of the basic alphabet, hyphens and underscores. -/
def isNameChar (c : Char) : Bool :=
  ('0' ≤ c && c ≤ '9') || ('A' ≤ c && c ≤ 'Z') || ('a' ≤ c && c ≤ 'z') || c == '-' || c == '_'

/-- What is left of a text, and where it starts. The number of characters left bounds every loop
that goes forward. -/
structure Cursor where
  rest : List Char
  index : Nat
  line : Nat
  column : Nat
  left : Nat
  left_eq : left = rest.length

namespace Cursor

/-- The start of a text. -/
def ofText (text : List Char) : Cursor := ⟨text, 0, 0, 0, text.length, rfl⟩

/-- One character further. A carriage return ends a line only if no line feed follows, and a byte
order mark takes no column. -/
def step : Cursor → Cursor
  | ⟨[], index, line, column, left, left_eq⟩ => ⟨[], index, line, column, left, left_eq⟩
  | ⟨c :: rest, index, line, column, left, left_eq⟩ =>
    let (line, column) :=
      if isBreak c && !(c == '\r' && rest.head? == some '\n') then (line + 1, 0)
      else if c == '\uFEFF' then (line, column)
      else (line, column + 1)
    ⟨rest, index + 1, line, column, left - 1, by simp [left_eq]⟩

/-- A number of characters further. -/
def skip : Nat → Cursor → Cursor
  | 0, cursor => cursor
  | n + 1, cursor => skip n cursor.step

/-- The leading run of a class of characters, and the position behind it. -/
def span (p : Char → Bool) (cursor : Cursor) : List Char × Cursor :=
  let run := cursor.rest.takeWhile p
  (run, cursor.skip run.length)

/-- The position behind the leading run of a class of characters. -/
def pass (p : Char → Bool) (cursor : Cursor) : Cursor :=
  (cursor.span p).2

/-- Whether the next character is in a class. -/
def sees (p : Char → Bool) (cursor : Cursor) : Bool :=
  cursor.rest.head?.any p

/-- Whether the next character is in a class or there is none. -/
def seesOrEnds (p : Char → Bool) (cursor : Cursor) : Bool :=
  startsOrEnds p cursor.rest

/-- The line end at a position, as it counts for a scalar, and the position behind it. A separator
of lines or paragraphs counts as itself, and every other line end as a line feed. -/
def lineEnd? (cursor : Cursor) : Option (Char × Cursor) :=
  match cursor.rest with
  | '\r' :: '\n' :: _ => some ('\n', cursor.skip 2)
  | c :: _ =>
    if c == '\r' || c == '\n' || c == '\u0085' then some ('\n', cursor.step)
    else if c == '\u2028' || c == '\u2029' then some (c, cursor.step)
    else none
  | [] => none

/-- Whether a line of three hyphens or three points, which separates documents, starts here. -/
def atSeparator (cursor : Cursor) : Bool :=
  match cursor.rest with
  | '-' :: '-' :: '-' :: rest => startsOrEnds isGap rest
  | '.' :: '.' :: '.' :: rest => startsOrEnds isGap rest
  | _ => false

/-- The position behind a comment, if one starts here. -/
def passComment (cursor : Cursor) : Cursor :=
  if cursor.sees (· == '#') then cursor.pass (!isBreak ·) else cursor

@[simp] theorem skip_zero (cursor : Cursor) : cursor.skip 0 = cursor := rfl

end Cursor

end Interview.Yaml
