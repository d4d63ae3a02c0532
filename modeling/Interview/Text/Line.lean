/-!
# Lines

A document is read as a list of lines that line feeds separate. `lines` and `unlines` go back and
forth between a text and its lines; a text always has at least one line. `ofPlatform` and
`dropReturns` bring other line ends to line feeds.
-/

namespace Interview.Text

/-- The lines of a text: what stands before, between and after its line feeds. -/
def lines : List Char → List (List Char)
  | [] => [[]]
  | c :: rest =>
    if c == '\n' then [] :: lines rest
    else
      match lines rest with
      | [] => [[c]]
      | first :: others => (c :: first) :: others

/-- The text whose lines are given, joined by line feeds. -/
def unlines : List (List Char) → List Char
  | [] => []
  | [last] => last
  | first :: second :: others => first ++ '\n' :: unlines (second :: others)

/-- Each carriage return that stands before a line feed is dropped. -/
def dropReturns : List Char → List Char
  | '\r' :: '\n' :: rest => '\n' :: dropReturns rest
  | c :: rest => c :: dropReturns rest
  | [] => []

/-- Line ends of every platform become line feeds: a carriage return with its line feed, and a
carriage return alone. -/
def ofPlatform : List Char → List Char
  | '\r' :: '\n' :: rest => '\n' :: ofPlatform rest
  | '\r' :: rest => '\n' :: ofPlatform rest
  | c :: rest => c :: ofPlatform rest
  | [] => []

theorem lines_ne_nil (text : List Char) : lines text ≠ [] := by
  induction text with
  | nil => simp [lines]
  | cons c rest ih =>
    unfold lines
    split
    · simp
    · split <;> simp

@[simp] theorem unlines_lines (text : List Char) : unlines (lines text) = text := by
  induction text with
  | nil => rfl
  | cons c rest ih =>
    unfold lines
    split
    · rename_i isBreak
      have isBreak : c = '\n' := by simpa using isBreak
      cases split : lines rest with
      | nil => exact absurd split (lines_ne_nil rest)
      | cons first others =>
        rw [split] at ih
        simp [unlines, ih, isBreak]
    · cases split : lines rest with
      | nil => exact absurd split (lines_ne_nil rest)
      | cons first others =>
        rw [split] at ih
        cases others with
        | nil => simpa [unlines] using ih
        | cons second others => simpa [unlines] using ih

end Interview.Text
