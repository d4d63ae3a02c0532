import Interview.Proofs.Yaml.Scan

/-!
# Stages of reading a text

What the lexer reads next depends on what is left of the text, on the column where it stands, and on
the collections that are open. The number of the line and of the character matter only to the place
of a possible key. A `Stage` is what the lexer knows without them, and `Stage.Leads` says that the
lexer comes from one stage to another.
-/

namespace Interview.Yaml

/-! ## Going from token to token -/

namespace Lexer

/-- The lexer comes from one state to another by reading tokens, each of which takes some text. -/
inductive Reaches : Lexer → Lexer → Prop where
  | refl (s : Lexer) : Reaches s s
  | next {s t u : Lexer} (reads : s.next = .ok (false, t))
      (shorter : t.cursor.left < s.cursor.left) (later : Reaches t u) : Reaches s u

theorem Reaches.trans {s t u : Lexer} (before : Reaches s t) (later : Reaches t u) :
    Reaches s u := by
  induction before with
  | refl => exact later
  | next reads shorter _ ih => exact .next reads shorter (ih later)

/-- What the lexer reads from a state that it comes to is what it reads from the start. -/
theorem Reaches.run_eq {s t : Lexer} {all : Tokens} (reaches : Reaches s t)
    (ends : ∀ fuel, t.cursor.left < fuel → t.run fuel = all) :
    ∀ fuel, s.cursor.left < fuel → s.run fuel = all := by
  induction reaches with
  | refl => exact ends
  | next reads shorter _ ih =>
      intro fuel enough
      obtain ⟨fuel, rfl⟩ := Nat.exists_eq_add_one_of_ne_zero (Nat.ne_zero_of_lt enough)
      rw [run, reads]
      exact ih ends fuel (by omega)

end Lexer

/-! ## Stages -/

/-- What the lexer knows in front of a token, without its line and number: what is left of the text
and its column, the tokens so far in their order, the columns of the open block collections,
whether a flow list is open, and whether a key may come. -/
structure Stage where
  text : List Char
  column : Nat
  tokens : List Token
  indents : List Nat
  inList : Bool
  keyAllowed : Bool

namespace Stage

/-- The state of the lexer at a stage. -/
def lexer (stage : Stage) (index line : Nat) (key : Option PendingKey) : Lexer where
  cursor := .place stage.text index line stage.column
  tokens := stage.tokens.reverse
  count := stage.tokens.length
  indents := stage.indents
  key := key
  outer := if stage.inList then [none] else []
  keyAllowed := stage.keyAllowed

/-- A possible key that can be given up. Outside flow lists there is none. -/
def CanDrop (inList : Bool) (key : Option PendingKey) : Prop :=
  key.any (·.required) = false ∧ (inList = false → key = none)

theorem canDrop_none {inList : Bool} : CanDrop inList none :=
  ⟨rfl, fun _ => rfl⟩

end Stage

/-- The lexer stands at a stage, perhaps with a gap before it. At the end of the text it does not
matter in which column that is. -/
def Lexer.IsAt (s : Lexer) (stage : Stage) : Prop :=
  stage.text.length ≤ s.cursor.left ∧
    ∃ index line key column keyAllowed, Stage.CanDrop stage.inList key ∧
      (stage.text ≠ [] → column = stage.column ∧ keyAllowed = stage.keyAllowed) ∧
      s.passGap = { stage with column, keyAllowed }.lexer index line key

/-- The lexer comes from wherever it stands at one stage to another. -/
def Stage.Leads (before after : Stage) : Prop :=
  ∀ s : Lexer, s.IsAt before → ∃ t, s.Reaches t ∧ t.IsAt after

namespace Stage

variable {before middle after : Stage}

theorem Leads.refl (stage : Stage) : Leads stage stage :=
  fun s standing => ⟨s, .refl s, standing⟩

theorem Leads.trans (first : Leads before middle) (second : Leads middle after) :
    Leads before after := by
  intro s standing
  obtain ⟨t, reaches, standing⟩ := first s standing
  obtain ⟨u, goesOn, standing⟩ := second t standing
  exact ⟨u, reaches.trans goesOn, standing⟩

instance : Trans Leads Leads Leads := ⟨Leads.trans⟩

end Stage

namespace Lexer

variable {s : Lexer} {c : Char} {rest tail text : List Char} {tokens : List Token}
variable {indents : List Nat} {index line column indent count empty : Nat} {inList keyAllowed : Bool}
variable {key : Option PendingKey} {outer : List (Option PendingKey)}

/-! ## Passing gaps -/

/-- The lexer with a position of its own and without a byte order mark passes the gap there. -/
theorem passGap_eq {crossed : Bool} {after : Cursor} (mark : text.head? ≠ some '\uFEFF')
    (passed : nextPlace (text.length + 1) (.place text index line column) = (crossed, after)) :
    passGap ⟨.place text index line column, tokens, count, indents, key, outer, keyAllowed⟩ =
      ⟨after, tokens, count, indents, key, outer, keyAllowed || (crossed && outer.isEmpty)⟩ := by
  have unmarked : (Cursor.place text index line column).sees (· == '\uFEFF') = false := by
    cases text with
    | nil => rfl
    | cons c text => simpa [Cursor.sees] using mark
  simp [passGap, unmarked, passed, inFlow]

theorem head?_ne_mark (starts : startsHere rest = true) : rest.head? ≠ some '\uFEFF' := by
  cases rest with
  | nil => simp
  | cons c rest => simp_all [startsHere, startsOrEnds]

/-- Spaces between tokens of one line are passed. -/
theorem passGap_spaces (indent : Nat) (starts : startsHere rest = true) :
    passGap ⟨.place (List.replicate indent ' ' ++ rest) index line column, tokens, count, indents,
        key, outer, keyAllowed⟩ =
      ⟨.place rest (index + indent) line (column + indent), tokens, count, indents, key, outer,
        keyAllowed⟩ := by
  have mark : (List.replicate indent ' ' ++ rest).head? ≠ some '\uFEFF' := by
    cases indent with
    | zero => exact head?_ne_mark starts
    | succ indent => simp [List.replicate_succ]
  rw [passGap_eq mark (nextPlace_spaces starts)]
  simp

/-- A line end and the indentation of the next line are passed, and a key may follow. -/
theorem exists_passGap_lineGap (starts : startsHere rest = true) :
    ∃ index' line', passGap ⟨.place (lineGap empty indent rest) index line column, tokens, count,
        indents, key, [], keyAllowed⟩ =
      ⟨.place rest index' line' indent, tokens, count, indents, key, [], true⟩ := by
  have enough : empty + 1 < (lineGap empty indent rest).length + 1 := by
    simp only [lineGap, List.length_cons, List.length_append, List.length_replicate]
    omega
  obtain ⟨index', line', passed⟩ := exists_nextPlace_lineGap index line column starts enough
  exact ⟨index', line', by rw [passGap_eq (by simp [lineGap]) passed]; simp⟩

end Lexer

/-- A line is over: the text ends, or a line end stands before the rest of the text, which is
indented. -/
def EndsLine (tail : List Char) (indent : Nat) (rest : List Char) : Prop :=
  startsHere rest = true ∧
    ((tail = [] ∧ rest = []) ∨ ∃ empty, tail = lineGap empty indent rest)

namespace Stage

variable {c : Char} {rest tail text content word : List Char} {tokens : List Token}
variable {indents : List Nat} {index line column indent : Nat} {inList keyAllowed : Bool}
variable {key : Option PendingKey}

/-! ## Standing at a stage -/

/-- Behind some spaces the lexer stands at the stage of the text that follows. -/
theorem isAt_spaces (index line spaces : Nat) (starts : startsHere rest = true)
    (drops : CanDrop inList key) :
    (lexer ⟨List.replicate spaces ' ' ++ rest, column, tokens, indents, inList, keyAllowed⟩
      index line key).IsAt ⟨rest, column + spaces, tokens, indents, inList, keyAllowed⟩ := by
  refine ⟨by simp [lexer], index + spaces, line, key, column + spaces, keyAllowed, drops,
    fun _ => ⟨rfl, rfl⟩, ?_⟩
  exact Lexer.passGap_spaces spaces starts

theorem isAt_here (index line : Nat) (starts : startsHere rest = true)
    (drops : CanDrop inList key) :
    (lexer ⟨rest, column, tokens, indents, inList, keyAllowed⟩ index line key).IsAt
      ⟨rest, column, tokens, indents, inList, keyAllowed⟩ :=
  isAt_spaces index line 0 starts drops

/-- Where a line is over, the lexer stands at the stage of the next line. -/
theorem isAt_endsLine (index line column : Nat) (keyAllowed : Bool)
    (ends : EndsLine tail indent rest) :
    (lexer ⟨tail, column, tokens, indents, false, keyAllowed⟩ index line none).IsAt
      ⟨rest, indent, tokens, indents, false, true⟩ := by
  obtain ⟨starts, ⟨rfl, rfl⟩ | ⟨empty, rfl⟩⟩ := ends
  · exact ⟨Nat.le_refl 0, index, line, none, column, keyAllowed, canDrop_none,
      fun more => absurd rfl more, Lexer.passGap_spaces 0 starts⟩
  · obtain ⟨index', line', passed⟩ : ∃ index' line', Lexer.passGap
        (lexer ⟨lineGap empty indent rest, column, tokens, indents, false, keyAllowed⟩ index line
          none) = lexer ⟨rest, indent, tokens, indents, false, true⟩ index' line' none :=
      Lexer.exists_passGap_lineGap starts
    refine ⟨?_, index', line', none, indent, true, canDrop_none, fun _ => ⟨rfl, rfl⟩, passed⟩
    simp only [lexer, Cursor.left_place, lineGap, List.length_cons, List.length_append]
    omega

end Stage

end Interview.Yaml
