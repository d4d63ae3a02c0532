import Interview.Yaml.Token.Scalar

/-!
# Going through a written text

The lexer passes over words, spaces and line ends. A cursor is known by what is left of the text and
by its coordinates, and each lemma here says where a cursor stands behind a piece of known form.
-/

namespace Interview.Yaml

variable {c : Char} {word rest : List Char} {index line column : Nat} {p : Char → Bool}

/-- Characters that take one column: all but line ends and the byte order mark. -/
def isInline (c : Char) : Bool :=
  !isBreak c && c != '\uFEFF'

/-- Line ends, as many empty lines as `empty`, and the spaces that indent the next line. -/
def lineGap (empty indent : Nat) (rest : List Char) : List Char :=
  '\n' :: (List.replicate empty '\n' ++ (List.replicate indent ' ' ++ rest))

namespace Cursor

/-- The position with the given coordinates before a text. -/
def place (text : List Char) (index line column : Nat) : Cursor :=
  { ofText text with index, line, column }

@[simp] theorem rest_place : (place rest index line column).rest = rest := rfl
@[simp] theorem index_place : (place rest index line column).index = index := rfl
@[simp] theorem line_place : (place rest index line column).line = line := rfl
@[simp] theorem column_place : (place rest index line column).column = column := rfl
@[simp] theorem left_place : (place rest index line column).left = rest.length := rfl

theorem step_place (inline : isInline c = true) :
    (place (c :: rest) index line column).step = place rest (index + 1) line (column + 1) := by
  simp only [isInline, Bool.and_eq_true, Bool.not_eq_true', bne_iff_ne] at inline
  simp [place, ofText, step, inline]

theorem skip_place (inline : ∀ c ∈ word, isInline c = true) :
    (place (word ++ rest) index line column).skip word.length =
      place rest (index + word.length) line (column + word.length) := by
  induction word generalizing index column with
  | nil => rfl
  | cons c word ih =>
      obtain ⟨here, there⟩ := List.forall_mem_cons.mp inline
      rw [List.cons_append, List.length_cons, skip, step_place here, ih there, Nat.add_right_comm,
        Nat.add_right_comm column, Nat.add_assoc, Nat.add_assoc]

/-- A run of a class ends where the text does or another character comes. -/
theorem span_place (inside : ∀ c ∈ word, p c = true) (inline : ∀ c ∈ word, isInline c = true)
    (ends : startsOrEnds (!p ·) rest = true) :
    (place (word ++ rest) index line column).span p =
      (word, place rest (index + word.length) line (column + word.length)) := by
  have run : (word ++ rest).takeWhile p = word := by
    rw [List.takeWhile_append_of_pos inside]
    cases rest with
    | nil => simp
    | cons c rest => simp_all [startsOrEnds]
  simp only [span, rest_place, run, skip_place inline]

theorem lineEnd?_place_feed :
    (place ('\n' :: rest) index line column).lineEnd? =
      some ('\n', place rest (index + 1) (line + 1) 0) :=
  rfl

theorem lineEnd?_place (none : startsOrEnds (!isBreak ·) rest = true) :
    (place rest index line column).lineEnd? = .none := by
  cases rest with
  | nil => rfl
  | cons c rest =>
      simp only [startsOrEnds, isBreak, Bool.not_eq_true', Bool.or_eq_false_iff,
        beq_eq_false_iff_ne] at none
      unfold lineEnd?
      split
      next split => simp_all
      next split => simp_all
      next split => cases split

end Cursor

end Interview.Yaml
