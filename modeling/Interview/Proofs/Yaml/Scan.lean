import Interview.Proofs.Yaml.Cursor
import Interview.Yaml.Token.Lexer

/-!
# Reading written scalars and gaps

A text between double quotes that needs no escapes, a plain word of letters, digits, points, hyphens
and underscores, and a line end with what indents the next line: the lemmas here say of each of these
pieces where the lexer stands behind it, whatever the text goes on with.
-/

namespace Interview.Yaml

variable {c d : Char} {word rest content : List Char} {index line column fuel empty indent : Nat}

/-! ## Classes of characters -/

/-- The space and the characters of the basic alphabet that can be seen. -/
def isVisible (c : Char) : Bool :=
  0x20 ≤ c.toNat && c.toNat ≤ 0x7E

/-- Characters that stand for themselves between double quotes: the visible ones but for the quote
and the backslash. -/
def isQuotable (c : Char) : Bool :=
  isVisible c && c != '"' && c != '\\'

/-- Characters of plain words: those of names, and points. -/
def isWordChar (c : Char) : Bool :=
  isNameChar c || c == '.'

/-- A character in a class is none of those outside it. -/
theorem ne_of_class {p : Char → Bool} (inside : p c = true) (outside : p d = false) : c ≠ d := by
  rintro rfl
  rw [inside] at outside
  cases outside

theorem isAdmitted_of_isVisible (visible : isVisible c = true) : isAdmitted c = true := by
  simp only [isVisible, Bool.and_eq_true, decide_eq_true_eq] at visible
  simp [isAdmitted, visible]

theorem isVisible_of_isQuotable (quotable : isQuotable c = true) : isVisible c = true := by
  simp only [isQuotable, Bool.and_eq_true] at quotable
  exact quotable.1.1

/-- Of the visible characters only the space is blank. -/
theorem isBlank_of_isVisible (visible : isVisible c = true) (other : c ≠ ' ') :
    Text.isBlank c = false := by
  have bounds : 0x20 ≤ c.toNat ∧ c.toNat ≤ 0x7E := by simpa [isVisible] using visible
  have code : c.toNat ≠ 32 := fun same => other (by rw [← Char.ofNat_toNat c, same])
  simp only [Text.isBlank, Text.isSpace, Bool.or_eq_false_iff, Bool.and_eq_false_iff,
    decide_eq_false_iff_not, beq_eq_false_iff_ne]
  omega

theorem isBreak_of_isQuotable (quotable : isQuotable c = true) : isBreak c = false := by
  have other {d : Char} (outside : isQuotable d = false) : c ≠ d := ne_of_class quotable outside
  simp [isBreak, other (d := '\n') rfl, other (d := '\r') rfl, other (d := '\u0085') rfl,
    other (d := '\u2028') rfl, other (d := '\u2029') rfl]

theorem isInline_of_isQuotable (quotable : isQuotable c = true) : isInline c = true := by
  simp [isInline, isBreak_of_isQuotable quotable, ne_of_class quotable (d := '\uFEFF') rfl]

theorem toNat_of_isNameChar (name : isNameChar c = true) :
    (48 ≤ c.toNat ∧ c.toNat ≤ 57) ∨ (65 ≤ c.toNat ∧ c.toNat ≤ 90) ∨
      (97 ≤ c.toNat ∧ c.toNat ≤ 122) ∨ c = '-' ∨ c = '_' := by
  simpa [isNameChar, Char.le_def, UInt32.le_iff_toNat_le, or_assoc] using name

theorem isQuotable_of_isWordChar (char : isWordChar c = true) : isQuotable c = true := by
  have plain : c ≠ '"' ∧ c ≠ '\\' := ⟨ne_of_class char rfl, ne_of_class char rfl⟩
  have bounds : 0x20 ≤ c.toNat ∧ c.toNat ≤ 0x7E := by
    rcases Bool.or_eq_true _ _ |>.mp char with name | point
    · rcases toNat_of_isNameChar name with digit | capital | small | rfl | rfl
      · omega
      · omega
      · omega
      · decide
      · decide
    · rw [beq_iff_eq.mp point]
      decide
  simp [isQuotable, isVisible, bounds, plain]

theorem isVisible_of_isWordChar (char : isWordChar c = true) : isVisible c = true :=
  isVisible_of_isQuotable (isQuotable_of_isWordChar char)

theorem isBlank_of_isWordChar (char : isWordChar c = true) : Text.isBlank c = false :=
  isBlank_of_isVisible (isVisible_of_isWordChar char) (ne_of_class char rfl)

theorem isInline_of_isWordChar (char : isWordChar c = true) : isInline c = true :=
  isInline_of_isQuotable (isQuotable_of_isWordChar char)

theorem isGap_of_isWordChar (char : isWordChar c = true) : isGap c = false := by
  simp [isGap, isBreak_of_isQuotable (isQuotable_of_isWordChar char),
    ne_of_class char (d := ' ') rfl, ne_of_class char (d := '\t') rfl]

/-- A text that the lexer goes on with at once: it has ended, or no gap, comment or byte order mark
comes first. -/
def startsHere (text : List Char) : Bool :=
  startsOrEnds (fun c => !isGap c && c != '#' && c != '\uFEFF') text

theorem startsOrEnds_imp {p q : Char → Bool} {text : List Char} (implies : ∀ c, p c = true → q c = true)
    (starts : startsOrEnds p text = true) : startsOrEnds q text = true := by
  cases text with
  | nil => rfl
  | cons c rest => exact implies c starts

/-! ## Scalars between quotes -/

section Quoted

open Cursor

/-- A character that is no space is read by itself. -/
theorem quotedFrom_cons (quotable : isQuotable c = true) (visible : c ≠ ' ') :
    quotedFrom '"' (fuel + 1) (place (c :: rest) index line column) =
      (quotedFrom '"' fuel (place rest (index + 1) line (column + 1))).map
        (Prod.map (c :: ·) id) := by
  have gap : isGap c = false := by
    simp [isGap, visible, isBreak_of_isQuotable quotable, ne_of_class quotable (d := '\t') rfl]
  have plain : c ≠ '"' ∧ c ≠ '\\' := ⟨ne_of_class quotable rfl, ne_of_class quotable rfl⟩
  rw [quotedFrom]
  simp only [rest_place, gap, plain, step_place (isInline_of_isQuotable quotable), beq_iff_eq,
    Bool.and_eq_true, Bool.false_eq_true, if_false, and_false]
  cases quotedFrom '"' fuel (place rest (index + 1) line (column + 1)) <;> rfl

/-- Spaces are passed together, if nothing follows that belongs to the gap. -/
theorem quotedFrom_spaces (count : Nat) (starts : startsOrEnds (!isGap ·) rest = true) :
    quotedFrom '"' (fuel + 1) (place (List.replicate (count + 1) ' ' ++ rest) index line column) =
      (quotedFrom '"' fuel (place rest (index + (count + 1)) line (column + (count + 1)))).map
        (Prod.map (List.replicate (count + 1) ' ' ++ ·) id) := by
  have passed :
      (place (List.replicate (count + 1) ' ' ++ rest) index line column).span isSpaceOrTab =
        (List.replicate (count + 1) ' ',
          place rest (index + (List.replicate (count + 1) ' ').length) line
            (column + (List.replicate (count + 1) ' ').length)) :=
    span_place (by simp [isSpaceOrTab]) (by simp [isInline, isBreak])
      (startsOrEnds_imp (by simp +contextual [isGap, isSpaceOrTab]) starts)
  have within : (place rest (index + (count + 1)) line (column + (count + 1))).lineEnd? = none :=
    lineEnd?_place (startsOrEnds_imp (by simp +contextual [isGap]) starts)
  rw [List.length_replicate] at passed
  rw [quotedFrom, passed]
  simp only [rest_place, List.replicate_succ, List.cons_append, isGap, beq_self_eq_true,
    Bool.true_or, if_true, within]
  cases quotedFrom '"' fuel (place rest (index + (count + 1)) line (column + (count + 1))) <;> rfl

/-- The spaces at the start of a text are told from what is behind them. -/
theorem exists_spaces_append (content : List Char) :
    ∃ count rest, content = List.replicate count ' ' ++ rest ∧ rest.head? ≠ some ' ' := by
  induction content with
  | nil => exact ⟨0, [], rfl, by simp⟩
  | cons c content ih =>
      by_cases space : c = ' '
      · obtain ⟨count, rest, rfl, ends⟩ := ih
        exact ⟨count + 1, rest, by rw [space, List.replicate_succ, List.cons_append], ends⟩
      · exact ⟨0, c :: content, rfl, by simpa using space⟩

/-- A text that needs no escapes is read up to the quote behind it. -/
theorem quotedFrom_place (quotable : ∀ c ∈ content, isQuotable c = true)
    (enough : content.length < fuel) :
    quotedFrom '"' fuel (place (content ++ '"' :: rest) index line column) =
      .ok (content, place rest (index + (content.length + 1)) line
        (column + (content.length + 1))) := by
  induction fuel generalizing content index column with
  | zero => omega
  | succ fuel ih =>
      obtain ⟨count, others, rfl, ends⟩ := exists_spaces_append content
      obtain ⟨-, visible⟩ := List.forall_mem_append.mp quotable
      rw [List.length_append, List.length_replicate] at enough ⊢
      cases count with
      | succ count =>
          have starts : startsOrEnds (!isGap ·) (others ++ '"' :: rest) = true := by
            cases others with
            | nil => rfl
            | cons c others =>
                have here := visible c List.mem_cons_self
                have other : c ≠ ' ' := by simpa using ends
                simp [startsOrEnds, isGap, other, isBreak_of_isQuotable here,
                  ne_of_class here (d := '\t') rfl]
          rw [List.append_assoc, quotedFrom_spaces count starts, ih visible (by omega)]
          simp [Except.map, Nat.add_assoc]
      | zero =>
          cases others with
          | nil =>
              have passed : (place ('"' :: rest) index line column).step =
                  place rest (index + 1) line (column + 1) := step_place rfl
              simp [quotedFrom, isGap, isBreak, passed]
          | cons c others =>
              obtain ⟨here, there⟩ := List.forall_mem_cons.mp visible
              have other : c ≠ ' ' := by simpa using ends
              rw [List.replicate_zero, List.nil_append, List.cons_append, quotedFrom_cons here other,
                ih there (by simpa using enough)]
              simp [Except.map, Nat.add_assoc, Nat.add_comm 1]

theorem quotedScalar_place (quotable : ∀ c ∈ content, isQuotable c = true) :
    quotedScalar '"' (place ('"' :: (content ++ '"' :: rest)) index line column) =
      .ok (content, place rest (index + (content.length + 2)) line
        (column + (content.length + 2))) := by
  rw [quotedScalar, step_place rfl, quotedFrom_place quotable (by simp; omega)]
  simp only [Nat.add_assoc, Nat.add_comm 1]

end Quoted

/-! ## Plain words -/

theorem plainWord_append (inFlow : Bool) (chars : ∀ c ∈ word, isWordChar c = true) :
    plainWord inFlow (word ++ rest) = word ++ plainWord inFlow rest := by
  induction word with
  | nil => rfl
  | cons c word ih =>
      obtain ⟨here, there⟩ := List.forall_mem_cons.mp chars
      have other {d : Char} (outside : isWordChar d = false) : c ≠ d := ne_of_class here outside
      simp only [List.cons_append, plainWord, isGap_of_isWordChar here, isFlowMark,
        beq_eq_false_iff_ne.mpr (other (d := ':') rfl), beq_eq_false_iff_ne.mpr (other (d := ',') rfl),
        beq_eq_false_iff_ne.mpr (other (d := '[') rfl), beq_eq_false_iff_ne.mpr (other (d := ']') rfl),
        beq_eq_false_iff_ne.mpr (other (d := '\x7b') rfl),
        beq_eq_false_iff_ne.mpr (other (d := '\x7d') rfl),
        beq_eq_false_iff_ne.mpr (other (d := '?') rfl), ih there]
      simp

/-! ## Gaps -/

/-- Whether line ends and the indentation of a line stand before a text. -/
theorem atSeparator_gap
    (separates : (Cursor.place (List.replicate empty '\n' ++ (List.replicate indent ' ' ++ rest))
      index line column).atSeparator = true) : empty = 0 ∧ indent = 0 := by
  cases empty with
  | succ empty => cases separates
  | zero =>
      cases indent with
      | succ indent => cases separates
      | zero => exact ⟨rfl, rfl⟩

section Gaps

open Cursor

theorem passComment_place (starts : startsHere rest = true) :
    (place rest index line column).passComment = place rest index line column := by
  cases rest with
  | nil => rfl
  | cons c rest =>
      simp only [startsHere, startsOrEnds, Bool.and_eq_true, bne_iff_ne] at starts
      simp [passComment, sees, starts]

theorem lineEnd?_of_startsHere (starts : startsHere rest = true) :
    (place rest index line column).lineEnd? = none :=
  lineEnd?_place (startsOrEnds_imp (by simp +contextual [isGap]) starts)

theorem nextPlace_spaces (starts : startsHere rest = true) :
    Lexer.nextPlace (fuel + 1) (place (List.replicate indent ' ' ++ rest) index line column) =
      (false, place rest (index + indent) line (column + indent)) := by
  have passed : (place (List.replicate indent ' ' ++ rest) index line column).pass (· == ' ') =
      place rest (index + indent) line (column + indent) := by
    rw [Cursor.pass, span_place (by simp) (by simp [isInline, isBreak])
      (startsOrEnds_imp (by simp +contextual [isGap]) starts), List.length_replicate]
  simp only [Lexer.nextPlace, passed, passComment_place starts, lineEnd?_of_startsHere starts]

/-- The lexer passes over empty lines and the indentation of the line behind them. -/
theorem exists_nextPlace_feeds (index line : Nat) (starts : startsHere rest = true)
    (enough : empty < fuel) :
    ∃ index' line', (Lexer.nextPlace fuel
      (place (List.replicate empty '\n' ++ (List.replicate indent ' ' ++ rest)) index line 0)).2 =
        place rest index' line' indent := by
  obtain ⟨fuel, rfl⟩ := Nat.exists_eq_add_one_of_ne_zero (Nat.ne_zero_of_lt enough)
  induction empty generalizing fuel index line with
  | zero => exact ⟨index + indent, line, by simp [nextPlace_spaces starts]⟩
  | succ empty ih =>
      obtain ⟨fuel, rfl⟩ := Nat.exists_eq_add_one_of_ne_zero (n := fuel) (by omega)
      exact ih (index + 1) (line + 1) fuel (by omega)

theorem exists_nextPlace_lineGap (index line column : Nat) (starts : startsHere rest = true)
    (enough : empty + 1 < fuel) :
    ∃ index' line', Lexer.nextPlace fuel (place (lineGap empty indent rest) index line column) =
      (true, place rest index' line' indent) := by
  obtain ⟨fuel, rfl⟩ := Nat.exists_eq_add_one_of_ne_zero (Nat.ne_zero_of_lt enough)
  obtain ⟨index', line', passed⟩ :=
    exists_nextPlace_feeds (index + 1) (line + 1) starts (Nat.lt_of_succ_lt_succ enough)
  exact ⟨index', line', Prod.ext rfl passed⟩

theorem plainLineEnds_spaces (starts : startsHere rest = true) (enough : indent < fuel) :
    plainLineEnds fuel (place (List.replicate indent ' ' ++ rest) index line column) =
      (some [], place rest (index + indent) line (column + indent)) := by
  induction indent generalizing fuel index column with
  | zero =>
      obtain ⟨fuel, rfl⟩ := Nat.exists_eq_add_one_of_ne_zero (Nat.ne_zero_of_lt enough)
      have space : (place rest index line column).sees (· == ' ') = false := by
        cases rest with
        | nil => rfl
        | cons c rest =>
            simp only [startsHere, startsOrEnds, isGap, Bool.and_eq_true, Bool.not_eq_true',
              Bool.or_eq_false_iff] at starts
            simp [sees, starts]
      simp [plainLineEnds, space, lineEnd?_of_startsHere starts]
  | succ indent ih =>
      obtain ⟨fuel, rfl⟩ := Nat.exists_eq_add_one_of_ne_zero (Nat.ne_zero_of_lt enough)
      have passed : (place (' ' :: (List.replicate indent ' ' ++ rest)) index line column).step =
          place (List.replicate indent ' ' ++ rest) (index + 1) line (column + 1) := step_place rfl
      rw [List.replicate_succ, List.cons_append, plainLineEnds, passed,
        ih (Nat.lt_of_succ_lt_succ enough)]
      simp [sees, Nat.add_assoc, Nat.add_comm 1]

theorem exists_plainLineEnds_feeds (index line : Nat) (starts : startsHere rest = true)
    (enough : empty + indent < fuel) :
    ∃ index' line', (plainLineEnds fuel
      (place (List.replicate empty '\n' ++ (List.replicate indent ' ' ++ rest)) index line 0)).2 =
        place rest index' line' indent := by
  induction empty generalizing fuel index line with
  | zero =>
      refine ⟨index + indent, line, ?_⟩
      simp [plainLineEnds_spaces starts (Nat.zero_add indent ▸ enough)]
  | succ empty ih =>
      obtain ⟨fuel, rfl⟩ := Nat.exists_eq_add_one_of_ne_zero (Nat.ne_zero_of_lt enough)
      rw [List.replicate_succ, List.cons_append, plainLineEnds, lineEnd?_place_feed]
      simp only [sees, rest_place, List.head?_cons, Option.any_some]
      by_cases separates : (place (List.replicate empty '\n' ++ (List.replicate indent ' ' ++ rest))
          (index + 1) (line + 1) 0).atSeparator = true
      · obtain ⟨rfl, rfl⟩ := atSeparator_gap separates
        exact ⟨index + 1, line + 1, by rw [if_pos separates]; rfl⟩
      · simpa [separates] using ih (index + 1) (line + 1) (by omega)

/-- Behind the last word of a line, the gap goes on to the next line that is not empty. -/
theorem exists_plainGap_lineGap (empty indent index line column : Nat)
    (starts : startsHere rest = true) :
    ∃ text index' line', plainGap (place (lineGap empty indent rest) index line column) =
      ⟨text, place rest index' line' indent, true⟩ := by
  have spaces : (place (lineGap empty indent rest) index line column).span (· == ' ') =
      ([], place (lineGap empty indent rest) index line column) := rfl
  rw [plainGap, spaces, lineGap]
  simp only [lineEnd?_place_feed]
  split
  next separates =>
      obtain ⟨rfl, rfl⟩ := atSeparator_gap separates
      exact ⟨none, index + 1, line + 1, rfl⟩
  next =>
      have enough : empty + indent <
          (List.replicate empty '\n' ++ (List.replicate indent ' ' ++ rest)).length + 1 := by
        simp only [List.length_append, List.length_replicate]
        omega
      obtain ⟨index', line', passed⟩ :=
        exists_plainLineEnds_feeds (index + 1) (line + 1) starts enough
      exact ⟨_, index', line', by rw [left_place, passed]⟩

theorem plainGap_place (ends : startsOrEnds (!isGap ·) rest = true) :
    plainGap (place rest index line column) = ⟨none, place rest index line column, false⟩ := by
  have spaces : (place ([] ++ rest) index line column).span (· == ' ') =
      ([], place rest (index + ([] : List Char).length) line (column + ([] : List Char).length)) :=
    span_place (by simp) (by simp) (startsOrEnds_imp (by simp +contextual [isGap]) ends)
  have within : (place rest index line column).lineEnd? = none :=
    lineEnd?_place (startsOrEnds_imp (by simp +contextual [isGap]) ends)
  simp only [List.nil_append, List.length_nil, Nat.add_zero] at spaces
  simp [plainGap, spaces, within]

/-- A plain word at the end of a line is a scalar unless the next line is part of it. -/
theorem exists_plainScalar_lineGap {inFlow : Bool} {least : Nat} (empty indent index line column : Nat)
    (chars : ∀ c ∈ word, isWordChar c = true) (starts : startsHere rest = true)
    (ends : rest = [] ∨ inFlow = false ∧ indent < least) :
    ∃ index' line', ∀ fuel, plainScalar inFlow least (fuel + 1)
      (place (word ++ lineGap empty indent rest) index line column) =
        (word, place rest index' line' indent, true) := by
  have read : plainWord inFlow (word ++ lineGap empty indent rest) = word := by
    rw [plainWord_append inFlow chars]
    simp [lineGap, plainWord, isGap, isBreak]
  obtain ⟨text, index', line', gap⟩ := exists_plainGap_lineGap empty indent (index + word.length) line
    (column + word.length) starts
  refine ⟨index', line', fun fuel => ?_⟩
  rw [plainScalar]
  simp only [rest_place, read, skip_place fun c member => isInline_of_isWordChar (chars c member),
    gap]
  cases text with
  | none => rfl
  | some between =>
      have stops : ((place rest index' line' indent).sees (· == '#') ||
          (!inFlow && decide (indent < least)) || (plainWord inFlow rest).isEmpty) = true := by
        rcases ends with rfl | ⟨rfl, deeper⟩
        · simp [plainWord]
        · simp [deeper]
      exact if_pos stops

/-- A plain word that another mark follows at once is a scalar. -/
theorem plainScalar_place {inFlow : Bool} {least : Nat}
    (chars : ∀ c ∈ word, isWordChar c = true) (stops : plainWord inFlow rest = [])
    (ends : startsOrEnds (!isGap ·) rest = true) :
    plainScalar inFlow least (fuel + 1) (place (word ++ rest) index line column) =
      (word, place rest (index + word.length) line (column + word.length), false) := by
  have read : plainWord inFlow (word ++ rest) = word := by
    rw [plainWord_append inFlow chars, stops, List.append_nil]
  rw [plainScalar]
  simp only [rest_place, read, skip_place fun c member => isInline_of_isWordChar (chars c member),
    plainGap_place ends]

end Gaps

end Interview.Yaml
