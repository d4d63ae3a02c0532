import Interview.Proofs.Text.Line
import Interview.Proofs.Yaml.Step

/-!
# Sheets

A sheet is a block list of mappings in the form in which a person writes one: a hyphen before each
entry, a field on each line, and on the right a plain word, a text between double quotes, or a list
of these between brackets. `Sheet.tokens_eq` gives the tokens of a sheet.
-/

namespace Interview.Yaml

open Interview.Text (fedLines)

namespace Sheet

/-! ## The parts of a sheet -/

/-- A scalar as it is written: a plain word, or a text between double quotes. -/
inductive Scalar where
  | plain (word : List Char)
  | quoted (content : List Char)

namespace Scalar

def text : Scalar → List Char
  | plain word => word
  | quoted content => '"' :: (content ++ ['"'])

def token : Scalar → Token
  | plain word => .scalar true word
  | quoted content => .scalar false content

/-- A scalar that is read as it is written. -/
def isSound : Scalar → Bool
  | plain word => isPlainWord word
  | quoted content => content.all isQuotable

end Scalar

/-- What a field holds: a scalar, or a list of scalars between brackets. -/
inductive Content where
  | scalar (scalar : Scalar)
  | list (items : List Scalar)

namespace Content

def text : Content → List Char
  | .scalar one => one.text
  | .list items => '[' :: (List.intercalate [',', ' '] (items.map Scalar.text) ++ [']'])

def tokens : Content → List Token
  | .scalar one => [one.token]
  | .list items =>
    .flowListStart :: ((items.map Scalar.token).intersperse .comma ++ [.flowListEnd])

def isSound : Content → Bool
  | .scalar one => one.isSound
  | .list items => items.all Scalar.isSound

end Content

/-- A field: its key, a colon and what it holds. -/
structure Field where
  key : List Char
  content : Content

namespace Field

def text (field : Field) : List Char :=
  field.key ++ ':' :: ' ' :: field.content.text

/-- The line of a field that is not the first of its entry. -/
def line (field : Field) : List Char := ' ' :: ' ' :: field.text

def tokens (field : Field) : List Token :=
  .key :: .scalar true field.key :: .value :: field.content.tokens

def isSound (field : Field) : Bool :=
  isKeyWord field.key && field.content.isSound

end Field

/-- An entry: one field behind the hyphen, and others on lines of their own. -/
structure Entry where
  first : Field
  others : List Field

namespace Entry

def fields (entry : Entry) : List Field := entry.first :: entry.others

def firstLine (entry : Entry) : List Char := '-' :: ' ' :: entry.first.text

/-- The lines behind the first one. -/
def otherLines (entry : Entry) : List (List Char) :=
  entry.others.map Field.line

def lines (entry : Entry) : List (List Char) := entry.firstLine :: entry.otherLines

def tokens (entry : Entry) : List Token :=
  .entry :: .blockMappingStart :: entry.fields.flatMap Field.tokens

def isSound (entry : Entry) : Bool := entry.fields.all Field.isSound

end Entry

/-- The lines of a sheet. -/
def lines (entries : List Entry) : List (List Char) := entries.flatMap Entry.lines

def tokens (entries : List Entry) : List Token :=
  .blockListStart :: ((entries.flatMap fun entry => entry.tokens ++ [.blockEnd]) ++ [.blockEnd])

end Sheet

/-! ## Reading a field -/

namespace Stage

variable {c : Char} {rest tail : List Char} {tokens : List Token} {indents : List Nat}
variable {column indent : Nat} {keyAllowed : Bool} {scalar : Sheet.Scalar} {start : Token}
variable {content : Sheet.Content} {field : Sheet.Field} {entry : Sheet.Entry}

variable (rest) in
theorem startsHere_scalar (sound : scalar.isSound = true) :
    startsHere (scalar.text ++ rest) = true := by
  cases scalar with
  | plain word => exact startsHere_of_isPlainWord sound
  | quoted content => rfl

variable (rest) in
theorem startsHere_content (sound : content.isSound = true) :
    startsHere (content.text ++ rest) = true := by
  cases content with
  | scalar scalar => exact startsHere_scalar rest sound
  | list items => rfl

/-- The indentation that a next line would need to be part of a plain scalar. -/
theorem lt_textIndent (stage : Stage) (index line : Nat) (key : Option PendingKey)
    (stops : stage.indents.head?.any (indent ≤ ·) = true) :
    indent < (stage.lexer index line key).textIndent := by
  cases open_ : stage.indents with
  | nil =>
      rw [open_] at stops
      cases stops
  | cons first indents =>
      have below : indent ≤ first := by simpa [open_] using stops
      simp only [Lexer.textIndent, lexer, open_]
      omega

/-- A plain word at the end of a line is read up to the next line. -/
theorem exists_plainScalar_endsLine {least : Nat} {word : List Char} (index line column : Nat)
    (chars : ∀ c ∈ word, isWordChar c = true) (ends : EndsLine tail indent rest)
    (stops : rest = [] ∨ indent < least) :
    ∃ after index' line' column' crossed,
      (∀ fuel, plainScalar false least (fuel + 1) (.place (word ++ tail) index line column) =
        (word, .place after index' line' column', crossed)) ∧
      after.length ≤ tail.length ∧
      ∀ tokens indents, (lexer ⟨after, column', tokens, indents, false, crossed⟩ index' line' none).IsAt
        ⟨rest, indent, tokens, indents, false, true⟩ := by
  obtain ⟨starts, ⟨rfl, rfl⟩ | ⟨empty, rfl⟩⟩ := ends
  · refine ⟨[], _, _, _, false, fun fuel => plainScalar_place chars rfl rfl, Nat.le_refl 0, ?_⟩
    intro tokens indents
    exact isAt_endsLine _ _ _ false ⟨rfl, .inl ⟨rfl, rfl⟩⟩
  · obtain ⟨index', line', read⟩ := exists_plainScalar_lineGap empty indent index line column chars
      starts (stops.imp_right fun stops => ⟨rfl, stops⟩)
    refine ⟨rest, index', line', indent, true, read, ?_, ?_⟩
    · simp only [lineGap, List.length_cons, List.length_append]
      omega
    · intro tokens indents
      exact isAt_here _ _ starts canDrop_none

variable (tokens column) in
/-- A scalar behind a colon is read up to the end of its line, and the next line is not part of
it. -/
theorem leads_scalar (sound : scalar.isSound = true) (inside : 0 < column)
    (within : indents.head?.all (· ≤ column) = true) (ends : EndsLine tail indent rest)
    (stops : rest = [] ∨ indents.head?.any (indent ≤ ·) = true) :
    Leads ⟨scalar.text ++ tail, column, tokens, indents, false, false⟩
      ⟨rest, indent, tokens ++ [scalar.token], indents, false, true⟩ := by
  cases scalar with
  | quoted content =>
      rw [Sheet.Scalar.text, List.cons_append, List.append_assoc, List.singleton_append]
      apply leads_of_tokenAt
      intro index line key drops
      obtain ⟨key', ⟨-, none⟩, read⟩ := exists_node_quoted tail tokens indents index line column false
        drops (.inr rfl) (List.all_eq_true.mp sound)
      obtain rfl := none rfl
      rw [Lexer.closeBeyond_of_le within, Lexer.tokenAt_quote rfl]
      refine ⟨_, read, ?_, isAt_endsLine _ _ _ _ ends⟩
      simp only [lexer, Cursor.left_place, List.length_append, List.length_cons]
      omega
  | plain word =>
      obtain ⟨c, word, rfl⟩ : ∃ c others, word = c :: others := by
        cases word with
        | nil => cases sound
        | cons c word => exact ⟨c, word, rfl⟩
      rw [Sheet.Scalar.text, List.cons_append]
      apply leads_of_tokenAt
      intro index line key drops
      obtain ⟨after, index', line', column', crossed, read, shorter, arrives⟩ :=
        exists_plainScalar_endsLine index line column (isWordChar_of_isPlainWord sound) ends
          (stops.imp_right (lt_textIndent
            ⟨c :: (word ++ tail), column, tokens, indents, false, false⟩ index line key))
      rw [List.cons_append] at read
      obtain ⟨key', ⟨-, none⟩, plainRead⟩ := exists_plain false drops (.inr rfl) read
      obtain rfl := none rfl
      rw [Lexer.closeBeyond_of_le within, Lexer.tokenAt_plain sound
        (by simp [lexer, Nat.ne_of_gt inside])]
      refine ⟨_, plainRead, ?_, arrives _ _⟩
      simp only [lexer, Cursor.left_place, List.length_append]
      omega

variable (rest tokens indents column keyAllowed) in
/-- A scalar in a flow list is read up to the comma or bracket behind it. -/
theorem leads_item (sound : scalar.isSound = true) (inside : 0 < column)
    (mark : c = ',' ∨ c = ']') :
    Leads ⟨scalar.text ++ c :: rest, column, tokens, indents, true, keyAllowed⟩
      ⟨c :: rest, column + scalar.text.length, tokens ++ [scalar.token], indents, true, false⟩ := by
  have starts : startsHere (c :: rest) = true := by
    rcases mark with rfl | rfl <;> rfl
  cases scalar with
  | quoted content =>
      rw [Sheet.Scalar.text, List.cons_append, List.append_assoc, List.singleton_append]
      apply leads_of_tokenAt
      intro index line key drops
      obtain ⟨key', drops, read⟩ := exists_node_quoted (c :: rest) tokens indents index line column
        keyAllowed drops (.inl rfl) (List.all_eq_true.mp sound)
      rw [closeBeyond_inList, Lexer.tokenAt_quote rfl]
      refine ⟨_, read, ?_, ?_⟩
      · simp only [lexer, Cursor.left_place, List.length_append, List.length_cons]
        omega
      · have length : ('"' :: (content ++ ['"'])).length = content.length + 2 := by simp
        rw [length]
        exact isAt_here _ _ starts drops
  | plain word =>
      obtain ⟨d, word, rfl⟩ : ∃ d others, word = d :: others := by
        cases word with
        | nil => cases sound
        | cons d word => exact ⟨d, word, rfl⟩
      have read (least fuel index line : Nat) : plainScalar true least (fuel + 1)
          (.place (d :: word ++ c :: rest) index line column) =
            (d :: word, .place (c :: rest) (index + (d :: word).length) line
              (column + (d :: word).length), false) :=
        plainScalar_place (isWordChar_of_isPlainWord sound)
          (by rcases mark with rfl | rfl <;> simp [plainWord, isFlowMark])
          (by rcases mark with rfl | rfl <;> rfl)
      rw [Sheet.Scalar.text, List.cons_append]
      apply leads_of_tokenAt
      intro index line key drops
      rw [List.cons_append] at read
      obtain ⟨key', drops, plainRead⟩ := exists_plain keyAllowed drops (.inl rfl)
        (fun fuel => read _ fuel index line)
      rw [closeBeyond_inList, Lexer.tokenAt_plain sound
        (by simp [lexer, Nat.ne_of_gt inside])]
      refine ⟨_, plainRead, ?_, isAt_here _ _ starts drops⟩
      simp only [lexer, Cursor.left_place, List.length_append]
      omega

theorem startsHere_items {item : Sheet.Scalar} (others : List Sheet.Scalar) (rest : List Char)
    (sound : item.isSound = true) :
    startsHere (List.intercalate [',', ' '] ((item :: others).map Sheet.Scalar.text) ++ rest) =
      true := by
  cases others with
  | nil => simpa using startsHere_scalar rest sound
  | cons next others => simpa using startsHere_scalar _ sound

variable (rest tokens indents column) in
theorem leads_items {item : Sheet.Scalar} {others : List Sheet.Scalar}
    (sound : ∀ each ∈ item :: others, each.isSound = true) (inside : 0 < column) :
    ∃ column', Leads
      ⟨List.intercalate [',', ' '] ((item :: others).map Sheet.Scalar.text) ++ ']' :: rest, column,
        tokens, indents, true, true⟩
      ⟨']' :: rest, column', tokens ++ ((item :: others).map Sheet.Scalar.token).intersperse .comma,
        indents, true, false⟩ := by
  induction others generalizing item column tokens with
  | nil =>
      have first := leads_item rest tokens indents column true (sound item List.mem_cons_self) inside
        (.inr rfl)
      exact ⟨_, by simpa using first⟩
  | cons next others ih =>
      have soundNext : ∀ each ∈ next :: others, each.isSound = true :=
        fun each member => sound each (List.mem_cons_of_mem item member)
      obtain ⟨column', later⟩ := ih (tokens ++ [item.token] ++ [.comma])
        (column + item.text.length + 2) soundNext (by omega)
      refine ⟨column', ?_⟩
      have first := (leads_item _ tokens indents column true (sound item List.mem_cons_self) inside
        (.inl rfl)).trans
          (leads_comma (startsHere_items others (']' :: rest) (soundNext next List.mem_cons_self)))
      simpa using first.trans later

variable (tokens column) in
/-- What a field holds is read up to the end of its line. -/
theorem leads_content (sound : content.isSound = true) (inside : 0 < column)
    (within : indents.head?.all (· ≤ column) = true) (ends : EndsLine tail indent rest)
    (stops : rest = [] ∨ indents.head?.any (indent ≤ ·) = true) :
    Leads ⟨content.text ++ tail, column, tokens, indents, false, false⟩
      ⟨rest, indent, tokens ++ content.tokens, indents, false, true⟩ := by
  cases content with
  | scalar scalar => exact leads_scalar tokens column sound inside within ends stops
  | list items =>
      cases items with
      | nil =>
          have starts : startsHere (']' :: tail) = true := rfl
          simpa [Sheet.Content.text, Sheet.Content.tokens] using
            (leads_listStart starts within).trans (leads_listEnd ends)
      | cons item others =>
          have sound := List.all_eq_true.mp sound
          have starts := startsHere_items others (']' :: tail) (sound item List.mem_cons_self)
          obtain ⟨column', items⟩ := leads_items tail (tokens ++ [.flowListStart]) indents
            (column + 1) sound (by omega)
          have list := ((leads_listStart starts within).trans items).trans (leads_listEnd ends)
          simpa [Sheet.Content.text, Sheet.Content.tokens] using list

theorem opened_within (within : indents.head?.all (· ≤ column) = true) :
    (opened start column indents).2.head?.all (· ≤ column) = true := by
  unfold opened
  split
  · simp
  · exact within

variable (tokens indents column) in
/-- A field is read up to the end of its line. -/
theorem leads_field (sound : field.isSound = true)
    (within : indents.head?.all (· ≤ column) = true) (ends : EndsLine tail indent rest)
    (stops : rest = [] ∨
      (opened .blockMappingStart column indents).2.head?.any (indent ≤ ·) = true) :
    Leads ⟨field.text ++ tail, column, tokens, indents, false, true⟩
      ⟨rest, indent, tokens ++ (opened .blockMappingStart column indents).1 ++ field.tokens,
        (opened .blockMappingStart column indents).2, false, true⟩ := by
  simp only [Sheet.Field.isSound, Bool.and_eq_true] at sound
  have key := leads_key tokens sound.1 (startsHere_content tail sound.2) within
  have content := leads_content (tokens ++ (opened .blockMappingStart column indents).1 ++
    [.key, .scalar true field.key, .value]) (column + field.key.length + 2) sound.2 (by omega)
    (head?_all_le_mono (opened_within within) (by omega)) ends stops
  simpa [Sheet.Field.text, Sheet.Field.tokens] using key.trans content

variable (rest) in
theorem startsHere_field (sound : field.isSound = true) :
    startsHere (field.text ++ rest) = true := by
  simp only [Sheet.Field.isSound, isKeyWord, Bool.and_eq_true] at sound
  rw [Sheet.Field.text, List.append_assoc]
  exact startsHere_of_isPlainWord sound.1.1.1

/-- Behind a field comes the next one, on a line of its own. -/
theorem endsLine_fields {next : Sheet.Field} (others : List Sheet.Field) (tail : List Char)
    (sound : next.isSound = true) :
    EndsLine (fedLines ((next :: others).map Sheet.Field.line) ++ tail) 2
      (next.text ++ (fedLines (others.map Sheet.Field.line) ++ tail)) :=
  ⟨startsHere_field _ sound, .inr ⟨0, by simp [lineGap, Sheet.Field.line]⟩⟩

variable (tokens) in
/-- The fields behind the first one stand on lines of their own, in its column. -/
theorem leads_otherFields {others : List Sheet.Field}
    (sound : ∀ each ∈ field :: others, each.isSound = true) (ends : EndsLine tail indent rest)
    (stops : indent ≤ 2) :
    Leads
      ⟨field.text ++ (fedLines (others.map Sheet.Field.line) ++ tail), 2, tokens, [2, 0], false,
        true⟩
      ⟨rest, indent, tokens ++ (field :: others).flatMap Sheet.Field.tokens, [2, 0], false,
        true⟩ := by
  induction others generalizing field tokens with
  | nil =>
      have only := leads_field tokens [2, 0] 2 (sound field List.mem_cons_self) rfl ends
        (.inr (by simpa [opened] using stops))
      simpa [opened] using only
  | cons next others ih =>
      have soundNext : ∀ each ∈ next :: others, each.isSound = true :=
        fun each member => sound each (List.mem_cons_of_mem field member)
      have first := leads_field tokens [2, 0] 2 (sound field List.mem_cons_self) rfl
        (endsLine_fields others tail (soundNext next List.mem_cons_self))
        (.inr (by simp [opened]))
      have later := ih (tokens ++ field.tokens) soundNext
      simpa [opened] using first.trans (by simpa [opened] using later)

variable (tokens) in
/-- An entry opens a mapping for its fields, once the mapping of the entry before it has ended and
the list around it is open. -/
theorem leads_entryLines {deeper : List Nat} {marks : List Token} (sound : entry.isSound = true)
    (beyond : ∀ indent ∈ deeper, 0 < indent) (within : indents.head?.all (· ≤ 0) = true)
    (opens : opened .blockListStart 0 indents = (marks, [0])) (ends : EndsLine tail indent rest)
    (stops : indent ≤ 2) :
    Leads ⟨entry.firstLine ++ (fedLines entry.otherLines ++ tail), 0, tokens, deeper ++ indents,
        false, true⟩
      ⟨rest, indent, tokens ++ List.replicate deeper.length .blockEnd ++ marks ++ entry.tokens,
        [2, 0], false, true⟩ := by
  obtain ⟨first, others⟩ := entry
  have sound := List.all_eq_true.mp sound
  have soundFirst : first.isSound = true := sound first List.mem_cons_self
  have hyphen := leads_entry tokens (startsHere_field
    (fedLines (Sheet.Entry.otherLines ⟨first, others⟩) ++ tail) soundFirst) beyond within
  rw [opens] at hyphen
  cases others with
  | nil =>
      have only := leads_field
        (tokens ++ List.replicate deeper.length .blockEnd ++ marks ++ [.entry]) [0] 2 soundFirst rfl
        ends (.inr (by simpa [opened] using stops))
      simpa [Sheet.Entry.firstLine, Sheet.Entry.otherLines, Sheet.Entry.tokens,
        Sheet.Entry.fields, opened] using hyphen.trans only
  | cons next others =>
      have soundOthers : ∀ each ∈ next :: others, each.isSound = true :=
        fun each member => sound each (List.mem_cons_of_mem first member)
      have one := leads_field
        (tokens ++ List.replicate deeper.length .blockEnd ++ marks ++ [.entry]) [0] 2 soundFirst rfl
        (endsLine_fields others tail (soundOthers next List.mem_cons_self))
        (.inr (by simp [opened]))
      have later := leads_otherFields (tokens ++ List.replicate deeper.length .blockEnd ++ marks ++
        [.entry, .blockMappingStart] ++ first.tokens) soundOthers ends stops
      have whole := hyphen.trans (one.trans (by simpa [opened] using later))
      simpa [Sheet.Entry.firstLine, Sheet.Entry.otherLines, Sheet.Entry.tokens,
        Sheet.Entry.fields] using whole

variable (tokens indents) in
/-- The entries of a sheet are read one after another, up to the end of the text. -/
theorem leads_entries (deeper : List Nat) {marks : List Token} {others : List Sheet.Entry}
    (sound : ∀ each ∈ entry :: others, each.isSound = true)
    (beyond : ∀ indent ∈ deeper, 0 < indent) (within : indents.head?.all (· ≤ 0) = true)
    (opens : opened .blockListStart 0 indents = (marks, [0])) (ends : EndsLine tail 0 []) :
    Leads ⟨entry.firstLine ++ (fedLines (entry.otherLines ++ Sheet.lines others) ++ tail), 0, tokens,
        deeper ++ indents, false, true⟩
      ⟨[], 0, tokens ++ List.replicate deeper.length .blockEnd ++ marks ++ entry.tokens ++
        others.flatMap fun other => .blockEnd :: other.tokens, [2, 0], false, true⟩ := by
  induction others generalizing entry tokens deeper indents marks with
  | nil =>
      have only := leads_entryLines tokens (sound entry List.mem_cons_self) beyond within opens ends
        (Nat.zero_le 2)
      simpa [Sheet.lines] using only
  | cons next others ih =>
      have soundNext : ∀ each ∈ next :: others, each.isSound = true :=
        fun each member => sound each (List.mem_cons_of_mem entry member)
      have behind : EndsLine (fedLines (Sheet.lines (next :: others)) ++ tail) 0
          (next.firstLine ++ (fedLines (next.otherLines ++ Sheet.lines others) ++ tail)) :=
        ⟨rfl, .inr ⟨0, by simp [lineGap, Sheet.lines, Sheet.Entry.lines]⟩⟩
      have first := leads_entryLines tokens (sound entry List.mem_cons_self) beyond within opens
        behind (Nat.zero_le 2)
      have later := ih (tokens ++ List.replicate deeper.length .blockEnd ++ marks ++ entry.tokens) [0]
        [2] soundNext (by simp) rfl rfl
      simpa using first.trans (by simpa using later)

end Stage

/-! ## The tokens of a sheet -/

namespace Sheet

theorem isVisible_of_scalar {scalar : Scalar} (sound : scalar.isSound = true) :
    ∀ c ∈ scalar.text, isVisible c = true := by
  cases scalar with
  | plain word =>
      intro c member
      exact isVisible_of_isQuotable
        (isQuotable_of_isWordChar (Stage.isWordChar_of_isPlainWord sound c member))
  | quoted content =>
      have quotable := List.all_eq_true.mp sound
      intro c member
      simp only [Scalar.text, List.mem_cons, List.mem_append, List.not_mem_nil, or_false] at member
      rcases member with rfl | inside | rfl
      · rfl
      · exact isVisible_of_isQuotable (quotable c inside)
      · rfl

theorem eq_or_mem_of_mem_intersperse {α : Type} {x mark : α} {items : List α}
    (member : x ∈ items.intersperse mark) : x = mark ∨ x ∈ items := by
  induction items with
  | nil => cases member
  | cons item others ih =>
      cases others with
      | nil => exact .inr member
      | cons next others =>
          rw [List.intersperse_cons_cons, List.mem_cons, List.mem_cons] at member
          rcases member with rfl | rfl | later
          · exact .inr List.mem_cons_self
          · exact .inl rfl
          · exact (ih later).imp_right (List.mem_cons_of_mem item)

theorem isVisible_of_content {content : Content} (sound : content.isSound = true) :
    ∀ c ∈ content.text, isVisible c = true := by
  cases content with
  | scalar scalar => exact isVisible_of_scalar sound
  | list items =>
      have sound := List.all_eq_true.mp sound
      intro c member
      simp only [Content.text, List.mem_cons, List.mem_append, List.not_mem_nil, or_false] at member
      rcases member with rfl | inside | rfl
      · rfl
      · obtain ⟨part, among, inside⟩ := List.mem_flatten.mp inside
        rcases eq_or_mem_of_mem_intersperse among with rfl | among
        · simp only [List.mem_cons, List.not_mem_nil, or_false] at inside
          rcases inside with rfl | rfl <;> rfl
        · obtain ⟨item, listed, rfl⟩ := List.mem_map.mp among
          exact isVisible_of_scalar (sound item listed) c inside
      · rfl

theorem isVisible_of_field {field : Field} (sound : field.isSound = true) :
    ∀ c ∈ field.text, isVisible c = true := by
  simp only [Field.isSound, isKeyWord, Bool.and_eq_true] at sound
  intro c member
  simp only [Field.text, List.mem_cons, List.mem_append] at member
  rcases member with key | rfl | rfl | inside
  · have soundKey : (Scalar.plain field.key).isSound = true := sound.1.1.1
    exact isVisible_of_scalar soundKey c key
  · rfl
  · rfl
  · exact isVisible_of_content sound.2 c inside

/-- The lines of a sheet are made of visible characters. -/
theorem isVisible_of_line {entries : List Entry} (sound : ∀ entry ∈ entries, entry.isSound = true)
    {line : List Char} (member : line ∈ lines entries) : ∀ c ∈ line, isVisible c = true := by
  obtain ⟨entry, among, member⟩ := List.mem_flatMap.mp member
  have soundFields := List.all_eq_true.mp (sound entry among)
  intro c inside
  rcases List.mem_cons.mp member with rfl | member
  · simp only [Entry.firstLine, List.mem_cons] at inside
    rcases inside with rfl | rfl | inside
    · rfl
    · rfl
    · exact isVisible_of_field (soundFields entry.first List.mem_cons_self) c inside
  · obtain ⟨field, among, rfl⟩ := List.mem_map.mp member
    simp only [Field.line, List.mem_cons] at inside
    rcases inside with rfl | rfl | inside
    · rfl
    · rfl
    · exact isVisible_of_field (soundFields field (List.mem_cons_of_mem _ among)) c inside

/-- The mapping of an entry ends before the next entry or with the list. -/
theorem tokens_cons {entry : Entry} {others : List Entry} :
    tokens (entry :: others) =
      .blockListStart :: (entry.tokens ++ (others.flatMap fun other => .blockEnd :: other.tokens) ++
        [.blockEnd, .blockEnd]) := by
  have ends : ((entry :: others).flatMap fun entry => entry.tokens ++ [.blockEnd]) =
      entry.tokens ++ (others.flatMap fun other => .blockEnd :: other.tokens) ++
        [Token.blockEnd] := by
    induction others generalizing entry with
    | nil => simp
    | cons next others ih =>
        rw [List.flatMap_cons, ih]
        simp
  rw [tokens, ends]
  simp

/-- The tokens of a sheet with any number of empty lines behind it. -/
theorem tokens_eq {entries : List Entry} (some : entries ≠ [])
    (sound : ∀ entry ∈ entries, entry.isSound = true) (blank : Nat) :
    Tokens.ofText (Text.unlines (lines entries ++ List.replicate blank [])) =
      ⟨tokens entries, none⟩ := by
  obtain ⟨entry, others, rfl⟩ := List.exists_cons_of_ne_nil some
  have ends : EndsLine (List.replicate blank '\n') 0 [] := by
    refine ⟨rfl, ?_⟩
    cases blank with
    | zero => exact .inl ⟨rfl, rfl⟩
    | succ blank => exact .inr ⟨blank, by simp [lineGap, List.replicate_succ]⟩
  have text : Text.unlines (lines (entry :: others) ++ List.replicate blank []) =
      entry.firstLine ++ (fedLines (entry.otherLines ++ lines others) ++
        List.replicate blank '\n') := by
    rw [lines, List.flatMap_cons, Entry.lines, List.cons_append, List.cons_append,
      Text.unlines_cons, List.append_assoc]
    simp [lines]
  have admitted : (Text.unlines (lines (entry :: others) ++ List.replicate blank [])).all
      isAdmitted = true := by
    rw [List.all_eq_true]
    intro c member
    rcases Text.eq_feed_or_mem_of_mem_unlines member with rfl | ⟨line, among, inside⟩
    · rfl
    · rcases List.mem_append.mp among with among | blank
      · exact isAdmitted_of_isVisible (isVisible_of_line sound among c inside)
      · rw [List.eq_of_mem_replicate blank] at inside
        cases inside
  have leads := Stage.leads_entries [] [] [] sound (by simp) rfl rfl ends
  rw [text] at admitted ⊢
  rw [Yaml.tokens_eq admitted rfl leads, tokens_cons]
  simp [List.replicate_succ]

end Sheet

end Interview.Yaml
