import Interview.Proofs.Yaml.Stage

/-!
# Steps from token to token

Each lemma here says for one kind of token to which stage it leads: the hyphen of a list entry, a
plain word with a colon, a scalar that ends its line, and what stands in a flow list. Behind the
last token the lexer closes what is open, so `tokens_eq` gives the tokens of a whole text.
-/

namespace Interview.Yaml

variable {s : Lexer} {c : Char} {rest tail text content word : List Char} {tokens : List Token}
variable {indents deeper : List Nat} {index line column indent : Nat} {inList keyAllowed : Bool}
variable {key : Option PendingKey}

namespace Lexer

theorem closeBlocks_eq (n : Nat) (s : Lexer) :
    s.closeBlocks n =
      { s with
        tokens := List.replicate n .blockEnd ++ s.tokens
        count := s.count + n
        indents := s.indents.drop n } := by
  induction n generalizing s with
  | zero => rfl
  | succ n ih =>
      rw [closeBlocks, ih]
      simp [List.replicate_succ', Nat.add_assoc, Nat.add_comm 1]

/-- Nothing is closed before a token to the right of the innermost block collection. -/
theorem closeBeyond_of_le (within : s.indents.head?.all (· ≤ column) = true) :
    s.closeBeyond column = s := by
  unfold closeBeyond
  split
  · rfl
  · cases open' : s.indents with
    | nil => simp [closeBlocks]
    | cons indent indents =>
        have left : ¬ column < indent := by simpa [open'] using within
        simp [left, closeBlocks]

/-- A scalar that may not be a key, or whose key can be given up, is read in any case. -/
theorem exists_saveKey (stage : Stage) (index line : Nat) (drops : Stage.CanDrop stage.inList key)
    (free : stage.inList = true ∨ stage.keyAllowed = false) :
    ∃ key', Stage.CanDrop stage.inList key' ∧
      saveKey (stage.lexer index line key) = .ok (stage.lexer index line key') := by
  obtain ⟨text, column, tokens, indents, inList, keyAllowed⟩ := stage
  cases keyAllowed with
  | false => exact ⟨key, drops, rfl⟩
  | true =>
      obtain rfl : inList = true := by simpa using free
      exact ⟨_, ⟨rfl, by simp⟩, by simp [saveKey, dropKey, Stage.lexer, drops.1]; rfl⟩

theorem exists_dropStale (stage : Stage) (index line : Nat)
    (drops : Stage.CanDrop stage.inList key) :
    ∃ key', Stage.CanDrop stage.inList key' ∧
      dropStale (stage.lexer index line key) = .ok (stage.lexer index line key') := by
  obtain ⟨text, column, tokens, indents, inList, keyAllowed⟩ := stage
  obtain ⟨free, outside⟩ := drops
  let lives (key : PendingKey) : Bool := !key.isStale (.place text index line column)
  have free' : (key.filter lives).any (·.required) = false := by
    cases key with
    | none => rfl
    | some key =>
        rw [Option.filter_some]
        split
        · exact free
        · rfl
  refine ⟨key.filter lives, ⟨free', fun out => by rw [outside out]; rfl⟩, ?_⟩
  have kept (stale : PendingKey → Bool) :
      (key :: if inList then [none] else []).any (·.any fun key => key.required && stale key) =
        false := by
    cases key <;> cases inList <;> simp_all
  unfold dropStale
  simp only [Stage.lexer, kept]
  cases inList <;> rfl

/-- Before a token, the lexer closes the block collections that the column of the token ends. -/
theorem IsAt.exists_next_eq
    (standing : s.IsAt ⟨c :: rest, column, tokens, indents, inList, keyAllowed⟩) :
    ∃ index line key, Stage.CanDrop inList key ∧
      s.next = (do
        let t ← ((Stage.lexer ⟨c :: rest, column, tokens, indents, inList, keyAllowed⟩ index line
          key).closeBeyond column).tokenAt c rest
        .ok (false, t)) := by
  obtain ⟨-, index, line, key, column', keyAllowed', drops, same, passed⟩ := standing
  obtain ⟨rfl, rfl⟩ := same (List.cons_ne_nil c rest)
  obtain ⟨key', drops, dropped⟩ := exists_dropStale
    ⟨c :: rest, column', tokens, indents, inList, keyAllowed'⟩ index line drops
  refine ⟨index, line, key', drops, ?_⟩
  simp only [next, passed, dropped, bind, Except.bind]
  have rest_eq : ((Stage.lexer ⟨c :: rest, column', tokens, indents, inList, keyAllowed'⟩ index line
      key').closeBeyond column').cursor.rest = c :: rest := by
    unfold closeBeyond
    split
    · rfl
    · rw [closeBlocks_eq]
      rfl
  have column_eq : (Stage.lexer ⟨c :: rest, column', tokens, indents, inList, keyAllowed'⟩ index
      line key').cursor.column = column' := rfl
  rw [column_eq, rest_eq]

/-! ## What a token is -/

theorem tokenAt_entry (separates : s.cursor.atSeparator = false) :
    s.tokenAt '-' (' ' :: rest) = s.entry := by
  simp [tokenAt, separates, startsOrEnds, isGap]

theorem tokenAt_value (separates : s.cursor.atSeparator = false) :
    s.tokenAt ':' (' ' :: rest) = s.value := by
  simp [tokenAt, separates, startsOrEnds, isGap]

theorem tokenAt_quote (separates : s.cursor.atSeparator = false) :
    s.tokenAt '"' rest = s.node (quotedScalar '"') (.scalar false) := by
  simp [tokenAt, separates]

theorem tokenAt_listStart (separates : s.cursor.atSeparator = false) :
    s.tokenAt '[' rest = s.openFlow .flowListStart := by
  simp [tokenAt, separates]

theorem tokenAt_listEnd (separates : s.cursor.atSeparator = false) :
    s.tokenAt ']' rest = s.closeFlow .flowListEnd := by
  simp [tokenAt, separates]

theorem tokenAt_comma (separates : s.cursor.atSeparator = false) :
    s.tokenAt ',' rest = s.comma := by
  simp [tokenAt, separates]

end Lexer

/-- Words that are read as plain scalars. -/
def isPlainWord (word : List Char) : Bool :=
  !word.isEmpty && word != ['-'] && word.all isWordChar

namespace Lexer

theorem isIndicator_of_isWordChar (char : isWordChar c = true) (other : c ≠ '-') :
    isIndicator c = false := by
  have apart : "-?:,[]\x7b\x7d#&*!|>'\"%@\x60".toList.all
      (fun d => d == '-' || !isWordChar d) = true := by
    decide
  cases indicates : isIndicator c with
  | false => rfl
  | true =>
      have member := List.contains_iff_mem.mp indicates
      simpa [char, other] using List.all_eq_true.mp apart c member

theorem tokenAt_plain (plain : isPlainWord (c :: word) = true)
    (separates : (s.cursor.column == 0 && s.cursor.atSeparator) = false) :
    s.tokenAt c (word ++ rest) = s.plain := by
  simp only [isPlainWord, List.isEmpty_cons, Bool.not_false, Bool.true_and, Bool.and_eq_true,
    bne_iff_ne, List.all_cons] at plain
  obtain ⟨alone, char, chars⟩ := plain
  have other {d : Char} (outside : isWordChar d = false) : (c == d) = false :=
    beq_eq_false_iff_ne.mpr (ne_of_class char outside)
  have goesOn : c = '-' → startsOrEnds isGap (word ++ rest) = false := by
    rintro rfl
    cases word with
    | nil => exact absurd rfl alone
    | cons d word =>
        exact isGap_of_isWordChar (by simpa using (List.all_eq_true.mp chars) d List.mem_cons_self)
  have entry : (c == '-' && startsOrEnds isGap (word ++ rest)) = false := by
    by_cases hyphen : c = '-'
    · simp [goesOn hyphen]
    · simp [hyphen]
  have starts : startsPlain s.inFlow c (word ++ rest) = true := by
    by_cases hyphen : c = '-'
    · simp [startsPlain, goesOn hyphen, hyphen]
    · simp [startsPlain, isGap_of_isWordChar char, isIndicator_of_isWordChar char hyphen]
  simp [tokenAt, separates, entry, starts, other (d := '%') rfl, other (d := '[') rfl,
    other (d := '\x7b') rfl, other (d := ']') rfl, other (d := '\x7d') rfl, other (d := ',') rfl,
    other (d := '?') rfl, other (d := ':') rfl, other (d := '*') rfl, other (d := '&') rfl,
    other (d := '!') rfl, other (d := '|') rfl, other (d := '>') rfl, other (d := '\'') rfl,
    other (d := '"') rfl]

end Lexer

/-! ## Where a token leads -/

namespace Stage

/-- A block collection is open or opens at a column: the tokens for that and the columns open. -/
def opened (start : Token) (column : Nat) (indents : List Nat) : List Token × List Nat :=
  if indents.head?.all (· < column) then ([start], column :: indents) else ([], indents)

theorem openBlock_lexer {start : Token} :
    (lexer ⟨text, column, tokens, indents, inList, keyAllowed⟩ index line key).openBlock start =
      lexer ⟨text, column, tokens ++ (opened start column indents).1,
        (opened start column indents).2, inList, keyAllowed⟩ index line key := by
  by_cases inside : indents.head?.all (· < column) = true
  · rw [opened, if_pos inside, Lexer.openBlock]
    exact (if_pos inside).trans (by simp [lexer, Lexer.emit])
  · rw [opened, if_neg inside, Lexer.openBlock]
    exact (if_neg inside).trans (by simp [lexer])

theorem closeBeyond_lexer (beyond : ∀ indent ∈ deeper, column < indent)
    (within : indents.head?.all (· ≤ column) = true) :
    (lexer ⟨text, column, tokens, deeper ++ indents, false, keyAllowed⟩ index line key).closeBeyond
        column =
      lexer ⟨text, column, tokens ++ List.replicate deeper.length .blockEnd, indents, false,
        keyAllowed⟩ index line key := by
  have closed : (deeper ++ indents).takeWhile (column < ·) = deeper := by
    rw [List.takeWhile_append_of_pos (by simpa using beyond)]
    cases indents with
    | nil => simp
    | cons indent indents =>
        have left : ¬ column < indent := by simpa using within
        simp [left]
  simp [Lexer.closeBeyond, Lexer.inFlow, Lexer.closeBlocks_eq, lexer, closed]

/-- Inside a flow list no column closes anything. -/
theorem closeBeyond_inList {column' : Nat} :
    (lexer ⟨text, column, tokens, indents, true, keyAllowed⟩ index line key).closeBeyond column' =
      lexer ⟨text, column, tokens, indents, true, keyAllowed⟩ index line key :=
  rfl

theorem leads_of_tokenAt {after : Stage}
    (reads : ∀ index line key, CanDrop inList key → ∃ t,
      ((lexer ⟨c :: rest, column, tokens, indents, inList, keyAllowed⟩ index line key).closeBeyond
        column).tokenAt c rest = .ok t ∧ t.cursor.left ≤ rest.length ∧ t.IsAt after) :
    Leads ⟨c :: rest, column, tokens, indents, inList, keyAllowed⟩ after := by
  intro s standing
  obtain ⟨index, line, key, drops, next⟩ := standing.exists_next_eq
  obtain ⟨t, read, shorter, arrives⟩ := reads index line key drops
  have enough : rest.length < s.cursor.left := standing.1
  exact ⟨t, .next (by rw [next, read]; rfl) (by omega) (.refl t), arrives⟩

variable (tokens) in
/-- The hyphen of an entry ends the block collections to the right of it, and opens a list unless
one is open in its column. -/
theorem leads_entry (starts : startsHere rest = true) (beyond : ∀ indent ∈ deeper, column < indent)
    (within : indents.head?.all (· ≤ column) = true) :
    Leads ⟨'-' :: ' ' :: rest, column, tokens, deeper ++ indents, false, true⟩
      ⟨rest, column + 2,
        tokens ++ List.replicate deeper.length .blockEnd ++
          (opened .blockListStart column indents).1 ++ [.entry],
        (opened .blockListStart column indents).2, false, true⟩ := by
  apply leads_of_tokenAt
  rintro index line key ⟨-, none⟩
  obtain rfl := none rfl
  rw [closeBeyond_lexer beyond within, Lexer.tokenAt_entry rfl]
  refine ⟨_, ?_, ?_, isAt_spaces (index + 1) line 1 starts canDrop_none⟩
  · simp only [Lexer.entry, Lexer.inFlow, openBlock_lexer]
    simp only [lexer, Lexer.dropKey, Lexer.emit, bind, Except.bind]
    simp [Nat.add_assoc, Cursor.step_place (c := '-') rfl]
  · simp [lexer]

end Stage

/-- Plain words that can be keys: no separator of documents starts with them, and they are short
enough for their colon to be found. -/
def isKeyWord (word : List Char) : Bool :=
  isPlainWord word && word.head?.all (fun c => c != '-' && c != '.') && word.length ≤ keySpan

namespace Stage

theorem isWordChar_of_isPlainWord (plain : isPlainWord word = true) :
    ∀ c ∈ word, isWordChar c = true := by
  simp only [isPlainWord, Bool.and_eq_true] at plain
  exact List.all_eq_true.mp plain.2

theorem startsHere_of_isPlainWord (plain : isPlainWord word = true) :
    startsHere (word ++ rest) = true := by
  cases word with
  | nil => cases plain
  | cons c word =>
      have char := isWordChar_of_isPlainWord plain c List.mem_cons_self
      simp [startsHere, startsOrEnds, isGap_of_isWordChar char, ne_of_class char (d := '#') rfl,
        ne_of_class char (d := '\uFEFF') rfl]

variable (rest tokens indents index line column) in
/-- A plain word before a colon is read as a scalar that may become a key. -/
theorem plain_lexer (plain : isPlainWord word = true) :
    ∃ required, Lexer.plain (lexer ⟨word ++ ':' :: ' ' :: rest, column, tokens, indents, false,
        true⟩ index line none) =
      .ok (lexer ⟨':' :: ' ' :: rest, column + word.length, tokens ++ [.scalar true word], indents,
        false, false⟩ (index + word.length) line
        (some ⟨tokens.length, required, index, line, column⟩)) := by
  have read (least fuel : Nat) : plainScalar false least (fuel + 1)
      (.place (word ++ ':' :: ' ' :: rest) index line column) =
        (word, .place (':' :: ' ' :: rest) (index + word.length) line (column + word.length), false) :=
    plainScalar_place (isWordChar_of_isPlainWord plain) (by simp [plainWord, startsOrEnds, isGap]) rfl
  refine ⟨indents.head? == some column, ?_⟩
  simp [Lexer.plain, Lexer.saveKey, Lexer.dropKey, Lexer.inFlow, bind, Except.bind, Lexer.emit,
    lexer, read]

variable (rest tokens index line column) in
/-- The colon behind a word makes it a key, which opens a mapping unless one is open there. -/
theorem next_value (token : Token) (required : Bool) (index' column' : Nat)
    (within : indents.head?.all (· ≤ column') = true) (near : index' - index ≤ keySpan) :
    (lexer ⟨':' :: ' ' :: rest, column', tokens ++ [token], indents, false, false⟩ index' line
        (some ⟨tokens.length, required, index, line, column⟩)).next =
      .ok (false, lexer ⟨' ' :: rest, column' + 1,
        tokens ++ (opened .blockMappingStart column indents).1 ++ [.key, token, .value],
        (opened .blockMappingStart column indents).2, false, false⟩ (index' + 1) line none) := by
  let confirmed := lexer ⟨':' :: ' ' :: rest, column', tokens ++ [token], indents, false, false⟩
    index' line (some ⟨tokens.length, required, index, line, column⟩)
  have passed : confirmed.passGap = confirmed := Lexer.passGap_spaces 0 rfl
  have kept : confirmed.dropStale = .ok confirmed := by
    have fresh : PendingKey.isStale ⟨tokens.length, required, index, line, column⟩
        (.place (':' :: ' ' :: rest) index' line column') = false := by
      change (line != line || decide (keySpan < index' - index)) = false
      simpa using near
    simp [confirmed, Lexer.dropStale, lexer, fresh]
  have valued : confirmed.value =
      .ok (lexer ⟨' ' :: rest, column' + 1,
        tokens ++ (opened .blockMappingStart column indents).1 ++ [.key, token, .value],
        (opened .blockMappingStart column indents).2, false, false⟩ (index' + 1) line none) := by
    have passed : (Cursor.place (':' :: ' ' :: rest) index' line column').step =
        .place (' ' :: rest) (index' + 1) line (column' + 1) := Cursor.step_place rfl
    by_cases inside : indents.head?.all (· < column) = true
    · rw [opened, if_pos inside]
      simp [confirmed, lexer, Lexer.value, Lexer.inFlow, Lexer.isDeeper, inside, Lexer.putIn,
        Lexer.emit, passed]
    · rw [opened, if_neg inside]
      simp [confirmed, lexer, Lexer.value, Lexer.inFlow, Lexer.isDeeper, inside, Lexer.putIn,
        Lexer.emit, passed]
  rw [Lexer.next, passed, kept]
  simp only [bind, Except.bind]
  rw [Lexer.closeBeyond_of_le within]
  simp only [confirmed] at valued ⊢
  simp only [lexer, Cursor.rest_place] at valued ⊢
  rw [Lexer.tokenAt_value rfl, valued]

theorem head?_all_le_mono {column' : Nat} (within : indents.head?.all (· ≤ column) = true)
    (right : column ≤ column') : indents.head?.all (· ≤ column') = true := by
  cases indents with
  | nil => rfl
  | cons indent indents =>
      simp only [List.head?_cons, Option.all_some, decide_eq_true_eq] at within ⊢
      omega

theorem atSeparator_cons (hyphen : c ≠ '-') (point : c ≠ '.') :
    (Cursor.place (c :: rest) index line column).atSeparator = false := by
  unfold Cursor.atSeparator
  split
  next same => exact absurd (List.head_eq_of_cons_eq same) hyphen
  next same => exact absurd (List.head_eq_of_cons_eq same) point
  next => rfl

variable (tokens) in
/-- A key with its colon opens a mapping unless one is open in its column. -/
theorem leads_key (isKey : isKeyWord word = true) (starts : startsHere rest = true)
    (within : indents.head?.all (· ≤ column) = true) :
    Leads ⟨word ++ ':' :: ' ' :: rest, column, tokens, indents, false, true⟩
      ⟨rest, column + word.length + 2,
        tokens ++ (opened .blockMappingStart column indents).1 ++ [.key, .scalar true word, .value],
        (opened .blockMappingStart column indents).2, false, false⟩ := by
  simp only [isKeyWord, Bool.and_eq_true, decide_eq_true_eq] at isKey
  obtain ⟨⟨plain, head⟩, short⟩ := isKey
  obtain ⟨c, word, rfl⟩ : ∃ c others, word = c :: others := by
    cases word with
    | nil => cases plain
    | cons c word => exact ⟨c, word, rfl⟩
  simp only [List.head?_cons, Option.all_some, Bool.and_eq_true, bne_iff_ne] at head
  rw [List.cons_append]
  intro s standing
  have enough := standing.1
  obtain ⟨index, line, key, ⟨-, none⟩, reads⟩ := standing.exists_next_eq
  obtain rfl := none rfl
  obtain ⟨required, plainRead⟩ := plain_lexer rest tokens indents index line column plain
  have apart : (Cursor.place (c :: (word ++ ':' :: ' ' :: rest)) index line column).atSeparator =
      false := atSeparator_cons head.1 head.2
  rw [List.cons_append] at plainRead
  rw [Lexer.closeBeyond_of_le within,
    Lexer.tokenAt_plain plain (by simp only [lexer, apart, Bool.and_false]), plainRead] at reads
  have confirmed := next_value rest tokens index line column (.scalar true (c :: word)) required
    (index + (c :: word).length) (column + (c :: word).length)
    (head?_all_le_mono within (by omega)) (by omega)
  simp only [List.length_cons, List.length_append] at enough
  refine ⟨_, .next reads ?_ (.next confirmed ?_ (.refl _)), ?_⟩
  · simp only [lexer, Cursor.left_place, List.length_cons]
    omega
  · simp [lexer]
  · exact isAt_spaces _ _ 1 starts canDrop_none

/-! ## Scalars that are no keys -/

variable (tail tokens indents index line column keyAllowed) in
/-- A text between quotes is read up to the closing quote. -/
theorem exists_node_quoted (drops : CanDrop inList key) (free : inList = true ∨ keyAllowed = false)
    (quotable : ∀ c ∈ content, isQuotable c = true) :
    ∃ key', CanDrop inList key' ∧
      Lexer.node (lexer ⟨'"' :: (content ++ '"' :: tail), column, tokens, indents, inList,
          keyAllowed⟩ index line key) (quotedScalar '"') (.scalar false) =
        .ok (lexer ⟨tail, column + (content.length + 2), tokens ++ [.scalar false content], indents,
          inList, false⟩ (index + (content.length + 2)) line key') := by
  obtain ⟨key', drops, saved⟩ := Lexer.exists_saveKey
    ⟨'"' :: (content ++ '"' :: tail), column, tokens, indents, inList, keyAllowed⟩ index line drops
    free
  refine ⟨key', drops, ?_⟩
  simp only [Lexer.node, saved, bind, Except.bind]
  simp [lexer, quotedScalar_place quotable, Lexer.emit]

variable (keyAllowed) in
/-- A plain word is read as far as `plainScalar` says. -/
theorem exists_plain {index' line' column' : Nat} {crossed : Bool} (drops : CanDrop inList key)
    (free : inList = true ∨ keyAllowed = false)
    (read : ∀ fuel, plainScalar inList
      (Lexer.textIndent (lexer ⟨text, column, tokens, indents, inList, keyAllowed⟩ index line key))
      (fuel + 1) (.place text index line column) =
        (word, .place tail index' line' column', crossed)) :
    ∃ key', CanDrop inList key' ∧
      Lexer.plain (lexer ⟨text, column, tokens, indents, inList, keyAllowed⟩ index line key) =
        .ok (lexer ⟨tail, column', tokens ++ [.scalar true word], indents, inList, crossed⟩ index'
          line' key') := by
  obtain ⟨key', drops, saved⟩ := Lexer.exists_saveKey
    ⟨text, column, tokens, indents, inList, keyAllowed⟩ index line drops free
  refine ⟨key', drops, ?_⟩
  have flow : Lexer.inFlow (lexer ⟨text, column, tokens, indents, inList, keyAllowed⟩ index line
      key') = inList := by
    cases inList <;> rfl
  simp only [Lexer.plain, saved, bind, Except.bind, flow]
  simp only [lexer, Lexer.textIndent, Cursor.left_place] at read ⊢
  simp [read, Lexer.emit]

/-! ## Flow lists -/

theorem leads_listStart (starts : startsHere rest = true)
    (within : indents.head?.all (· ≤ column) = true) :
    Leads ⟨'[' :: rest, column, tokens, indents, false, false⟩
      ⟨rest, column + 1, tokens ++ [.flowListStart], indents, true, true⟩ := by
  apply leads_of_tokenAt
  intro index line key drops
  obtain rfl := drops.2 rfl
  rw [Lexer.closeBeyond_of_le within, Lexer.tokenAt_listStart rfl]
  refine ⟨_, ?_, ?_, isAt_here (index + 1) line starts canDrop_none⟩
  · simp [Lexer.openFlow, Lexer.saveKey, Lexer.emit, lexer, bind, Except.bind,
      Cursor.step_place (c := '[') rfl]
  · simp [lexer]

theorem leads_comma (starts : startsHere rest = true) :
    Leads ⟨',' :: ' ' :: rest, column, tokens, indents, true, keyAllowed⟩
      ⟨rest, column + 2, tokens ++ [.comma], indents, true, true⟩ := by
  apply leads_of_tokenAt
  intro index line key drops
  refine ⟨_, ?_, ?_, isAt_spaces (index + 1) line 1 starts canDrop_none⟩
  · rw [closeBeyond_inList, Lexer.tokenAt_comma rfl]
    simp [Lexer.comma, Lexer.dropKey, Lexer.emit, lexer, drops.1,
      bind, Except.bind, Cursor.step_place (c := ',') rfl]
  · simp [lexer]

theorem leads_listEnd (ends : EndsLine tail indent rest) :
    Leads ⟨']' :: tail, column, tokens, indents, true, keyAllowed⟩
      ⟨rest, indent, tokens ++ [.flowListEnd], indents, false, true⟩ := by
  apply leads_of_tokenAt
  intro index line key drops
  refine ⟨_, ?_, ?_, isAt_endsLine (index + 1) line (column + 1) false ends⟩
  · rw [closeBeyond_inList, Lexer.tokenAt_listEnd rfl]
    simp [Lexer.closeFlow, Lexer.dropKey, Lexer.emit, lexer,
      drops.1, bind, Except.bind, Cursor.step_place (c := ']') rfl]
  · simp [lexer]

end Stage

/-! ## The end of the text -/

/-- At the end of the text all block collections end. -/
theorem Lexer.IsAt.run_eq (standing : s.IsAt ⟨[], column, tokens, indents, false, keyAllowed⟩) :
    ∀ fuel, s.cursor.left < fuel →
      s.run fuel = ⟨tokens ++ List.replicate indents.length .blockEnd, none⟩ := by
  obtain ⟨-, index, line, key, column', keyAllowed', ⟨-, none⟩, -, passed⟩ := standing
  obtain rfl := none rfl
  intro fuel enough
  obtain ⟨fuel, rfl⟩ := Nat.exists_eq_add_one_of_ne_zero (Nat.ne_zero_of_lt enough)
  have closed : (indents.takeWhile (column' < ·)).length ≤ indents.length :=
    (List.takeWhile_sublist _).length_le
  rw [run, next, passed]
  -- What the column does not end is ended by the text.
  simp [Stage.lexer, dropStale, closeBeyond, closeAll, inFlow, closeBlocks_eq, dropKey, bind,
    Except.bind, ← List.append_assoc]
  exact Nat.sub_add_cancel closed

/-- The tokens of a text are those of the stage at its end, and the ends of what is still open. -/
theorem tokens_eq (admitted : text.all isAdmitted = true) (starts : startsHere text = true)
    (leads : Stage.Leads ⟨text, 0, [], [], false, true⟩
      ⟨[], column, tokens, indents, false, keyAllowed⟩) :
    Tokens.ofText text = ⟨tokens ++ List.replicate indents.length .blockEnd, none⟩ := by
  obtain ⟨t, reaches, standing⟩ := leads (.ofText text)
    (Stage.isAt_here 0 0 starts Stage.canDrop_none)
  rw [Tokens.ofText, if_pos admitted]
  exact reaches.run_eq standing.run_eq _ (Nat.lt_succ_self _)

end Interview.Yaml
