import Interview.Proofs.Document.Bullet
import Interview.Proofs.Document.Literal
import Interview.Proofs.Document.RuleOrder

/-!
# Rules as they are written

An author writes a rule on a line of its own: a key, a colon and a literal. Blanks and a bullet may
stand in front, and blanks behind; between the rules there may be blank lines and comments. The
rules that are read are those that are written, with values of their types and in their order:
`written_rules_are_read_back`.
-/

namespace Interview

open Interview.Text

namespace Document

variable {line : Line} {literal gap lead text rest : List Char} {value : Value}
variable {key : String} {rule : String × Value} {all : List Line} {rules : List (String × Value)}
variable {c : Char}

/-- A key that can be written in front of a colon: no blanks stand around it, it has no colon, and
it begins neither like a comment nor with a bullet and a blank. -/
structure IsRuleKey (key : String) : Prop where
  isTidy : key.IsTidy
  noColon : ':' ∉ key.toList
  noComment : key.toList.head? ≠ some '#'
  noBullet : ¬ StartsWithBullet key.toList

/-- What may stand at the start of a line: blanks, or a bullet among them. -/
inductive IsLead : List Char → Prop where
  | blanks {before : List Char} (blank : isBlankText before = true) : IsLead before
  | bullet {before bullet after : List Char} (blank : isBlankText before = true)
    (is : IsBullet bullet) (some : after ≠ []) (blankAfter : isBlankText after = true) :
    IsLead (before ++ (bullet ++ after))

/-- A line is written for a rule. A key that looks like a bullet itself stands right in front of the
colon. -/
inductive WritesRule : Line → String × Value → Prop where
  | intro {lead gap space literal rest : List Char} {key : String} {value : Value}
    (isLead : IsLead lead) (isKey : IsRuleKey key) (blankGap : isBlankText gap = true)
    (close : IsBullet key.toList → gap = []) (blankSpace : isBlankText space = true)
    (spells : Spells literal value) (blankRest : isBlankText rest = true) :
    WritesRule (lead ++ (key.toList ++ gap ++ ':' :: (space ++ literal ++ rest))) (key, value)

/-- A line without a rule: blanks, or a comment. -/
inductive IsSkipped : Line → Prop where
  | blank {line : Line} (blank : isBlankText line = true) : IsSkipped line
  | comment {lead rest : List Char} (isLead : IsLead lead) : IsSkipped (lead ++ '#' :: rest)

/-- Lines are written for rules, in their order, with lines without a rule among them. -/
inductive WritesRules : List Line → List (String × Value) → Prop where
  | done : WritesRules [] []
  | skip {line : Line} {all : List Line} {rules : List (String × Value)}
    (skipped : IsSkipped line) (later : WritesRules all rules) : WritesRules (line :: all) rules
  | rule {line : Line} {rule : String × Value} {all : List Line} {rules : List (String × Value)}
    (writes : WritesRule line rule) (later : WritesRules all rules) :
    WritesRules (line :: all) (rule :: rules)

/-- Behind its start, a line that is trimmed loses its bullet and nothing else. -/
theorem dropBullet_trim_lead (isLead : IsLead lead) (visible : isBlank c = false)
    (none : ¬ StartsWithBullet (c :: rest)) :
    dropBullet (trim (lead ++ c :: rest)) = trim (c :: rest) := by
  cases isLead with
  | blanks blank =>
      rw [trim_append_of_blank_front blank]
      apply dropBullet_eq_self
      intro starts
      rw [trim_cons_of_visible visible] at starts
      exact none (starts.of_prefix (List.rdropWhile_prefix isBlank (c :: rest)))
  | @bullet before bullet after blank is some blankAfter =>
      have begins : ∀ d ∈ (bullet ++ after).head?, isBlank d = false := by
        intro d first
        rw [List.head?_append_of_ne_nil _ is.ne_nil] at first
        exact is.isBlank_eq_false (List.mem_of_head? first)
      have shown : isBlankText (c :: rest) = false := by simp [isBlankText, visible]
      obtain ⟨more, kept⟩ := exists_trim_cons visible rest
      rw [List.append_assoc, trim_append_of_blank_front blank,
        trim_append_of_visible (List.append_ne_nil_of_left_ne_nil is.ne_nil after) begins shown,
        ← trim_cons_of_visible visible, kept]
      obtain ⟨d, others, rfl⟩ := List.exists_cons_of_ne_nil some
      have blankNext : isBlank d = true := List.all_eq_true.mp blankAfter d List.mem_cons_self
      rw [List.append_assoc, List.cons_append, dropBullet_append is blankNext, ← List.cons_append,
        dropStart_append, ← isBlankText, if_pos blankAfter]
      simp [dropStart, visible]

/-- The blanks between a key and its colon do not make a bullet of it, unless it looks like one. -/
theorem not_startsWithBullet_rule (isKey : IsRuleKey key) (blank : isBlankText gap = true)
    (close : IsBullet key.toList → gap = []) (rest : List Char) :
    ¬ StartsWithBullet (key.toList ++ gap ++ ':' :: rest) := by
  rintro ⟨bullet, c, more, is, blankNext, whole⟩
  have keyIsNone : bullet = key.toList → c :: more ≠ gap ++ ':' :: rest := by
    rintro rfl behind
    rw [close is] at behind
    cases behind
    cases blankNext
  rw [List.append_assoc] at whole
  rcases List.append_eq_append_iff.mp whole with
    ⟨between, longer, behind⟩ | ⟨between, shorter, behind⟩
  · cases between with
    | nil => exact keyIsNone (by simpa using longer) (by simpa using behind.symm)
    | cons d others =>
        have among : d ∈ bullet := by simp [longer]
        cases gap with
        | nil =>
            obtain rfl : ':' = d := (List.cons.inj behind).1
            exact is.colon_notMem among
        | cons g gap =>
            obtain rfl : g = d := (List.cons.inj behind).1
            have visible := is.isBlank_eq_false among
            rw [List.all_eq_true.mp blank g List.mem_cons_self] at visible
            cases visible
  · cases between with
    | nil => exact keyIsNone (by simpa using shorter.symm) (by simpa using behind)
    | cons d others =>
        obtain rfl : c = d := (List.cons.inj behind).1
        exact isKey.noBullet ⟨bullet, c, others, is, blankNext, shorter⟩

/-- A line is trimmed to its last literal. -/
theorem trim_append_literal (front : List Char) (some : front ≠ [])
    (begins : ∀ c ∈ front.head?, isBlank c = false) (spells : Spells literal value)
    (blank : isBlankText rest = true) : trim (front ++ literal ++ rest) = front ++ literal := by
  obtain ⟨trimmed, ne_nil⟩ := String.isTidy_ofList_iff.mp spells.isTidy
  obtain ⟨c, others, rfl⟩ := List.exists_cons_of_ne_nil ne_nil
  have visible : isBlank c = false := (strip_eq_self_iff.mp trimmed).1 c rfl
  have shown : isBlankText (c :: others) = false := by simp [isBlankText, visible]
  rw [trim_append_of_blank blank, trim_append_of_visible some begins shown,
    ← trim_cons_of_visible visible, trimmed]

/-- What is left of the line of a rule is read as the rule. -/
theorem WritesRule.readsRule (writes : WritesRule line rule) :
    isRuleLine (dropBullet (trim line)) = true ∧ ReadsRule (dropBullet (trim line)) rule := by
  obtain @⟨lead, gap, space, literal, rest, key, value, isLead, isKey, blankGap, close, blankSpace,
    spells, blankRest⟩ := writes
  obtain ⟨⟨c, first, visible⟩, -⟩ := String.isTidy_iff_ends.mp isKey.isTidy
  obtain ⟨others, begins⟩ := List.head?_eq_some_iff.mp first
  have none := not_startsWithBullet_rule isKey blankGap close (space ++ literal ++ rest)
  have dropped :
      dropBullet (trim (lead ++ (key.toList ++ gap ++ ':' :: (space ++ literal ++ rest)))) =
        trim (key.toList ++ gap ++ ':' :: (space ++ literal ++ rest)) := by
    rw [begins, List.cons_append, List.cons_append] at none ⊢
    exact dropBullet_trim_lead isLead visible none
  have trimmed : trim (key.toList ++ gap ++ ':' :: (space ++ literal ++ rest)) =
      key.toList ++ gap ++ ':' :: (space ++ literal) := by
    have whole := trim_append_literal (key.toList ++ gap ++ ':' :: space) (by simp)
      (by simp [begins, visible]) spells blankRest
    simpa using whole
  have named : trim (key.toList ++ gap) = key.toList := by
    have tidy := isKey.isTidy
    rw [← String.ofList_toList (s := key), String.isTidy_ofList_iff] at tidy
    rw [trim_append_of_blank blankGap, tidy.1]
  have parts : HasParts (key.toList ++ gap ++ ':' :: (space ++ literal)) (key.toList ++ gap)
      (space ++ literal) := by
    refine ⟨rfl, fun member => ?_⟩
    rcases List.mem_append.mp member with inKey | inGap
    · exact isKey.noColon inKey
    · exact absurd (List.all_eq_true.mp blankGap ':' inGap) (by decide)
  have valued : scalarValue (space ++ literal) = .ok value := by
    apply scalarValue_of_spells spells
    rw [trim_append_of_blank_front blankSpace]
    exact (String.isTidy_ofList_iff.mp spells.isTidy).1
  have found := rule?_of_hasParts parts (by rw [named, begins]; exact List.cons_ne_nil c others)
  rw [dropped, trimmed]
  constructor
  · have noComment := isKey.noComment
    simpa [isRuleLine, begins] using noComment
  · refine ⟨space ++ literal, ?_, valued⟩
    rw [found, named, String.ofList_toList]

/-- Nothing is read of a line without a rule. -/
theorem IsSkipped.isRuleLine_eq_false (skipped : IsSkipped line) :
    isRuleLine (dropBullet (trim line)) = false := by
  cases skipped with
  | blank blank =>
      rw [trim_eq_nil_iff.mpr blank]
      rfl
  | @comment lead rest isLead =>
      have none : ¬ StartsWithBullet ('#' :: rest) := by
        have other : isDigit '#' = false := rfl
        simp [startsWithBullet_iff, dropBullet, List.span_eq_takeWhile_dropWhile, other]
      obtain ⟨others, kept⟩ := exists_trim_cons (c := '#') rfl rest
      rw [dropBullet_trim_lead isLead rfl none, kept]
      rfl

/-- The lines that are read are those of the rules, in their order. -/
theorem WritesRules.forall₂ (writes : WritesRules all rules) :
    List.Forall₂ ReadsRule
      ((all.map fun line => dropBullet (trim line)).filter isRuleLine) rules := by
  induction writes with
  | done => exact .nil
  | skip skipped _ ih =>
      rw [List.map_cons, List.filter_cons_of_neg (by simp [skipped.isRuleLine_eq_false])]
      exact ih
  | rule writes _ ih =>
      obtain ⟨isRule, reads⟩ := writes.readsRule
      rw [List.map_cons, List.filter_cons_of_pos isRule]
      exact .cons reads ih

end Document

/-! ## Main result -/

open Document

/-- The rules that are written in the lines of a section are read without a problem: their keys with
values of their types, and in their order. -/
theorem written_rules_are_read_back (all : List Line) (rules : List (String × Value))
    (inside : ∀ line ∈ all, '\n' ∉ line) (writes : WritesRules all rules)
    (distinct : (rules.map Prod.fst).Nodup) :
    rulesOf (unlines all) = .ok (.ofList rules, []) ∧ (Entries.ofList rules).toList = rules := by
  have list : (Entries.ofList rules).toList = rules := Entries.toList_ofList distinct
  refine ⟨rulesOf_eq_ok_iff.mpr ?_, list⟩
  have read : ruleLines (unlines all) =
      (all.map fun line => dropBullet (trim line)).filter isRuleLine :=
    filter_map_lines (fun line => dropBullet (trim line)) isRuleLine rfl inside
  rw [read, list]
  exact writes.forall₂

namespace Document

/-- Rules with bullets, quotes and blanks, and a comment among them. -/
def sampleLines : List Line :=
  ["- max_questions: -5".toList, "".toList, "# kept short".toList, "  2) tone : 'a: b' ".toList,
    "strict:TRUE".toList]

/-- The rules in those lines. -/
def sampleRules : List (String × Value) :=
  [("max_questions", .int (-5)), ("tone", .text "a: b"), ("strict", .bool true)]

theorem writesRules_sample : WritesRules sampleLines sampleRules := by
  have none : IsLead [] := .blanks rfl
  have dash : IsLead "- ".toList :=
    @IsLead.bullet [] ['-'] [' '] rfl (.mark (by decide)) (by decide) rfl
  have number : IsLead "  2) ".toList :=
    @IsLead.bullet [' ', ' '] (['2'] ++ [')']) [' '] rfl
      (.number (by decide) (List.forall_mem_singleton.mpr rfl) (by decide)) (by decide) rfl
  have five : Spells "-5".toList (.int (-5)) := by
    have digits : Nat.toDigits 10 (-5 : Int).natAbs = ['5'] := by decide
    have written := spells_toDigits (n := -5) (.minus (by decide)) (by decide)
    rwa [digits] at written
  have limit : WritesRule "- max_questions: -5".toList ("max_questions", .int (-5)) :=
    @WritesRule.intro _ [] [' '] _ [] "max_questions" _ dash
      ⟨by decide, by decide, by decide, by decide⟩ rfl (fun _ => rfl) rfl five rfl
  have unlike : ¬ IsBullet "tone".toList := by
    intro is
    exact absurd (dropBullet_append (c := ' ') is rfl []) (by decide)
  have tone : WritesRule "  2) tone : 'a: b' ".toList ("tone", .text "a: b") :=
    @WritesRule.intro _ [' '] [' '] _ [' '] "tone" _ number
      ⟨by decide, by decide, by decide, by decide⟩ rfl (fun is => absurd is unlike) rfl
      (@Spells.quoted '\'' "a: b".toList (by decide)) rfl
  have strict : WritesRule "strict:TRUE".toList ("strict", .bool true) :=
    @WritesRule.intro _ [] [] _ [] "strict" _ none
      ⟨by decide, by decide, by decide, by decide⟩ rfl (fun _ => rfl) rfl
      (@Spells.truth "TRUE".toList true (by simp [InAnyCase, truthWord])) rfl
  apply WritesRules.rule limit
  apply WritesRules.skip (.blank rfl)
  apply WritesRules.skip (@IsSkipped.comment [] _ none)
  apply WritesRules.rule tone
  apply WritesRules.rule strict
  exact .done

end Document

theorem written_rules_are_read_back_sample :
    (∀ line ∈ sampleLines, '\n' ∉ line) ∧ WritesRules sampleLines sampleRules ∧
      (sampleRules.map Prod.fst).Nodup ∧
      rulesOf (unlines sampleLines) = .ok (.ofList sampleRules, []) ∧
      (Entries.ofList sampleRules).toList = sampleRules := by
  have inside : ∀ line ∈ sampleLines, '\n' ∉ line := by decide
  have distinct : (sampleRules.map Prod.fst).Nodup := by decide
  exact ⟨inside, writesRules_sample, distinct,
    written_rules_are_read_back sampleLines sampleRules inside writesRules_sample distinct⟩

end Interview
