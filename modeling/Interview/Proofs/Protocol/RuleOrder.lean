import Interview.Proofs.Document.RuleOrder
import Interview.Proofs.Protocol.Override

/-!
# The order of rules and the protocol

No key may have two rules, but two keys can name one field of a protocol, and then the rule that
comes last counts. The order of the rules does not matter where rules for one field are read alike,
and only there: `rule_order_is_immaterial`. `last_spelling_decides` shows two rules for one limit
that are both accepted.
-/

namespace Interview

open Record

namespace Protocol

variable {α : Type} {protocol resolved : Protocol} {changes others : Entries Value}
variable {rules moved : Entries Value} {template : Template} {name : String} {value other : Value}

/-! ## Values that are read alike -/

/-- A field that rules can set makes the same of two values. -/
def ReadsAlike (name : String) (value other : Value) : Prop :=
  match name with
  | "max_questions" => readWholeFrom 1 value = readWholeFrom 1 other
  | "max_followups" | "drift_soft_limit" | "drift_hard_limit" =>
    readWholeFrom 0 value = readWholeFrom 0 other
  | _ => readTruth value = readTruth other

instance (name : String) (value other : Value) : Decidable (ReadsAlike name value other) := by
  unfold ReadsAlike
  split <;> infer_instance

/-- Rules that name one field are read alike. -/
def AgreeOnFields (rules : Entries Value) : Prop :=
  ∀ rule ∈ rules.toList, ∀ other ∈ rules.toList, fieldName rule.1 ∈ ruleFields →
    fieldName other.1 = fieldName rule.1 → ReadsAlike (fieldName rule.1) rule.2 other.2

instance (rules : Entries Value) : Decidable (AgreeOnFields rules) :=
  inferInstanceAs (Decidable (∀ rule ∈ rules.toList, _))

/-- Changes set a field alike. -/
inductive SetAlike (changes others : Entries Value) (name : String) : Prop where
  | neither (absent : changes.find? name = none) (absentToo : others.find? name = none)
  | both {value other : Value} (found : changes.find? name = some value)
    (foundToo : others.find? name = some other) (alike : ReadsAlike name value other)

theorem SetAlike.setting_eq {reader : Reader α} {own : α} (same : SetAlike changes others name)
    (reads : ∀ value other, ReadsAlike name value other → reader value = reader other) :
    setting changes name reader own = setting others name reader own := by
  unfold setting
  cases same with
  | neither absent absentToo => rw [absent, absentToo]
  | both found foundToo alike => simp only [found, foundToo, reads _ _ alike]

/-- Changes that set every field alike lead to the same protocol, or to the same faults. -/
theorem set_congr (own : AreRuleFields changes) (ownToo : AreRuleFields others)
    (checked : protocol.IsChecked) (same : ∀ name ∈ ruleFields, SetAlike changes others name) :
    protocol.set changes = protocol.set others := by
  rw [set_eq own checked, set_eq ownToo checked,
    (same "one_question_mode" (by decide)).setting_eq fun _ _ alike => alike,
    (same "max_questions" (by decide)).setting_eq fun _ _ alike => alike,
    (same "max_followups" (by decide)).setting_eq fun _ _ alike => alike,
    (same "drift_soft_limit" (by decide)).setting_eq fun _ _ alike => alike,
    (same "drift_hard_limit" (by decide)).setting_eq fun _ _ alike => alike,
    (same "allow_question_merging" (by decide)).setting_eq fun _ _ alike => alike,
    (same "allow_question_skipping" (by decide)).setting_eq fun _ _ alike => alike,
    (same "strict_phases" (by decide)).setting_eq fun _ _ alike => alike]

theorem reads_of_setting {reader : Reader α} {own new : α}
    (set : setting changes name reader own = .ok new) (found : changes.find? name = some value) :
    reader value = .ok new := by
  unfold setting at set
  rw [found] at set
  exact Checked.under_eq_ok.mp set

/-- Changes that lead to one protocol are read alike where both set a field. -/
theorem readsAlike_of_becomes (first : protocol.Becomes changes resolved)
    (second : protocol.Becomes others resolved) (isField : name ∈ ruleFields)
    (found : changes.find? name = some value) (foundToo : others.find? name = some other) :
    ReadsAlike name value other := by
  have same {α : Type} {reader : Reader α} {own new : α}
      (set : setting changes name reader own = .ok new)
      (setToo : setting others name reader own = .ok new) : reader value = reader other :=
    (reads_of_setting set found).trans (reads_of_setting setToo foundToo).symm
  simp only [ruleFields, List.mem_cons, List.not_mem_nil, or_false] at isField
  rcases isField with rfl | rfl | rfl | rfl | rfl | rfl | rfl | rfl
  · exact same first.oneQuestionMode second.oneQuestionMode
  · exact same first.maxQuestions second.maxQuestions
  · exact same first.maxFollowups second.maxFollowups
  · exact same first.driftSoftLimit second.driftSoftLimit
  · exact same first.driftHardLimit second.driftHardLimit
  · exact same first.allowMerging second.allowMerging
  · exact same first.allowSkipping second.allowSkipping
  · exact same first.strictPhases second.strictPhases

/-! ## Rules in another order -/

theorem exists_rule_of_find?_updates (found : (updates rules).find? name = some value) :
    ∃ rule ∈ rules.toList, fieldName rule.1 = name ∧ rule.2 = value := by
  rw [updates_eq, Entries.find?_ofList] at found
  have member := List.mem_reverse.mp (Entries.mem_of_lookup found)
  obtain ⟨rule, kept, same⟩ := List.mem_map.mp member
  obtain ⟨rfl, rfl⟩ := Prod.mk.inj same
  exact ⟨rule, (List.mem_filter.mp kept).1, rfl, rfl⟩

theorem contains_updates_perm (perm : rules.toList.Perm moved.toList) (name : String) :
    (updates moved).contains name = (updates rules).contains name := by
  rw [Bool.eq_iff_iff, contains_updates, contains_updates]
  simp only [Entries.keys, (perm.map Prod.fst).mem_iff]

/-- Where rules for one field are read alike, their order does not matter for what they set. -/
theorem setAlike_updates (perm : rules.toList.Perm moved.toList) (agree : AgreeOnFields rules)
    (isField : name ∈ ruleFields) : SetAlike (updates rules) (updates moved) name := by
  have there := contains_updates_perm perm name
  cases found : (updates rules).find? name with
  | none =>
      refine .neither found ?_
      simpa [Entries.contains, found] using there
  | some value =>
      cases foundToo : (updates moved).find? name with
      | none => simp [Entries.contains, found, foundToo] at there
      | some other =>
          obtain ⟨rule, member, rfl, rfl⟩ := exists_rule_of_find?_updates found
          obtain ⟨rule', member', named, rfl⟩ := exists_rule_of_find?_updates foundToo
          have memberOfRules := perm.mem_iff.mpr member'
          exact .both found foundToo (agree rule member rule' memberOfRules isField named)

/-- A template is used under the protocol with the fields set that its rules name. -/
theorem resolve_eq (checked : protocol.IsChecked) :
    protocol.resolve template =
      match protocol.set (updates template.rules) with
      | .ok resolved => .ok resolved
      | .faulty faults => .error ⟨template.identifier, faults⟩ := by
  rw [resolve]
  split
  next none =>
      have empty : updates template.rules = .empty :=
        Entries.eq_of_toList (List.isEmpty_iff.mp none)
      have own : AreRuleFields .empty := fun name there => absurd there (by simp)
      rw [empty, (set_eq_ok_iff own checked).mpr ((becomes_empty_iff checked).mpr rfl)]
  next => rfl

/-- The outcome of another template with the same rules in another order. -/
theorem resolve_of_perm (checked : protocol.IsChecked) {later : Template}
    (perm : template.rules.toList.Perm later.rules.toList) (agree : AgreeOnFields template.rules) :
    protocol.resolve later =
      (protocol.resolve template).mapError fun fault =>
        { fault with identifier := later.identifier } := by
  have same : protocol.set (updates template.rules) = protocol.set (updates later.rules) :=
    set_congr (areRuleFields_updates _) (areRuleFields_updates _) checked fun _ isField =>
      setAlike_updates perm agree isField
  rw [resolve_eq checked, resolve_eq checked, same]
  cases protocol.set (updates later.rules) <;> rfl

/-- The rule that comes last sets its field. -/
theorem find?_updates_concat {rule : String × Value} {before : List (String × Value)}
    (last : rules.toList = before ++ [rule]) (isField : fieldName rule.1 ∈ ruleFields) :
    (updates rules).find? (fieldName rule.1) = some rule.2 := by
  have kept : [rule].filter (fun rule => ruleFields.contains (fieldName rule.1)) = [rule] :=
    List.filter_eq_self.mpr (by simpa using isField)
  rw [updates_eq, Entries.find?_ofList, last, updatePairs, List.filter_append, List.map_append,
    List.reverse_append, kept]
  exact if_pos rfl

/-- Rules for one field are read alike if their order does not matter. -/
theorem agreeOnFields_of_forall (checked : protocol.IsChecked)
    (same : ∀ moved : Entries Value, moved.toList.Perm template.rules.toList →
      protocol.resolve { template with rules := moved } = .ok resolved) :
    AgreeOnFields template.rules := by
  -- Each rule can be made the last one, and is then the one that its field is read from.
  have last (rule : String × Value) (member : rule ∈ template.rules.toList)
      (isField : fieldName rule.1 ∈ ruleFields) :
      ∃ changes, protocol.Becomes changes resolved ∧
        changes.find? (fieldName rule.1) = some rule.2 := by
    obtain ⟨before, after, split⟩ := List.append_of_mem member
    have perm : (before ++ after ++ [rule]).Perm template.rules.toList := by
      rw [split, List.append_assoc]
      exact (List.perm_append_singleton rule after).append_left before
    have distinct : ((before ++ after ++ [rule]).map Prod.fst).Nodup :=
      (perm.map Prod.fst).nodup_iff.mpr template.rules.distinct
    have list : (Entries.ofList (before ++ after ++ [rule])).toList = before ++ after ++ [rule] :=
      Entries.toList_ofList distinct
    have accepted := same (.ofList (before ++ after ++ [rule])) (list.symm ▸ perm)
    exact ⟨_, (resolve_eq_ok_iff checked).mp accepted, find?_updates_concat list isField⟩
  intro rule member other memberToo isField named
  obtain ⟨changes, becomes, found⟩ := last rule member isField
  obtain ⟨changesToo, becomesToo, foundToo⟩ := last other memberToo (named ▸ isField)
  exact readsAlike_of_becomes becomes becomesToo isField found (named ▸ foundToo)

end Protocol

/-! ## Main result -/

open Interview.Text Document Protocol

/-- A document whose rules are accepted is accepted with them in any order, and gives a template
with the rules in this order. Where rules that name one field are read alike, the protocol under the
template, or what is wrong with it, does not depend on the order; and a protocol that does not
depend on it comes of rules that are read alike. -/
theorem rule_order_is_immaterial (protocol : Protocol) (checked : protocol.IsChecked) (text : String)
    (overrides : Overrides) (template : Template)
    (compiled : compile text overrides = .ok template) :
    (∀ other, ReordersRules text other →
      ∃ later, compile other overrides = .ok later ∧
        template.rules.toList.Perm later.rules.toList ∧
        SameButDigest (Digest.ofText text) (Digest.ofText other)
          { template with rules := later.rules } later ∧
        (AgreeOnFields template.rules →
          protocol.resolve later = (protocol.resolve template).mapError fun fault =>
            { fault with identifier := later.identifier })) ∧
      ∀ resolved, protocol.resolve template = .ok resolved →
        ((∀ moved : Entries Value, moved.toList.Perm template.rules.toList →
            protocol.resolve { template with rules := moved } = .ok resolved) ↔
          AgreeOnFields template.rules) := by
  constructor
  · intro other reorders
    obtain ⟨later, compiledToo, perm, same⟩ := reorders.exists_compile compiled
    exact ⟨later, compiledToo, perm, same, resolve_of_perm checked perm⟩
  · intro resolved accepted
    constructor
    · exact agreeOnFields_of_forall checked
    · intro agree moved perm
      rw [resolve_of_perm checked perm.symm agree, accepted]
      rfl

namespace Document

/-- The lines of a document with a question, before its rules. -/
def beforeRules : List Line :=
  ["slug: demo".toList, "## Phases".toList, "- a".toList, "## Questions".toList,
    "- \x7bid: q, phase: a, text: Who\x7d".toList]

/-- The lines of a document with two rules. -/
def ruledLines (first second : String) : List Line :=
  beforeRules ++ "## Rules".toList :: ([first.toList, second.toList] ++ [])

/-- A document with two rules. -/
def ruledBy (first second : String) : String :=
  .ofList (unlines (ruledLines first second))

theorem lines_ruledBy {first second : String}
    (areLines : ∀ line ∈ [first.toList, second.toList], IsLine line) :
    lines (dropReturns (ruledBy first second).toList) = ruledLines first second := by
  have allLines : ∀ line ∈ ruledLines first second, IsLine line := by
    have before : ∀ line ∈ beforeRules ++ ["## Rules".toList], IsLine line := by decide
    rw [ruledLines, List.append_nil, List.append_cons]
    exact List.forall_mem_append.mpr ⟨before, areLines⟩
  rw [ruledBy, String.toList_ofList, dropReturns_unlines allLines]
  exact lines_unlines fun line member => (allLines line member).1

theorem reordersRules_ruledBy {first second : String}
    (areLines : ∀ line ∈ [first.toList, second.toList], IsLine line)
    (plain : ∀ line ∈ [first.toList, second.toList], headingOf? line = none) :
    ReordersRules (ruledBy first second) (ruledBy second first) := by
  have isHeading : headingOf? "## Rules".toList = some "Rules".toList := by decide
  have areLinesToo : ∀ line ∈ [second.toList, first.toList], IsLine line := by
    simpa [and_comm] using areLines
  exact .intro (lines_ruledBy areLines) (lines_ruledBy areLinesToo) (by decide) isHeading
    (by decide) plain (by simp) (.swap ..)

end Document

/-- Two spellings of one limit, with values that are read alike. -/
theorem rule_order_is_immaterial_sample :
    sample.IsChecked ∧ ∃ template,
      compile (ruledBy "maxQuestions: 5" "max_questions: '5'") .none = .ok template ∧
        AgreeOnFields template.rules ∧
        ReordersRules (ruledBy "maxQuestions: 5" "max_questions: '5'")
          (ruledBy "max_questions: '5'" "maxQuestions: 5") ∧
        ∃ later, compile (ruledBy "max_questions: '5'" "maxQuestions: 5") .none = .ok later ∧
          sample.resolve later = (sample.resolve template).mapError fun fault =>
            { fault with identifier := later.identifier } := by
  have reorders : ReordersRules (ruledBy "maxQuestions: 5" "max_questions: '5'")
      (ruledBy "max_questions: '5'" "maxQuestions: 5") :=
    reordersRules_ruledBy (by decide) (by decide)
  have succeeds : (compile (ruledBy "maxQuestions: 5" "max_questions: '5'") .none).toOption.any
      (fun template => decide (AgreeOnFields template.rules)) = true := by
    decide +kernel
  cases compiled : compile (ruledBy "maxQuestions: 5" "max_questions: '5'") .none with
  | error fault =>
      rw [compiled] at succeeds
      cases succeeds
  | ok template =>
      have agree : AgreeOnFields template.rules := by
        simpa [compiled, Except.toOption] using succeeds
      obtain ⟨later, compiledToo, -, -, same⟩ :=
        (rule_order_is_immaterial sample sample_isChecked _ .none template compiled).1 _ reorders
      exact ⟨sample_isChecked, template, rfl, agree, reorders, later, compiledToo, same agree⟩

/-- The limit of questions under the rules of a document. -/
def Protocol.limitUnder (protocol : Protocol) (text : String) : Option Int :=
  (compile text .none).toOption.bind fun template =>
    (protocol.resolve template).toOption.map Protocol.maxQuestions

/-- Two rules for one limit, each under a spelling of its own, are both accepted, and the one that
comes last decides. -/
theorem last_spelling_decides :
    sample.IsChecked ∧
      ReordersRules (ruledBy "maxQuestions: 5" "max_questions: 6")
        (ruledBy "max_questions: 6" "maxQuestions: 5") ∧
      sample.limitUnder (ruledBy "maxQuestions: 5" "max_questions: 6") = some 6 ∧
      sample.limitUnder (ruledBy "max_questions: 6" "maxQuestions: 5") = some 5 := by
  refine ⟨sample_isChecked, reordersRules_ruledBy (by decide) (by decide), ?_, ?_⟩
  · decide +kernel
  · decide +kernel

end Interview
