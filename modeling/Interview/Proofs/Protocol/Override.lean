import Interview.Protocol.Override
import Interview.Proofs.Protocol.Order
import Interview.Proofs.Template.Structure
import Interview.Proofs.Value.Entries

/-!
# Protocols under rules

A protocol with some of its fields set is read again as a whole. `set_eq` says what that comes to: a
field that is set is read from its new value, every other field stays, and the rules on the whole
protocol are checked again. What follows holds of all rules, whether they are accepted or not: the
protocol under a template is sound, differs from the first one only where a rule names a field, and
is settled, so that the same rules change nothing more.
-/

namespace Interview

open Record

namespace Protocol

variable {α : Type} {protocol resolved : Protocol} {changes : Entries Value}
variable {name : String} {reader : Reader α} {own : α} {value : Value}

/-! ## Fields that are read back -/

theorem readOptional_ofOptional (text : Option String) :
    readOptional readText (.ofOptional text) = .ok text := by
  cases text <;> rfl

theorem collect_readEach_texts (position : Nat) (texts : List String) :
    Checked.collect (readEach readText position (texts.map .text)) = .ok texts := by
  induction texts generalizing position with
  | nil => rfl
  | cons text texts ih =>
      rw [List.map_cons, readEach, Checked.collect, ih]
      rfl

theorem readList_ofTexts (texts : List String) : readList readText (.ofTexts texts) = .ok texts :=
  collect_readEach_texts 0 texts

theorem readWholeFrom_int {least n : Int} (enough : least ≤ n) :
    readWholeFrom least (.int n) = .ok n := by
  simp [readWholeFrom, readWhole, Checked.andThen, Int.not_lt.mpr enough]

theorem le_of_readWholeFrom {least n : Int} (read : readWholeFrom least value = .ok n) :
    least ≤ n := by
  obtain ⟨m, -, kept⟩ := Checked.andThen_eq_ok.mp read
  split at kept
  · cases kept
  next enough =>
      cases kept
      exact Int.not_lt.mp enough

/-! ## A field that may be set -/

/-- What a field becomes: what its new value is read as, or what it was. -/
def setting (changes : Entries Value) (name : String) (reader : Reader α) (own : α) : Checked α :=
  match changes.find? name with
  | some value => (reader value).under (.key name)
  | none => .ok own

@[simp] theorem setting_empty : setting .empty name reader own = .ok own :=
  rfl

theorem setting_of_absent (absent : changes.contains name = false) :
    setting changes name reader own = .ok own := by
  unfold setting
  rw [Option.not_isSome_iff_eq_none.mp (Bool.eq_false_iff.mp absent)]

/-- A field that has become what its new value is read as does not change again. -/
theorem setting_settled {new : α} (set : setting changes name reader own = .ok new) :
    setting changes name reader new = .ok new := by
  unfold setting at set ⊢
  split at set
  · exact set
  · rfl

/-- A field keeps a property of what is read and of what it was. -/
theorem setting_induction {motive : α → Prop} {new : α}
    (set : setting changes name reader own = .ok new) (old : motive own)
    (read : ∀ value, reader value = .ok new → motive new) : motive new := by
  unfold setting at set
  split at set
  next value _ => exact read value (Checked.under_eq_ok.mp set)
  next =>
      cases set
      exact old

/-! ## Setting fields -/

/-- The names of the fields of a protocol. -/
def fieldNames : List String :=
  ["slug", "phases", "one_question_mode", "max_questions", "max_followups", "drift_soft_limit",
   "drift_hard_limit", "allow_question_merging", "allow_question_skipping", "strict_phases"]

/-- The names of fields in camel case, where those differ from the names that rules lead to. -/
def camelNames : List String :=
  ["oneQuestionMode", "maxQuestions", "maxFollowups", "driftSoftLimit", "driftHardLimit",
   "allowQuestionMerging", "allowQuestionSkipping", "strictPhases"]

/-- The values of a protocol under the names of its fields. -/
def named (protocol : Protocol) : List (String × Value) :=
  protocol.fields.map fun field => (field.1, field.2.2)

theorem map_fst_named : protocol.named.map Prod.fst = fieldNames :=
  rfl

/-- The fields of a protocol with some of them set. -/
def overlaid (protocol : Protocol) (changes : Entries Value) : Entries Value :=
  changes.toList.foldl (fun fields update => fields.put update.1 update.2) (.ofList protocol.named)

theorem find?_overlaid :
    (protocol.overlaid changes).find? name =
      (changes.find? name).or (Entries.lookup name protocol.named) := by
  have distinct : (protocol.named.map Prod.fst).Nodup := by
    rw [map_fst_named]
    decide
  rw [overlaid, Entries.find?_foldl_put, Entries.find?_ofList,
    ← Entries.lookup_perm distinct (List.reverse_perm _).symm,
    ← Entries.lookup_perm changes.distinct (List.reverse_perm _).symm]
  rfl

/-- Updates name only fields that rules can set. -/
def AreRuleFields (changes : Entries Value) : Prop :=
  ∀ name, changes.contains name = true → name ∈ ruleFields

theorem AreRuleFields.find?_eq_none (own : AreRuleFields changes) (foreign : name ∉ ruleFields) :
    changes.find? name = none :=
  Option.not_isSome_iff_eq_none.mp fun there => foreign (own name there)

theorem find?_overlaid_of_camel (own : AreRuleFields changes) (camel : name ∈ camelNames) :
    (protocol.overlaid changes).find? name = none := by
  have foreign : ∀ name ∈ camelNames, name ∉ ruleFields ∧ name ∉ fieldNames := by decide
  obtain ⟨noRule, noField⟩ := foreign name camel
  have absent : Entries.lookup name protocol.named = none :=
    Option.not_isSome_iff_eq_none.mp fun there => noField (Entries.isSome_lookup.mp there)
  rw [find?_overlaid, own.find?_eq_none noRule, absent]
  rfl

/-- A field that rules cannot set is read from what it was. -/
theorem field_overlaid_of_foreign {default : Option α} (own : AreRuleFields changes)
    (foreign : name ∉ ruleFields) (was : Entries.lookup name protocol.named = some value)
    {kept : α} (read : reader value = .ok kept) :
    field ((protocol.overlaid changes).toList.map fun entry => (.text entry.1, entry.2)) name []
      default reader = .ok kept := by
  have found : (protocol.overlaid changes).find? name = some value := by
    rw [find?_overlaid, own.find?_eq_none foreign, was]
    rfl
  rw [Entries.find?] at found
  simp [field, firstPresent, Value.lookup_ofEntries, found, read, Checked.under]

/-- A field that rules can set is read as the setting for it. -/
theorem field_overlaid {camel : String} {default : Option α} (own : AreRuleFields changes)
    (isCamel : camel ∈ camelNames) (was : Entries.lookup name protocol.named = some value)
    {kept : α} (read : reader value = .ok kept) :
    field ((protocol.overlaid changes).toList.map fun entry => (.text entry.1, entry.2)) camel
      [name] default reader = setting changes name reader kept := by
  have absent : (protocol.overlaid changes).find? camel = none :=
    find?_overlaid_of_camel own isCamel
  have found : (protocol.overlaid changes).find? name = (changes.find? name).or (some value) := by
    rw [find?_overlaid, was]
  rw [Entries.find?] at absent found
  simp only [field, firstPresent, Value.lookup_ofEntries, absent, found]
  unfold setting
  cases changes.find? name with
  | none => simp [read, Checked.under]
  | some value => rfl

/-- The protocol with fields set is read field by field. -/
theorem set_eq (own : AreRuleFields changes) (checked : protocol.IsChecked) :
    protocol.set changes = Protocol.guard
      (Protocol.mk <$> .ok protocol.slug <*> .ok protocol.phases
        <*> setting changes "one_question_mode" readTruth protocol.oneQuestionMode
        <*> setting changes "max_questions" (readWholeFrom 1) protocol.maxQuestions
        <*> setting changes "max_followups" (readWholeFrom 0) protocol.maxFollowups
        <*> setting changes "drift_soft_limit" (readWholeFrom 0) protocol.driftSoftLimit
        <*> setting changes "drift_hard_limit" (readWholeFrom 0) protocol.driftHardLimit
        <*> setting changes "allow_question_merging" readTruth protocol.allowMerging
        <*> setting changes "allow_question_skipping" readTruth protocol.allowSkipping
        <*> setting changes "strict_phases" readTruth protocol.strictPhases) := by
  have zero_le_hard := Int.le_trans checked.zero_le_driftSoftLimit checked.soft_le_hard
  have opened : protocol.set changes = Protocol.ofValue
      (.mapping ((protocol.overlaid changes).toList.map fun entry => (.text entry.1, entry.2))) :=
    rfl
  rw [opened, Protocol.ofValue, recordEntries, Checked.andThen,
    field_overlaid_of_foreign own (by decide) rfl (readOptional_ofOptional _),
    field_overlaid_of_foreign own (by decide) rfl (readList_ofTexts _),
    field_overlaid own (by decide) rfl
      (show readTruth (.bool protocol.oneQuestionMode) = _ from rfl),
    field_overlaid own (by decide) rfl (readWholeFrom_int checked.one_le_maxQuestions),
    field_overlaid own (by decide) rfl (readWholeFrom_int checked.zero_le_maxFollowups),
    field_overlaid own (by decide) rfl (readWholeFrom_int checked.zero_le_driftSoftLimit),
    field_overlaid own (by decide) rfl (readWholeFrom_int zero_le_hard),
    field_overlaid own (by decide) rfl (show readTruth (.bool protocol.allowMerging) = _ from rfl),
    field_overlaid own (by decide) rfl (show readTruth (.bool protocol.allowSkipping) = _ from rfl),
    field_overlaid own (by decide) rfl (show readTruth (.bool protocol.strictPhases) = _ from rfl)]

/-! ## What a protocol becomes -/

theorem problem?_eq_none_iff :
    protocol.problem? = none ↔ protocol.phases ≠ [] ∧ protocol.phases.Nodup ∧
      protocol.driftSoftLimit ≤ protocol.driftHardLimit := by
  unfold problem?
  split
  next none => simp_all
  next some =>
    split
    next repeated => simp [repeated]
    next distinct =>
      split
      next crossed => simp [Int.not_le.mpr crossed]
      next kept => simp_all

/-- A protocol is what another one becomes under changes, field by field. -/
structure Becomes (protocol : Protocol) (changes : Entries Value) (result : Protocol) : Prop where
  slug : result.slug = protocol.slug
  phases : result.phases = protocol.phases
  oneQuestionMode :
    setting changes "one_question_mode" readTruth protocol.oneQuestionMode =
      .ok result.oneQuestionMode
  maxQuestions :
    setting changes "max_questions" (readWholeFrom 1) protocol.maxQuestions =
      .ok result.maxQuestions
  maxFollowups :
    setting changes "max_followups" (readWholeFrom 0) protocol.maxFollowups =
      .ok result.maxFollowups
  driftSoftLimit :
    setting changes "drift_soft_limit" (readWholeFrom 0) protocol.driftSoftLimit =
      .ok result.driftSoftLimit
  driftHardLimit :
    setting changes "drift_hard_limit" (readWholeFrom 0) protocol.driftHardLimit =
      .ok result.driftHardLimit
  allowMerging :
    setting changes "allow_question_merging" readTruth protocol.allowMerging =
      .ok result.allowMerging
  allowSkipping :
    setting changes "allow_question_skipping" readTruth protocol.allowSkipping =
      .ok result.allowSkipping
  strictPhases :
    setting changes "strict_phases" readTruth protocol.strictPhases = .ok result.strictPhases
  sound : result.problem? = none

theorem guard_eq_ok {result : Checked Protocol} :
    Protocol.guard result = .ok resolved ↔ result = .ok resolved ∧ resolved.problem? = none := by
  rw [Protocol.guard, guarded, Checked.andThen_eq_ok]
  constructor
  · rintro ⟨value, rfl, kept⟩
    cases sound : value.problem? with
    | none =>
        simp only [sound, Option.map_none, Checked.ok.injEq] at kept
        exact ⟨congrArg _ kept, kept ▸ sound⟩
    | some problem =>
        simp only [sound, Option.map_some] at kept
        cases kept
  · rintro ⟨rfl, sound⟩
    exact ⟨resolved, rfl, by simp [sound]⟩

/-- Updates are accepted when each of them can be read and the protocol is still sound as a
whole. -/
theorem set_eq_ok_iff (own : AreRuleFields changes) (checked : protocol.IsChecked) :
    protocol.set changes = .ok resolved ↔ protocol.Becomes changes resolved := by
  rw [set_eq own checked, guard_eq_ok]
  simp only [Checked.seq_eq_ok, Checked.map_eq_ok, Checked.ok.injEq]
  constructor
  · rintro ⟨⟨_, _, ⟨_, _, ⟨_, _, ⟨_, _, ⟨_, _, ⟨_, _, ⟨_, _, ⟨_, _, ⟨_, _, ⟨_, slug, rfl⟩, phases,
      rfl⟩, oneQuestionMode, rfl⟩, maxQuestions, rfl⟩, maxFollowups, rfl⟩, driftSoftLimit, rfl⟩,
      driftHardLimit, rfl⟩, allowMerging, rfl⟩, allowSkipping, rfl⟩, strictPhases, rfl⟩, sound⟩
    exact { slug := slug.symm, phases := phases.symm, oneQuestionMode, maxQuestions, maxFollowups,
            driftSoftLimit, driftHardLimit, allowMerging, allowSkipping, strictPhases, sound }
  · rintro ⟨slug, phases, oneQuestionMode, maxQuestions, maxFollowups, driftSoftLimit,
      driftHardLimit, allowMerging, allowSkipping, strictPhases, sound⟩
    refine ⟨⟨_, _, ⟨_, _, ⟨_, _, ⟨_, _, ⟨_, _, ⟨_, _, ⟨_, _, ⟨_, _, ⟨_, _, ⟨_, rfl, rfl⟩, rfl,
      rfl⟩, oneQuestionMode, rfl⟩, maxQuestions, rfl⟩, maxFollowups, rfl⟩, driftSoftLimit, rfl⟩,
      driftHardLimit, rfl⟩, allowMerging, rfl⟩, allowSkipping, rfl⟩, strictPhases, ?_⟩, sound⟩
    rw [← slug, ← phases]

/-- What a sound protocol becomes is sound. -/
theorem Becomes.isChecked (becomes : protocol.Becomes changes resolved)
    (checked : protocol.IsChecked) : resolved.IsChecked := by
  have zero_le_hard := Int.le_trans checked.zero_le_driftSoftLimit checked.soft_le_hard
  obtain ⟨phases_ne_nil, phases_nodup, soft_le_hard⟩ := problem?_eq_none_iff.mp becomes.sound
  exact
    { phases_ne_nil, phases_nodup, soft_le_hard
      one_le_maxQuestions :=
        setting_induction becomes.maxQuestions checked.one_le_maxQuestions
          fun _ => le_of_readWholeFrom
      zero_le_maxFollowups :=
        setting_induction becomes.maxFollowups checked.zero_le_maxFollowups
          fun _ => le_of_readWholeFrom
      zero_le_driftSoftLimit :=
        setting_induction becomes.driftSoftLimit checked.zero_le_driftSoftLimit
          fun _ => le_of_readWholeFrom }

/-- Updates that have been made change nothing more. -/
theorem Becomes.settled (becomes : protocol.Becomes changes resolved) :
    resolved.Becomes changes resolved where
  slug := rfl
  phases := rfl
  oneQuestionMode := setting_settled becomes.oneQuestionMode
  maxQuestions := setting_settled becomes.maxQuestions
  maxFollowups := setting_settled becomes.maxFollowups
  driftSoftLimit := setting_settled becomes.driftSoftLimit
  driftHardLimit := setting_settled becomes.driftHardLimit
  allowMerging := setting_settled becomes.allowMerging
  allowSkipping := setting_settled becomes.allowSkipping
  strictPhases := setting_settled becomes.strictPhases
  sound := becomes.sound

/-- A field without an update keeps its value. -/
theorem Becomes.lookup_named (becomes : protocol.Becomes changes resolved)
    (absent : changes.contains name = false) :
    Entries.lookup name resolved.named = Entries.lookup name protocol.named := by
  have kept {α : Type} {field : String} {reader : Reader α} {own new : α}
      (set : setting changes field reader own = .ok new) (same : field = name) : new = own := by
    rw [setting_of_absent (same ▸ absent)] at set
    exact (Checked.ok.inj set).symm
  refine Entries.lookup_congr <|
    .cons ⟨rfl, fun _ => congrArg Value.ofOptional becomes.slug⟩ <|
    .cons ⟨rfl, fun _ => congrArg Value.ofTexts becomes.phases⟩ <|
    .cons ⟨rfl, fun same => congrArg Value.bool (kept becomes.oneQuestionMode same)⟩ <|
    .cons ⟨rfl, fun same => congrArg Value.int (kept becomes.maxQuestions same)⟩ <|
    .cons ⟨rfl, fun same => congrArg Value.int (kept becomes.maxFollowups same)⟩ <|
    .cons ⟨rfl, fun same => congrArg Value.int (kept becomes.driftSoftLimit same)⟩ <|
    .cons ⟨rfl, fun same => congrArg Value.int (kept becomes.driftHardLimit same)⟩ <|
    .cons ⟨rfl, fun same => congrArg Value.bool (kept becomes.allowMerging same)⟩ <|
    .cons ⟨rfl, fun same => congrArg Value.bool (kept becomes.allowSkipping same)⟩ <|
    .cons ⟨rfl, fun same => congrArg Value.bool (kept becomes.strictPhases same)⟩ .nil

/-- A protocol that is read is sound. -/
theorem isChecked_of_ofValue (read : Protocol.ofValue value = .ok protocol) :
    protocol.IsChecked := by
  rw [Protocol.ofValue, Checked.andThen_eq_ok] at read
  obtain ⟨entries, -, read⟩ := read
  obtain ⟨read, sound⟩ := guard_eq_ok.mp read
  obtain ⟨phases_ne_nil, phases_nodup, soft_le_hard⟩ := problem?_eq_none_iff.mp sound
  have least {names : List String} {name : String} {bound n : Int}
      (read : field entries name names none (readWholeFrom bound) = .ok n) : bound ≤ n := by
    unfold field at read
    split at read
    · exact le_of_readWholeFrom (Checked.under_eq_ok.mp read)
    · cases read
  simp only [Checked.seq_eq_ok, Checked.map_eq_ok] at read
  obtain ⟨_, _, ⟨_, _, ⟨_, _, ⟨_, _, ⟨_, _, ⟨_, _, ⟨_, _, ⟨_, _, ⟨_, _, ⟨_, -, rfl⟩, -, rfl⟩, -,
    rfl⟩, maxQuestions, rfl⟩, maxFollowups, rfl⟩, driftSoftLimit, rfl⟩, -, rfl⟩, -, rfl⟩, -, rfl⟩,
    -, rfl⟩ := read
  exact
    { phases_ne_nil, phases_nodup, soft_le_hard
      one_le_maxQuestions := least maxQuestions
      zero_le_maxFollowups := least maxFollowups
      zero_le_driftSoftLimit := least driftSoftLimit }

/-- A sound protocol becomes itself where nothing is set. -/
theorem becomes_empty_iff (checked : protocol.IsChecked) :
    protocol.Becomes .empty resolved ↔ resolved = protocol := by
  constructor
  · rintro ⟨slug, phases, oneQuestionMode, maxQuestions, maxFollowups, driftSoftLimit,
      driftHardLimit, allowMerging, allowSkipping, strictPhases, -⟩
    cases protocol
    cases resolved
    simp_all
  · rintro rfl
    exact
      { slug := rfl, phases := rfl, oneQuestionMode := rfl, maxQuestions := rfl, maxFollowups := rfl
        driftSoftLimit := rfl, driftHardLimit := rfl, allowMerging := rfl, allowSkipping := rfl
        strictPhases := rfl
        sound := problem?_eq_none_iff.mpr
          ⟨checked.phases_ne_nil, checked.phases_nodup, checked.soft_le_hard⟩ }

/-- The protocols that are read back from their fields are the sound ones. -/
theorem ofValue_toValue_iff :
    Protocol.ofValue protocol.toValue = .ok protocol ↔ protocol.IsChecked := by
  refine ⟨isChecked_of_ofValue, fun checked => ?_⟩
  have own : AreRuleFields .empty := fun name there => absurd there (by simp)
  have distinct : (protocol.named.map Prod.fst).Nodup := by
    rw [map_fst_named]
    decide
  have read : Protocol.ofValue (.ofEntries (Entries.ofList protocol.named).toList) =
      .ok protocol :=
    (set_eq_ok_iff own checked).mpr ((becomes_empty_iff checked).mpr rfl)
  rw [Entries.toList_ofList distinct] at read
  exact read

/-! ## Rules of a template -/

/-- What rules ask for, in their order: the fields that they name, with their values. -/
def updatePairs (rules : List (String × Value)) : List (String × Value) :=
  (rules.filter fun rule => ruleFields.contains (fieldName rule.1)).map fun rule =>
    (fieldName rule.1, rule.2)

theorem updates_eq (rules : Entries Value) :
    updates rules = .ofList (updatePairs rules.toList) := by
  have same : ∀ rules : List (String × Value),
      (rules.filterMap fun rule => if ruleFields.contains (fieldName rule.1) then
        some (fieldName rule.1, rule.2) else none) = updatePairs rules := by
    intro rules
    induction rules with
    | nil => rfl
    | cons rule rules ih =>
        unfold updatePairs at ih ⊢
        rw [List.filterMap_cons, List.filter_cons, ih]
        cases ruleFields.contains (fieldName rule.1) <;> rfl
  exact congrArg Entries.ofList (same rules.toList)

theorem contains_updates {rules : Entries Value} :
    (updates rules).contains name = true ↔
      name ∈ ruleFields ∧ ∃ key ∈ rules.keys, fieldName key = name := by
  rw [updates_eq, Entries.contains_ofList, updatePairs, List.map_map, List.mem_map]
  simp only [List.mem_filter, List.contains_iff_mem, Function.comp_apply, Entries.keys,
    List.mem_map]
  constructor
  · rintro ⟨rule, ⟨member, named⟩, rfl⟩
    exact ⟨named, rule.1, ⟨rule, member, rfl⟩, rfl⟩
  · rintro ⟨named, _, ⟨rule, member, rfl⟩, rfl⟩
    exact ⟨rule, ⟨member, named⟩, rfl⟩

theorem areRuleFields_updates (rules : Entries Value) : AreRuleFields (updates rules) :=
  fun _ there => (contains_updates.mp there).1

/-- The rules that name a field of a protocol other than its name and its phases. -/
def namingFields (rules : Entries Value) : Entries Value :=
  rules.filter fun rule =>
    fieldNames.contains (fieldName rule.1) && fieldName rule.1 != "slug" &&
      fieldName rule.1 != "phases"

/-- Rules that set no field ask for nothing. -/
theorem updates_namingFields (rules : Entries Value) :
    updates (namingFields rules) = updates rules := by
  have same : ∀ name, (fieldNames.contains name && name != "slug" && name != "phases") =
      ruleFields.contains name := by
    intro name
    simp [fieldNames, ruleFields]
    grind
  rw [updates_eq, updates_eq]
  congr 1
  unfold updatePairs namingFields Entries.filter
  simp only [same, List.filter_filter, Bool.and_self]

/-- A template is used under what the protocol becomes by its rules. -/
theorem resolve_eq_ok_iff {template : Template} (checked : protocol.IsChecked) :
    protocol.resolve template = .ok resolved ↔
      protocol.Becomes (updates template.rules) resolved := by
  rw [resolve]
  split
  next none =>
      have empty : updates template.rules = .empty := by
        rw [Entries.isEmpty, List.isEmpty_iff] at none
        exact Entries.eq_of_toList none
      rw [empty, becomes_empty_iff checked, Except.ok.injEq, eq_comm]
  next =>
      rw [← set_eq_ok_iff (areRuleFields_updates template.rules) checked]
      cases protocol.set (updates template.rules) <;> simp

end Protocol

/-! ## Main result -/

open Protocol

/-- The protocol under a template is sound, has the name and the phases of the first protocol and
every field of it that no rule names, and is settled: the same rules change nothing more. Rules that
name no field, or the name or the phases, do not matter, neither where the others are accepted nor
where they are refused. -/
theorem resolved_protocol_is_settled (protocol : Protocol) (template : Template)
    (checked : protocol.IsChecked) :
    (∀ resolved, protocol.resolve template = .ok resolved →
      resolved.IsChecked ∧ Protocol.ofValue resolved.toValue = .ok resolved ∧
        resolved.slug = protocol.slug ∧ resolved.phases = protocol.phases ∧
        (∀ name, (∀ key ∈ template.rules.keys, fieldName key ≠ name) →
          resolved.toValue.field? name = protocol.toValue.field? name) ∧
        resolved.resolve template = .ok resolved) ∧
      protocol.resolve { template with rules := namingFields template.rules } =
        protocol.resolve template := by
  constructor
  · intro resolved accepted
    have becomes := (resolve_eq_ok_iff checked).mp accepted
    have sound := becomes.isChecked checked
    refine ⟨sound, ofValue_toValue_iff.mpr sound, becomes.slug, becomes.phases, ?_, ?_⟩
    · intro name unnamed
      have absent : (updates template.rules).contains name = false := by
        rw [Bool.eq_false_iff]
        intro there
        obtain ⟨-, key, member, named⟩ := contains_updates.mp there
        exact unnamed key member named
      have shown (protocol : Protocol) :
          protocol.toValue.field? name = Entries.lookup name protocol.named :=
        Value.lookup_ofEntries protocol.named
      rw [shown, shown, becomes.lookup_named absent]
    · exact (resolve_eq_ok_iff sound).mpr becomes.settled
  · simp only [resolve, updates_namingFields]

/-- A template whose rules set two limits, and also name the protocol and something unknown. -/
def Template.ruled : Template :=
  { Template.sample with
    rules := .ofList
      [("localMaxQuestions", .text "7"), ("slug", .text "other"), ("tone", .text "warm"),
       ("max_followups", .bool true)] }

theorem resolved_protocol_is_settled_sample :
    sample.IsChecked ∧
      ∃ resolved, sample.resolve Template.ruled = .ok resolved ∧
        resolved = { sample with maxQuestions := 7, maxFollowups := 1 } ∧ resolved.IsChecked ∧
        resolved.toValue.field? "slug" = sample.toValue.field? "slug" ∧
        resolved.resolve Template.ruled = .ok resolved ∧
        sample.resolve { Template.ruled with rules := namingFields Template.ruled.rules } =
          .ok resolved := by
  obtain ⟨all, kept⟩ := resolved_protocol_is_settled sample Template.ruled sample_isChecked
  have accepted : sample.resolve Template.ruled =
      .ok { sample with maxQuestions := 7, maxFollowups := 1 } := rfl
  obtain ⟨sound, -, -, -, -, settled⟩ := all _ accepted
  exact ⟨sample_isChecked, _, accepted, rfl, sound, rfl, settled, kept.trans accepted⟩

end Interview
