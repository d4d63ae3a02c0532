import Interview.Proofs.Document.Account
import Interview.Proofs.Document.Digest
import Interview.Proofs.Document.Outline
import Mathlib.Data.List.Perm.Basic

/-!
# The order of rules

The lines of a rules section are read one by one. As no key may have two rules, a section that is
accepted is accepted with its lines in any order, and its rules then stand in that order:
`ReordersRules.exists_compile`.
-/

namespace Interview

open Interview.Text

namespace Document

variable {line content : List Char} {all : List Line} {rules moved last : Entries Value}
variable {text other : String} {overrides : Overrides} {template : Template}

/-! ## The rules of a section -/

/-- A line gives a rule. -/
def ReadsRule (line : List Char) (rule : String × Value) : Prop :=
  ∃ value, rule? line = some (rule.1, value) ∧ scalarValue value = .ok rule.2

theorem rule?_of_hasParts {key value : List Char} (parts : HasParts line key value)
    (visible : trim key ≠ []) : rule? line = some (String.ofList (trim key), value) := by
  simp [rule?, splitColon_eq_some.mpr ⟨parts.whole, parts.first⟩, visible]

/-- Lines are accepted when each of them gives a rule, for a key that has none yet. -/
theorem foldlM_addRule_eq_ok_iff :
    all.foldlM addRule (rules, []) = .ok (last, []) ↔
      ∃ given, last.toList = rules.toList ++ given ∧ List.Forall₂ ReadsRule all given := by
  constructor
  · intro read
    obtain ⟨given, faults, kept, none, accounts⟩ := accounts_of_foldlM_addRule read
    refine ⟨given, kept, (accounts.forall₂ (by simpa using none.symm)).imp ?_⟩
    rintro line rule ⟨before, key, value, parts, visible, named, -, valued⟩
    exact ⟨value, named ▸ rule?_of_hasParts parts visible, valued⟩
  · rintro ⟨given, kept, reads⟩
    induction reads generalizing rules with
    | nil =>
        rw [List.append_nil] at kept
        rw [Entries.eq_of_toList kept]
        rfl
    | @cons line rule all given here _ ih =>
        obtain ⟨value, found, valued⟩ := here
        have new : rules.contains rule.1 = false := by
          have distinct := last.distinct
          rw [kept, List.map_append, List.map_cons, List.nodup_append] at distinct
          rw [← Bool.not_eq_true, Entries.contains_iff_mem_keys]
          exact fun old => distinct.2.2 _ old _ List.mem_cons_self rfl
        have added : addRule (rules, []) line = .ok (rules.put rule.1 rule.2, []) := by
          simp [addRule_eq, found, new, valued, Except.map]
        rw [List.foldlM_cons, added]
        refine ih ?_
        rw [Entries.toList_put_of_new new, kept, List.append_assoc, List.singleton_append]

theorem rulesOf_eq_ok_iff :
    rulesOf content = .ok (rules, []) ↔
      List.Forall₂ ReadsRule (ruleLines content) rules.toList := by
  refine foldlM_addRule_eq_ok_iff.trans ⟨?_, fun reads => ⟨_, rfl, reads⟩⟩
  rintro ⟨given, kept, reads⟩
  rwa [show rules.toList = given from kept]

/-- A section is accepted with its lines in any order. -/
theorem exists_rulesOf_of_perm {others : List Line} (inside : ∀ line ∈ all, '\n' ∉ line)
    (perm : all.Perm others) (read : rulesOf (unlines all) = .ok (rules, [])) :
    ∃ moved, rulesOf (unlines others) = .ok (moved, []) ∧ rules.toList.Perm moved.toList := by
  have written {all : List Line} (inside : ∀ line ∈ all, '\n' ∉ line) :
      ruleLines (unlines all) = (all.map fun line => dropBullet (trim line)).filter isRuleLine :=
    filter_map_lines (fun line => dropBullet (trim line)) isRuleLine rfl inside
  have reordered : (ruleLines (unlines others)).Perm (ruleLines (unlines all)) := by
    rw [written inside, written fun line member => inside line (perm.mem_iff.mpr member)]
    exact (perm.symm.map _).filter _
  obtain ⟨given, reads, sameRules⟩ :=
    List.perm_comp_forall₂ reordered (rulesOf_eq_ok_iff.mp read)
  have distinct : (given.map Prod.fst).Nodup :=
    (sameRules.map Prod.fst).nodup_iff.mpr rules.distinct
  have list : (Entries.ofList given).toList = given := Entries.toList_ofList distinct
  exact ⟨.ofList given, rulesOf_eq_ok_iff.mpr (list.symm ▸ reads), list.symm ▸ sameRules.symm⟩

/-! ## Documents with their rules in another order -/

/-- A document has the lines of its rules section in another order. What stands before the section
has closed its frontmatter, if it has one, and what stands behind it starts with a heading. -/
inductive ReordersRules (text other : String) : Prop where
  | intro {start rules moved rest : List Line} {top : Line} {heading : List Char}
    (written : lines (dropReturns text.toList) = start ++ top :: (rules ++ rest))
    (rewritten : lines (dropReturns other.toList) = start ++ top :: (moved ++ rest))
    (closed : Opening.ofLines start ≠ .unclosed)
    (isHeading : headingOf? top = some heading) (isRules : lower heading = "rules".toList)
    (plain : ∀ line ∈ rules, headingOf? line = none)
    (ends : ∀ line ∈ rest.head?, headingOf? line ≠ none)
    (perm : rules.Perm moved) : ReordersRules text other

/-- The same sections, but for the order of the lines of one that has the rules. -/
inductive ReordersSection : List Section → List Section → Prop where
  | intro {heading : List Char} {rules moved : List Line} (before after : List Section)
    (isRules : lower heading = "rules".toList) (inside : ∀ line ∈ rules, '\n' ∉ line)
    (perm : rules.Perm moved) :
    ReordersSection (before ++ ⟨heading, rules⟩ :: after) (before ++ ⟨heading, moved⟩ :: after)

variable {header : Header} {sections others : List Section} {body : Body}

/-- A document with its rules in another order has the same header, and sections that differ in this
order only. -/
theorem ReordersRules.exists_outline (reorders : ReordersRules text other)
    (outlined : outline (dropReturns text.toList) = .ok (header, sections)) :
    ∃ others, outline (dropReturns other.toList) = .ok (header, others) ∧
      ReordersSection sections others ∧ (sections.map Section.key).Nodup := by
  obtain @⟨start, rules, moved, rest, top, heading, written, rewritten, closed, isHeading, isRules,
    plain, ends, perm⟩ := reorders
  have inside : ∀ line ∈ rules, '\n' ∉ line := by
    intro line member
    have among : line ∈ lines (dropReturns text.toList) := by simp [written, member]
    exact notMem_of_mem_lines among
  have plainToo : ∀ line ∈ moved, headingOf? line = none :=
    fun line member => plain line (perm.mem_iff.mpr member)
  obtain ⟨entries, read, distinct, rfl, rfl⟩ :=
    (outline_section_eq_ok_iff written closed isHeading plain ends).mp outlined
  have distinctToo : (((splitSections (Opening.ofLines start).body).2 ++
      ⟨heading, moved⟩ :: (splitSections rest).2).map Section.key).Nodup := by
    simpa [Section.key] using distinct
  refine ⟨_, ?_, .intro _ _ isRules inside perm, distinct⟩
  exact (outline_section_eq_ok_iff rewritten closed isHeading plainToo ends).mpr
    ⟨entries, read, distinctToo, rfl, rfl⟩

/-- Every other section says the same. -/
theorem ReordersSection.sectionText?_of_ne (reorders : ReordersSection sections others)
    {name : String} (apart : name ≠ "rules") :
    sectionText? name others = sectionText? name sections := by
  obtain @⟨heading, rules, moved, before, after, isRules, -, -⟩ := reorders
  have named (lines : List Line) : Section.key ⟨heading, lines⟩ = "rules".toList := isRules
  have differs : ("rules".toList == name.toList) = false :=
    beq_eq_false_iff_ne.mpr fun same => apart (String.toList_inj.mp same).symm
  rw [sectionText?, sectionText?, List.find?_append, List.find?_append, List.find?_cons,
    List.find?_cons, named, named, differs]

/-- The rules are accepted in the other order. -/
theorem ReordersSection.exists_rulesIn (reorders : ReordersSection sections others)
    (distinct : (sections.map Section.key).Nodup) (read : rulesIn sections = .ok (rules, [])) :
    ∃ moved, rulesIn others = .ok (moved, []) ∧ rules.toList.Perm moved.toList := by
  obtain @⟨heading, lines, reordered, before, after, isRules, inside, perm⟩ := reorders
  have own (lines : List Line)
      (distinct : ((before ++ ⟨heading, lines⟩ :: after).map Section.key).Nodup) :
      sectionText? "rules" (before ++ ⟨heading, lines⟩ :: after) = some (unlines lines) :=
    sectionText?_of_distinct isRules distinct
  have distinctToo : ((before ++ ⟨heading, reordered⟩ :: after).map Section.key).Nodup := by
    simpa [Section.key] using distinct
  rw [rulesIn, own lines distinct, Option.getD_some] at read
  cases given : rulesOf (unlines lines) with
  | error fault =>
      rw [given] at read
      cases read
  | ok result =>
      rw [given] at read
      cases read
      obtain ⟨moved, readMoved, sameRules⟩ := exists_rulesOf_of_perm inside perm given
      refine ⟨moved, ?_, sameRules⟩
      rw [rulesIn, own reordered distinctToo, Option.getD_some, readMoved]
      rfl

/-- The sections of a reordered document say the same, with their rules in another order. -/
theorem ReordersSection.exists_bodyOf (reorders : ReordersSection sections others)
    (distinct : (sections.map Section.key).Nodup) (read : bodyOf sections = .ok body) :
    ∃ moved, bodyOf others = .ok { body with rules := moved } ∧
      body.rules.toList.Perm moved.toList := by
  have said := bodyOf_eq_ok.mp read
  obtain ⟨moved, readMoved, sameRules⟩ := reorders.exists_rulesIn distinct said.rules
  have samePhases : phasesIn others = phasesIn sections := by
    rw [phasesIn, phasesIn, reorders.sectionText?_of_ne (by decide)]
  have sameQuestions : questionsIn others = questionsIn sections := by
    rw [questionsIn, questionsIn, reorders.sectionText?_of_ne (by decide)]
  have saidToo : Body.IsSaidBy { body with rules := moved } others :=
    { phases := by rw [samePhases, ← said.phases]
      usesStandardPhases := by rw [samePhases, ← said.usesStandardPhases]
      noPhaseProblem := by rw [samePhases, said.noPhaseProblem]
      questions := by rw [sameQuestions, said.questions]
      rules := readMoved
      scoring := by rw [reorders.sectionText?_of_ne (by decide), ← said.scoring]
      report := by rw [reorders.sectionText?_of_ne (by decide), ← said.report]
      sound := said.sound }
  exact ⟨moved, bodyOf_eq_ok.mpr saidToo, sameRules⟩

/-! ## Templates -/

/-- Other rules in what the sections say are other rules in the template. -/
theorem concurs_assemble_rules (digest : String) (overrides : Overrides) (header : Header)
    (body : Body) (moved : Entries Value) :
    Concurs (fun template other => other = { template with rules := moved })
      (assemble digest overrides header (.ok body))
      (assemble digest overrides header (.ok { body with rules := moved })) := by
  unfold assemble
  refine .bind_same fun identifier => .bind_same fun name => .bind_same fun category => ?_
  have bodies : Concurs (fun first second : Body => second = { first with rules := moved })
      (.ok body : Except Fault Body) (.ok { body with rules := moved }) :=
    .succeeded rfl
  refine .bind bodies fun body other same => ?_
  subst same
  refine .bind_same fun objective => .bind_same fun version => ?_
  refine .bind_same fun protocolRef => .bind_same fun personaRef => ?_
  exact .bind_same fun source => .bind_same fun names => .succeeded rfl

/-- A document that compiles does so with its rules in another order, and gives the same template,
but for what comes from its digest and for the order of the rules. -/
theorem ReordersRules.exists_compile (reorders : ReordersRules text other)
    (compiled : compile text overrides = .ok template) :
    ∃ later, compile other overrides = .ok later ∧
      template.rules.toList.Perm later.rules.toList ∧
      SameButDigest (Digest.ofText text) (Digest.ofText other)
        { template with rules := later.rules } later := by
  obtain ⟨made, rfl⟩ := compile_eq_ok.mp compiled
  rw [compile_eq_assemble, made.outlined] at compiled
  have assembled : assemble (Digest.ofText text) overrides made.header (.ok made.body) =
      .ok made.template := made.readBody ▸ compiled
  obtain ⟨others, outlinedToo, sameSections, distinct⟩ := reorders.exists_outline made.outlined
  obtain ⟨moved, readToo, perm⟩ := sameSections.exists_bodyOf distinct made.readBody
  have ruled := concurs_assemble_rules (Digest.ofText text) overrides made.header made.body moved
  rw [assembled] at ruled
  obtain ⟨reordered, assembledToo, rfl⟩ := ruled.exists_of_ok
  have redigested : Concurs (SameButDigest (Digest.ofText text) (Digest.ofText other))
      (assemble (Digest.ofText text) overrides made.header
        (.ok { made.body with rules := moved }))
      (assemble (Digest.ofText other) overrides made.header
        (.ok { made.body with rules := moved })) :=
    concurs_assemble
  rw [assembledToo] at redigested
  obtain ⟨later, compiledLater, same⟩ := redigested.exists_of_ok
  have sameMoved : later.rules = moved := by simpa using congrArg Template.rules same.others
  refine ⟨later, ?_, ?_, ?_⟩
  · rw [compile_eq_assemble, outlinedToo, ← compiledLater, ← readToo]
    rfl
  · rw [sameMoved]
    exact perm
  · rwa [sameMoved]

end Document

end Interview
