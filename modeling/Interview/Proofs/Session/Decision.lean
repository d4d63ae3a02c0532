import Interview.Proofs.Session.Advance

/-!
# How a reply is decided

A reply can be refused for four reasons, and several of them can be there at once. They are looked
for in a fixed order, and the first one found is the one that is told. If none is found, the reply
is recorded, and `Recorded` says what becomes of the session. All this holds of every session, also
of one that no run leads to: its counters may be beyond their limits, and its current phase may be
one that the protocol does not know.
-/

namespace Interview

variable {template : Template} {protocol : Protocol} {session next : Session}
variable {question : Question} {given : Reply} {id phase current : String}

namespace Session

/-! ## What an accepted reply leaves -/

/-- The phase that a reply to a question sets out from: the current phase, or that of the question
where there is no current phase or one without a name. -/
def SetsOutFrom (session : Session) (question : Question) (current : String) : Prop :=
  (session.phase = some current ∧ current ≠ "") ∨
    ((session.phase = none ∨ session.phase = some "") ∧ current = question.phase)

theorem setsOutFrom_iff :
    session.SetsOutFrom question current ↔ current = session.phaseOr question.phase := by
  unfold SetsOutFrom phaseOr
  cases session.phase with
  | none => simp
  | some standing =>
      by_cases nameless : standing = ""
      · subst nameless
        simp
      · have own : standing = current ∧ current ≠ "" ↔ current = standing :=
          ⟨fun both => both.1.symm, fun same => ⟨same.symm, same ▸ nameless⟩⟩
        simp [nameless, own]

/-- What becomes of a session with an accepted reply. The reply is kept under its question and
counted. The session moves on to the phase after the one it sets out from, where the protocol has
such a phase and the phase of the question is covered; else it stays and counts the reply there. -/
structure Recorded (template : Template) (protocol : Protocol) (session : Session)
    (question : Question) (given : Reply) (next : Session) : Prop where
  id : next.id = session.id
  answer : next.answers.find? question.id = some given.value
  others : ∀ other, other ≠ question.id → next.answers.find? other = session.answers.find? other
  followups : next.followups = session.followups
  drifts : next.drifts = session.drifts
  asked : next.asked = session.asked + 1
  moves : ∀ current further, session.SetsOutFrom question current →
    protocol.nextPhase current = some further →
      (∀ other ∈ template.questions, other.phase = question.phase → next.hasAnswer other.id) →
        next.phase = some further ∧ next.askedInPhase = 0
  stays : ∀ current, session.SetsOutFrom question current →
    (protocol.nextPhase current = none ∨
        ∃ other ∈ template.questions, other.phase = question.phase ∧ ¬ next.hasAnswer other.id) →
      next.phase = some current ∧ next.askedInPhase = session.askedInPhase + 1

theorem recorded_record (declared : question ∈ template.questions) :
    Recorded template protocol session question given
      (session.record template protocol question given) := by
  have occupied : template.inPhase question.phase ≠ [] :=
    List.ne_nil_of_mem (Template.mem_inPhase.mpr ⟨declared, rfl⟩)
  have complete_iff :
      isPhaseComplete template (session.answers.put question.id given.value) question.phase ↔
        ∀ other ∈ template.questions, other.phase = question.phase →
          (session.record template protocol question given).hasAnswer other.id := by
    rw [isPhaseComplete_iff]
    exact and_iff_right occupied
  exact
    { id := rfl
      answer := Entries.find?_put_self
      others := fun other differs => Entries.find?_put_of_ne (Ne.symm differs)
      followups := rfl
      drifts := rfl
      asked := rfl
      moves := by
        intro current further setsOut successor covered
        obtain rfl := setsOutFrom_iff.mp setsOut
        have advanced : session.advance? template protocol question given = some further := by
          rw [advance?, if_pos (complete_iff.mpr covered), successor]
        simp [advanced]
      stays := by
        intro current setsOut held
        obtain rfl := setsOutFrom_iff.mp setsOut
        have remains : session.advance? template protocol question given = none := by
          unfold advance?
          split
          next complete =>
              rcases held with last | ⟨other, otherDeclared, belongs, pending⟩
              · exact last
              · exact absurd (complete_iff.mp complete other otherDeclared belongs) pending
          next => rfl
        simp [remains] }

/-! ## Why a reply is refused -/

/-- A question that is not declared is refused as unknown. -/
theorem reply_of_undeclared (undeclared : template.declares id = false) :
    session.reply template protocol id given =
      .error (.unknownQuestion id template.identifier) := by
  have absent : template.question? id = none := by
    rw [Template.question?, List.find?_eq_none]
    simpa [Template.declares] using undeclared
  rw [Session.reply, absent]

/-- A reply to a declared question is refused for its phase first, then for the limit. -/
theorem reply_of_declared (checked : template.IsChecked) (declared : question ∈ template.questions) :
    session.reply template protocol question.id given =
      if protocol.strictPhases = true ∧ question.phase ∉ session.openPhases template protocol then
        .error (.phaseClosed question.id question.phase (session.openPhases template protocol))
      else if protocol.maxQuestions ≤ session.asked then
        .error (.limitReached .questions protocol.maxQuestions)
      else .ok (session.record template protocol question given) := by
  have spent : protocol.maxQuestions < session.asked + 1 ↔
      protocol.maxQuestions ≤ session.asked :=
    Int.lt_add_one_iff
  have refused : session.refusal? template protocol question =
      if protocol.strictPhases = true ∧ question.phase ∉ session.openPhases template protocol then
        some (.phaseClosed question.id question.phase (session.openPhases template protocol))
      else if protocol.maxQuestions ≤ session.asked then
        some (.limitReached .questions protocol.maxQuestions)
      else none := by
    simp [refusal?, spent]
  rw [Session.reply, checked.question?_eq declared]
  by_cases closed :
      protocol.strictPhases = true ∧ question.phase ∉ session.openPhases template protocol
  · simp only [refused, if_pos closed]
  · by_cases full : protocol.maxQuestions ≤ session.asked <;>
      simp only [refused, if_neg closed, full, if_true, if_false]

end Session

/-! ## Main result -/

/-- The outcome of an answer or a skip, in the order in which it is decided: a skip that the protocol
forbids, a question that the template does not declare, an enforced phase that is not open, the
limit on questions. If none of these is there, the reply is accepted and recorded. -/
theorem reply_is_decided_in_order (checked : template.IsChecked) (protocol : Protocol)
    (session : Session) (id : String) (given : Reply) :
    let outcome := session.perform template protocol (.reply id given)
    (given = .skip → protocol.allowSkipping = false → outcome = .error (.skipForbidden id)) ∧
    ((given = .skip → protocol.allowSkipping = true) →
      ((∀ question ∈ template.questions, question.id ≠ id) →
        outcome = .error (.unknownQuestion id template.identifier)) ∧
      ∀ question ∈ template.questions, question.id = id →
        let openPhases := session.openPhases template protocol
        (protocol.strictPhases = true → question.phase ∉ openPhases →
          outcome = .error (.phaseClosed id question.phase openPhases)) ∧
        ((protocol.strictPhases = true → question.phase ∈ openPhases) →
          (protocol.maxQuestions ≤ session.asked →
            outcome = .error (.limitReached .questions protocol.maxQuestions)) ∧
          (session.asked < protocol.maxQuestions →
            ∃ next, outcome = .ok next ∧
              session.Recorded template protocol question given next))) := by
  intro outcome
  refine ⟨?_, fun allowed => ?_⟩
  · rintro rfl forbidden
    simp [outcome, Session.perform, Session.skip, forbidden]
  · have made : outcome = session.reply template protocol id given :=
      Session.perform_reply allowed
    refine ⟨fun undeclared => ?_, ?_⟩
    · rw [made]
      exact Session.reply_of_undeclared (by simpa [Template.declares] using undeclared)
    · rintro question declared rfl openPhases
      rw [Session.reply_of_declared checked declared] at made
      refine ⟨fun strict closed => ?_, fun opened => ⟨fun spent => ?_, fun room => ?_⟩⟩
      · rw [made, if_pos ⟨strict, closed⟩]
      · rw [made, if_neg fun closed => closed.2 (opened closed.1), if_pos spent]
      · refine ⟨_, ?_, Session.recorded_record declared⟩
        rw [made, if_neg fun closed => closed.2 (opened closed.1), if_neg (Int.not_le.mpr room)]

/-- A session in the last phase of the sample, with more answers counted than its limit allows. -/
def Session.overrun : Session :=
  { Session.start "s" with phase := some "close", asked := 9 }

/-- Of two reasons the closed phase is the one that is told; where phases are not enforced, it is the
limit. At the start the same question is answered. -/
theorem reply_is_decided_in_order_sample :
    Template.sample.IsChecked ∧
      Session.overrun.perform .sample .sample (.reply "name" .skip) =
        .error (.phaseClosed "name" "greet" ["close"]) ∧
      Session.overrun.perform .sample .free (.reply "name" .skip) =
        .error (.limitReached .questions 5) ∧
      ∃ question next,
        (Session.start "s").perform .sample .sample (.reply "name" (.answer (.text "Ann"))) =
          .ok next ∧
        (Session.start "s").Recorded .sample .sample question (.answer (.text "Ann")) next := by
  have checked := Template.sample_isChecked
  let name : Question :=
    { id := "name", phase := "greet", text := "Who are you?", type := .freeText, options := none }
  have declared : name ∈ Template.sample.questions := by decide
  have strict := reply_is_decided_in_order checked .sample Session.overrun "name" .skip
  have free := reply_is_decided_in_order checked .free Session.overrun "name" .skip
  have start := reply_is_decided_in_order checked .sample (Session.start "s") "name"
    (.answer (.text "Ann"))
  obtain ⟨closed, -⟩ := (strict.2 fun _ => rfl).2 name declared rfl
  obtain ⟨-, opened⟩ := (free.2 fun _ => rfl).2 name declared rfl
  obtain ⟨-, admitted⟩ := (start.2 fun skip => by cases skip).2 name declared rfl
  obtain ⟨next, accepted, recorded⟩ := (admitted fun _ => by decide).2 (by decide)
  exact ⟨checked, closed rfl (by decide), (opened fun enforced => absurd enforced (by decide)).1 (by decide),
    name, next, accepted, recorded⟩

end Interview
