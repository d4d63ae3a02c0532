import Interview.Proofs.Session.Strict
import Interview.Proofs.Session.Traversal

/-!
# When a strict session can be led through its template

The next question follows the order of the template, the gate that of the protocol. They agree in
every session that can be reached exactly when each phase with questions is followed in the protocol
by the next phase with questions in the template. For a protocol with the phases of the template
this means that no phase without questions stands between two that have some.
-/

namespace Interview

variable {template : Template} {protocol : Protocol} {session : Session} {question : Question}
variable {calls : List Call} {opening current id : String} {passed : List String}

/-- Where the phases with questions are a chain of the protocol, a strict session is asked for
questions of its current phase only. -/
theorem OnCourse.phase_nextQuestion
    (course : OnCourse template protocol opening calls session passed current)
    (checked : template.IsChecked) (opens : template.openingPhase? = some opening)
    (chains : protocol.Chains template.occupiedPhases)
    (next : session.nextQuestion template = some question) : question.phase = current := by
  have answered : ∀ question ∈ template.questions, question.phase ∈ passed →
      session.hasAnswer question.id := fun question declared behind =>
    (isPhaseComplete_iff.mp (course.complete _ behind)).2 question declared rfl
  rcases Session.nextQuestion_eq_some next with ⟨member, pending⟩
  have declared := checked.mem_ordered.mp member
  have beyond : question.phase ∉ passed := fun behind => pending (answered _ declared behind)
  have sameStart : (passed ++ [current]).head? = template.occupiedPhases.head? := by
    rw [course.start, ← Template.openingPhase?_eq, opens]
  have reached : passed ++ [current] <+: template.occupiedPhases := by
    rcases course.chain.prefix_or_prefix chains sameStart with further | short
    · exact further
    · rcases List.prefix_concat_iff.mp short with same | shorter
      · exact same ▸ List.prefix_rfl
      · exact absurd (shorter.subset (checked.phase_mem_occupied declared)) beyond
  rcases reached with ⟨after, split⟩
  by_cases complete : isPhaseComplete template session.answers current
  · -- A complete current phase is the last one, so that no other phase is left for the question.
    have last : after = [] := by
      cases after with
      | nil => rfl
      | cons phase after =>
          rw [← split, List.append_assoc] at chains
          have successor := chains.nextPhase_eq
          rw [course.waits complete] at successor
          cases successor
    have occupied := checked.phase_mem_occupied declared
    rw [← split, last, List.append_nil, List.mem_append, List.mem_singleton] at occupied
    exact occupied.resolve_left beyond
  · obtain ⟨first, found, belongs⟩ :=
      Session.nextQuestion_phase (by simpa using split.symm) answered complete
    cases next.symm.trans found
    exact belongs

section

variable (checked : template.IsChecked) (sound : protocol.IsChecked)
variable (strict : protocol.strictPhases = true)
include checked sound strict

/-- Where the phases with questions are a chain of the protocol, the next question of a strict
session always lies in an open phase. -/
theorem phase_mem_openPhases (chains : protocol.Chains template.occupiedPhases)
    (run : (Session.start id).performAll template protocol calls = .ok session)
    (next : session.nextQuestion template = some question) :
    question.phase ∈ session.openPhases template protocol := by
  have declared := checked.mem_ordered.mp (Session.nextQuestion_eq_some next).1
  rcases checked.openingPhase?_isSome declared with ⟨opening, opens⟩
  rcases OnCourse.of_run checked sound strict opens run with ⟨passed, current, course⟩
  rw [course.openPhases_eq opens, course.phase_nextQuestion checked opens chains next]
  exact List.mem_singleton_self current

omit sound strict in
/-- If no question of a phase or of a later one is answered, only phases before it were passed. -/
theorem OnCourse.passed_subset {front after : List String} {phase : String}
    (course : OnCourse template protocol opening calls session passed current)
    (split : template.occupiedPhases = front ++ phase :: after)
    (untouched : ∀ question ∈ template.questions, question.phase ∈ phase :: after →
      ¬ session.hasAnswer question.id) : passed ⊆ front := by
  intro other behind
  obtain ⟨question, declared, rfl, answered⟩ :=
    exists_answered_of_complete (course.complete other behind)
  have occupied := checked.phase_mem_occupied declared
  rw [split, List.mem_append] at occupied
  exact occupied.resolve_right fun later => untouched question declared later answered

omit strict in
/-- A session that finds a phase open, with nothing answered from it on, has come to it through the
phases with questions before it. If these are a chain of the protocol, the phase continues it. -/
theorem OnCourse.chains_concat {front after : List String} {phase : String}
    (course : OnCourse template protocol opening calls session passed phase)
    (opens : template.openingPhase? = some opening)
    (split : template.occupiedPhases = front ++ phase :: after) (chains : protocol.Chains front)
    (untouched : ∀ question ∈ template.questions, question.phase ∈ phase :: after →
      ¬ session.hasAnswer question.id) :
    protocol.Chains (front ++ [phase]) := by
  cases front with
  | nil => exact Protocol.chains_singleton
  | cons first front =>
      have fresh : phase ∉ first :: front := by
        have distinct := checked.occupiedPhases_nodup
        rw [split, List.nodup_append] at distinct
        exact fun old => distinct.2.2 phase old phase (by simp) rfl
      have sameStart : (first :: front).head? = (passed ++ [phase]).head? := by
        rw [course.start, ← opens, Template.openingPhase?_eq, split]
        rfl
      have begins : first :: front <+: passed := by
        rcases chains.prefix_or_prefix course.chain sameStart with short | further
        · rcases List.prefix_concat_iff.mp short with same | shorter
          · exact absurd (same ▸ by simp) fresh
          · exact shorter
        · exact absurd (further.subset (by simp)) fresh
      have distinct := (course.chain.nodup sound.phases_nodup).sublist
        (List.sublist_append_left passed [phase])
      have noOther :=
        List.subperm_of_subset distinct (course.passed_subset checked split untouched)
      rw [begins.eq_of_length_le noOther.length_le]
      exact course.chain

/-- A strict traversal that is not stopped finds the phases with questions one after the other in
the protocol. -/
theorem chains_of_traverse {choose : Session → Question → Value}
    (finished : ((Session.start id).traverse template protocol choose).refusal = none) :
    protocol.Chains template.occupiedPhases := by
  -- The chain grows by one phase at a time, each of which the traversal comes by.
  have grows : ∀ front after, template.occupiedPhases = front ++ after →
      protocol.Chains front := by
    intro front
    induction front using List.reverseRecOn with
    | nil => exact fun _ _ => List.isChain_nil
    | append_singleton front phase ih =>
        intro after split
        rw [List.append_assoc, List.singleton_append] at split
        obtain ⟨calls, middle, run, opened, untouched⟩ :=
          Session.exists_run_to_phase checked split finished
            (by simp [Session.hasAnswer, Session.start])
        have occupied : phase ∈ template.occupiedPhases := by simp [split]
        obtain ⟨question, member⟩ :=
          List.exists_mem_of_ne_nil _ (Template.mem_occupiedPhases.mp occupied).2
        obtain ⟨opening, opens⟩ :=
          checked.openingPhase?_isSome (Template.mem_inPhase.mp member).1
        rcases OnCourse.of_run checked sound strict opens run with ⟨passed, current, course⟩
        have same : phase = current := by
          simpa [course.openPhases_eq opens] using opened strict
        exact (same ▸ course).chains_concat checked sound opens split (ih _ split) untouched
  exact grows _ [] (by simp)

end

/-- Where the gate is open for the next question in every session that can be reached, a traversal
from the start is not stopped. -/
theorem refusal_traverse_start (checked : template.IsChecked)
    (enough : (template.questions.length : Int) ≤ protocol.maxQuestions)
    (opened : ∀ calls session,
      (Session.start id).performAll template protocol calls = .ok session →
        ∀ question, session.nextQuestion template = some question →
          question.phase ∈ session.openPhases template protocol)
    (choose : Session → Question → Value) :
    ((Session.start id).traverse template protocol choose).refusal = none := by
  refine Session.refusal_traverse_eq_none checked opened ?_
  rw [Session.length_unanswered_start checked]
  simpa [Session.start] using enough

/-- A protocol with the phases of the template makes a chain of those with questions exactly when
none without questions stands between two of them. -/
theorem chains_occupiedPhases_iff (checked : template.IsChecked)
    (samePhases : protocol.phases = template.phases) :
    protocol.Chains template.occupiedPhases ↔
      ∀ first between last, [first, between, last].Sublist template.phases →
        template.inPhase first ≠ [] → template.inPhase last ≠ [] →
          template.inPhase between ≠ [] := by
  have distinct := checked.phases_nodup
  have neighbours : protocol.Chains template.occupiedPhases ↔
      template.occupiedPhases.IsChain fun phase next => [phase, next] <:+: template.phases := by
    refine List.IsChain.iff fun phase next => ?_
    rw [Protocol.nextPhase_eq_some_iff (samePhases ▸ distinct), samePhases]
  rw [neighbours, Template.occupiedPhases, Protocol.isChain_filter_iff distinct]
  simp [Protocol.LeavesNoGap]

/-! ## Main results -/

/-- In a strict session the gate is always open for the next question exactly when each phase with
questions is followed in the protocol by the next phase with questions in the template. -/
theorem gate_agrees_with_template_iff (checked : template.IsChecked) (sound : protocol.IsChecked)
    (strict : protocol.strictPhases = true)
    (enough : (template.questions.length : Int) ≤ protocol.maxQuestions) (id : String) :
    (∀ calls session, (Session.start id).performAll template protocol calls = .ok session →
      ∀ question, session.nextQuestion template = some question →
        question.phase ∈ session.openPhases template protocol) ↔
      template.occupiedPhases.IsChain fun phase next => protocol.nextPhase phase = some next := by
  constructor
  · intro opened
    exact chains_of_traverse checked sound strict
      (refusal_traverse_start checked enough opened fun _ _ => .null)
  · intro chains calls session run question next
    exact phase_mem_openPhases checked sound strict chains run next

theorem gate_agrees_with_template_sample :
    Template.sample.IsChecked ∧ Protocol.sample.IsChecked ∧ Protocol.sample.strictPhases = true ∧
      (Template.sample.questions.length : Int) ≤ Protocol.sample.maxQuestions ∧
      ∀ calls session, (Session.start "s").performAll .sample .sample calls = .ok session →
        ∀ question, session.nextQuestion .sample = some question →
          question.phase ∈ session.openPhases .sample .sample := by
  refine ⟨Template.sample_isChecked, Protocol.sample_isChecked, rfl, by decide, ?_⟩
  have agrees := gate_agrees_with_template_iff Template.sample_isChecked
    Protocol.sample_isChecked rfl (by decide) "s"
  exact agrees.mpr (List.isChain_pair.mpr (by decide))

/-- Under a strict protocol with the phases of the template, answering the next question until there
is none is never refused and completes the template exactly when no phase without questions stands
between two phases with questions. -/
theorem strict_traversal_completes_iff (checked : template.IsChecked) (sound : protocol.IsChecked)
    (strict : protocol.strictPhases = true) (samePhases : protocol.phases = template.phases)
    (nonempty : template.questions ≠ [])
    (enough : (template.questions.length : Int) ≤ protocol.maxQuestions) (id : String)
    (choose : Session → Question → Value) :
    (((Session.start id).traverse template protocol choose).refusal = none ∧
      ((Session.start id).traverse template protocol choose).session.status template =
        .completed) ↔
      ∀ first between last, [first, between, last].Sublist template.phases →
        template.inPhase first ≠ [] → template.inPhase last ≠ [] →
          template.inPhase between ≠ [] := by
  rw [← chains_occupiedPhases_iff checked samePhases]
  constructor
  · rintro ⟨finished, -⟩
    exact chains_of_traverse checked sound strict finished
  · intro chains
    have finished : ((Session.start id).traverse template protocol choose).refusal = none :=
      refusal_traverse_start checked enough (fun calls session run question next =>
        phase_mem_openPhases checked sound strict chains run next) choose
    have all := (Session.nextQuestion_eq_none checked).mp (Session.nextQuestion_traverse finished)
    exact ⟨finished, Session.status_eq_completed_iff.mpr ⟨nonempty, all⟩⟩

theorem strict_traversal_completes_sample :
    Protocol.sample.phases = Template.sample.phases ∧
      ((Session.start "s").traverse .sample .sample fun _ _ => .null).refusal = none ∧
      ((Session.start "s").traverse .sample .sample fun _ _ => .null).session.status .sample =
        .completed := by
  have completes := strict_traversal_completes_iff Template.sample_isChecked
    Protocol.sample_isChecked rfl rfl (by decide) (by decide) "s" fun _ _ => .null
  refine ⟨rfl, completes.mpr fun first between last inside _ held => absurd ?_ held⟩
  cases inside.eq_of_length rfl
  decide

/-- The sample without the questions of its middle phase. -/
def Template.gapped : Template :=
  { Template.sample with
    questions :=
      [{ id := "name", phase := "greet", text := "Who are you?", type := .freeText
         options := none },
       { id := "thanks", phase := "close", text := "Anything else?", type := .freeText
         options := none }] }

theorem Template.gapped_isChecked : Template.gapped.IsChecked where
  identifier := rfl
  name := rfl
  category := rfl
  info := rfl
  sourceRef := rfl
  questions := by decide
  sound := by decide

/-- A strict session does not get through every template in the order of its own phases: it is
stopped behind a phase without questions. -/
theorem strict_traversal_stopped_at_gap :
    ¬ ∀ (template : Template) (protocol : Protocol) (id : String)
      (choose : Session → Question → Value), template.IsChecked → protocol.IsChecked →
        protocol.strictPhases = true → protocol.phases = template.phases →
          template.questions ≠ [] →
            (template.questions.length : Int) ≤ protocol.maxQuestions →
              ((Session.start id).traverse template protocol choose).refusal = none ∧
                ((Session.start id).traverse template protocol choose).session.status template =
                  .completed := by
  intro claim
  obtain ⟨finished, -⟩ := claim .gapped .sample "s" (fun _ _ => .null) Template.gapped_isChecked
    Protocol.sample_isChecked rfl rfl (by decide) (by decide)
  have chains : Protocol.sample.Chains ["greet", "close"] :=
    chains_of_traverse Template.gapped_isChecked Protocol.sample_isChecked rfl finished
  rcases List.isChain_cons_cons.mp chains with ⟨successor, -⟩
  exact absurd successor (by decide)

end Interview
