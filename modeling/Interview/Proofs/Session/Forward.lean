import Interview.Proofs.Protocol.Order
import Interview.Proofs.Session.Attempt
import Interview.Proofs.Session.Traversal
import Interview.Proofs.Session.Views

/-!
# Sessions go forward

No call takes an answer away, and a session that is in a phase stays in one. Whatever is attempted,
under whatever templates and protocols, a session therefore only goes forward through a template:
its status never goes back, no phase loses an answered question, and the next question never moves
back in the traversal order. When the next question itself is answered or skipped, it moves on.
-/

namespace Interview

variable {template : Template} {protocol : Protocol} {session next later : Session}
variable {question : Question} {call : Call} {attempts more : List Attempt}

/-- The place of a status in the course of a session. -/
def Status.rank : Status → Nat
  | .notStarted => 0
  | .inPhase => 1
  | .completed => 2

theorem Status.rank_le (status : Status) : status.rank ≤ Status.completed.rank := by
  cases status <;> decide

/-- The position of the next question in the traversal order, whose length it is when there is no
next question. -/
def Session.position (session : Session) (template : Template) : Nat :=
  match session.nextQuestion template with
  | some question => template.ordered.idxOf question
  | none => template.ordered.length

/-- What a later session has kept of an earlier one. -/
structure GoesOn (session later : Session) : Prop where
  answered : ∀ id, session.hasAnswer id → later.hasAnswer id
  begun : session.phase.isSome → later.phase.isSome

/-! ## What the calls keep -/

namespace GoesOn

theorem refl : GoesOn session session :=
  ⟨fun _ present => present, fun inside => inside⟩

theorem trans (first : GoesOn session next) (second : GoesOn next later) : GoesOn session later :=
  ⟨fun id present => second.answered id (first.answered id present),
    fun inside => second.begun (first.begun inside)⟩

/-- An accepted call takes no answer away. -/
theorem perform (accepted : session.perform template protocol call = .ok next) :
    GoesOn session next := by
  rcases Session.perform_ok_cases accepted with
    ⟨id, reply, question, rfl, -, -, -, rfl⟩ | ⟨rfl, -, rfl⟩ | ⟨rfl, -, rfl⟩
  · constructor
    · intro id present
      exact Session.hasAnswer_record.mpr (.inr present)
    · intro _
      rfl
  · exact { (refl : GoesOn session session) with }
  · exact { (refl : GoesOn session session) with }

/-- No list of attempts takes an answer away. -/
theorem afterAll (session : Session) (attempts : List Attempt) :
    GoesOn session (session.afterAll attempts) := by
  refine Session.afterAll_induction [] []
    (motive := fun _ _ later => GoesOn session later) refl ?accept ?refuse
  case accept =>
    intro attempt _ _ _ later next goes accepted
    exact goes.trans (perform accepted)
  case refuse =>
    intro _ _ _ _ _ _ goes _
    exact goes

end GoesOn

/-! ## Status, progress and position -/

namespace Session

theorem status_of_not_completed (pending : session.status template ≠ .completed) :
    session.status template = if session.phase.isNone then .notStarted else .inPhase := by
  unfold status at pending ⊢
  split
  next all => exact absurd (if_pos all) pending
  next => rfl

/-- All questions in front of the next one have an answer: it is the first that has none. -/
theorem position_eq_findIdx :
    session.position template = template.ordered.findIdx (!session.hasAnswer ·.id) := by
  unfold position
  cases found : session.nextQuestion template with
  | none =>
      symm
      rw [List.findIdx_eq_length]
      simpa [nextQuestion] using found
  | some question =>
      obtain ⟨before, after, split, answered, pending⟩ := nextQuestion_eq_some_iff.mp found
      have fresh : question ∉ before := fun member => pending (answered question member)
      have all : before.findIdx (!session.hasAnswer ·.id) = before.length := by
        rw [List.findIdx_eq_length]
        simpa using answered
      simp [split, List.idxOf_append, fresh, List.findIdx_append, all, List.findIdx_cons, pending]

end Session

namespace GoesOn

variable (goes : GoesOn session later)
include goes

theorem rank_status : (session.status template).rank ≤ (later.status template).rank := by
  by_cases completed : later.status template = .completed
  · rw [completed]
    exact Status.rank_le _
  · have pending : session.status template ≠ .completed := by
      intro before
      rcases Session.status_eq_completed_iff.mp before with ⟨nonempty, all⟩
      exact completed (Session.status_eq_completed_iff.mpr
        ⟨nonempty, fun question declared => goes.answered _ (all question declared)⟩)
    rw [Session.status_of_not_completed pending, Session.status_of_not_completed completed]
    cases begun : session.phase with
    | none => exact Nat.zero_le _
    | some phase =>
        obtain ⟨further, still⟩ := Option.isSome_iff_exists.mp (goes.begun (by simp [begun]))
        simp [still]

theorem progress (template : Template) :
    List.Forall₂ (fun before after : PhaseProgress =>
        before.phase = after.phase ∧ before.total = after.total ∧
          before.answered ≤ after.answered)
      (session.progress template) (later.progress template) := by
  unfold Session.progress
  rw [List.forall₂_map_left_iff, List.forall₂_map_right_iff, List.forall₂_same]
  intro phase _
  refine ⟨rfl, rfl, List.countP_mono_left fun question _ => ?_⟩
  exact goes.answered question.id

theorem position (template : Template) : session.position template ≤ later.position template := by
  rw [Session.position_eq_findIdx, Session.position_eq_findIdx]
  refine List.findIdx_le_findIdx fun question _ pending => ?_
  rw [Bool.not_eq_true', ← Bool.not_eq_true] at pending ⊢
  exact fun answered => pending (goes.answered _ answered)

/-- Once the next question is answered, another one further on is next, or none is. -/
theorem position_lt (found : session.nextQuestion template = some question)
    (answered : later.hasAnswer question.id) :
    session.position template < later.position template := by
  have member := (Session.nextQuestion_eq_some found).1
  -- At the same position the same question would be next, but it has an answer.
  refine Nat.lt_of_le_of_ne (goes.position template) fun same => ?_
  simp only [Session.position, found] at same
  cases further : later.nextQuestion template with
  | none =>
      rw [further] at same
      exact absurd same (Nat.ne_of_lt (List.idxOf_lt_length_of_mem member))
  | some other =>
      rw [further] at same
      have equal : question = other := (List.idxOf_inj member).mp same
      exact (Session.nextQuestion_eq_some further).2 (equal ▸ answered)

end GoesOn

/-! ## Main result -/

/-- Through whatever attempts, accepted or not, and under whatever templates and protocols, a session
only goes forward: between any two moments the status does not go back, the answered questions of no
phase become fewer, and the next question does not move back. An accepted answer or skip of the
question that is next moves it on. -/
theorem sessions_go_forward (template : Template) (session : Session)
    (attempts more : List Attempt) :
    let earlier := session.afterAll attempts
    let later := session.afterAll (attempts ++ more)
    (earlier.status template).rank ≤ (later.status template).rank ∧
      List.Forall₂ (fun before after : PhaseProgress =>
          before.phase = after.phase ∧ before.total = after.total ∧
            before.answered ≤ after.answered)
        (earlier.progress template) (later.progress template) ∧
      earlier.position template ≤ later.position template ∧
      ∀ protocol question reply next, earlier.nextQuestion template = some question →
        earlier.perform template protocol (.reply question.id reply) = .ok next →
          earlier.position template < next.position template := by
  intro earlier later
  have goes : GoesOn earlier later := by
    simp only [later, Session.afterAll_append]
    exact .afterAll earlier more
  refine ⟨goes.rank_status, goes.progress template, goes.position template, ?_⟩
  intro protocol question reply next found accepted
  refine (GoesOn.perform accepted).position_lt found ?_
  obtain ⟨asked, lookup, -, rfl⟩ := Session.perform_reply_ok accepted
  exact Session.hasAnswer_record.mpr (.inl (Template.mem_of_question? lookup).2.symm)

theorem sessions_go_forward_sample :
    ∃ next,
      (Session.start "s").nextQuestion .sample = Template.sample.question? "name" ∧
      (Session.start "s").perform .sample .sample (.reply "name" .skip) = .ok next ∧
      (Session.start "s").position .sample < next.position .sample := by
  obtain ⟨-, -, -, moves⟩ := sessions_go_forward .sample (Session.start "s") [] []
  exact ⟨_, rfl, rfl, moves .sample _ .skip _ rfl rfl⟩

end Interview
