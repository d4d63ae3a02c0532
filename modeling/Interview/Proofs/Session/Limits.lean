import Interview.Proofs.Protocol.Order
import Interview.Proofs.Session.Attempt
import Interview.Proofs.Template.Structure

/-!
# The limits of a session

A protocol limits the replies, the follow-ups and the digressions of a session. Each kind of call
has counters of its own, which no call of another kind touches, and an attempt that would lead
beyond a limit is refused and not counted. After any attempts under one protocol, accepted or not,
the counters of follow-ups and digressions therefore tell how many were attempted, up to the limit.
-/

namespace Interview

/-- The kinds of calls, each with counters of its own. -/
inductive Call.Kind where
  | reply
  | followUp
  | drift
deriving DecidableEq, Repr

/-- The kind of a call. -/
def Call.kind : Call → Call.Kind
  | .reply _ _ => .reply
  | .followUp => .followUp
  | .drift => .drift

/-- How many attempts are of a kind. -/
def countOf (kind : Call.Kind) (attempts : List Attempt) : Nat :=
  attempts.countP (·.call.kind = kind)

/-- Between two sessions, only the counters of one kind of call have moved. -/
structure MovesOnly (kind : Call.Kind) (session next : Session) : Prop where
  id : next.id = session.id
  asked : kind ≠ .reply →
    next.asked = session.asked ∧ next.askedInPhase = session.askedInPhase
  followups : kind ≠ .followUp → next.followups = session.followups
  drifts : kind ≠ .drift → next.drifts = session.drifts

/-- The counters of a session, where `made` are the attempts so far and `granted` those of them that
were accepted. -/
structure WithinLimits (protocol : Protocol) (made granted : List Attempt) (session : Session) :
    Prop where
  asked : session.asked ≤ protocol.maxQuestions
  followups : session.followups = min (countOf .followUp made : Int) protocol.maxFollowups
  drifts : session.drifts = min (countOf .drift made : Int) protocol.driftHardLimit
  accepted : session.drifts = countOf .drift granted

section

variable {template : Template} {protocol : Protocol} {session next : Session} {attempt : Attempt}
variable {made granted attempts : List Attempt} {refusal : Refusal} {id : String} {reply : Reply}
variable {call : Call} {kind : Call.Kind} {flagged : Bool}

theorem countOf_concat :
    countOf kind (made ++ [attempt]) =
      countOf kind made + if attempt.call.kind = kind then 1 else 0 := by
  simp [countOf, List.countP_singleton]

/-! ## Single calls -/

namespace Session

theorem maxFollowups_lt_of_error (refused : session.followUp protocol = .error refusal) :
    protocol.maxFollowups < session.followups + 1 := by
  unfold followUp at refused
  split at refused
  next beyond => exact beyond
  next => cases refused

theorem drift_flag_eq (accepted : session.drift protocol = .ok (flagged, next)) :
    flagged = decide (protocol.driftSoftLimit < session.drifts + 1) := by
  simp only [drift] at accepted
  split at accepted
  next => cases accepted
  next =>
      cases accepted
      rfl

theorem driftHardLimit_lt_of_error (refused : (session.drift protocol).map Prod.snd = .error refusal) :
    protocol.driftHardLimit < session.drifts + 1 := by
  simp only [drift] at refused
  split at refused
  next beyond => exact beyond
  next => cases refused

/-- When the questions of a session are used up, no reply is accepted. -/
theorem kind_ne_reply (spent : session.asked = protocol.maxQuestions)
    (accepted : session.perform template protocol call = .ok next) : call.kind ≠ .reply := by
  rcases perform_ok_cases accepted with
    ⟨_, _, question, -, -, -, admitted, -⟩ | ⟨rfl, -, -⟩ | ⟨rfl, -, -⟩
  · have room := (refusal?_eq_none.mp admitted).2
    omega
  · simp [Call.kind]
  · simp [Call.kind]

theorem reply_refused (spent : session.asked = protocol.maxQuestions) :
    ∃ refusal, session.perform template protocol (.reply id reply) = .error refusal := by
  cases outcome : session.perform template protocol (.reply id reply) with
  | error refusal => exact ⟨refusal, rfl⟩
  | ok next => exact absurd rfl (kind_ne_reply spent outcome)

/-- An attempt touches no counter of another kind and not the id of the session. -/
theorem movesOnly_after (session : Session) (attempt : Attempt) :
    MovesOnly attempt.call.kind session (session.after attempt) := by
  cases outcome : attempt.on session with
  | error refusal =>
      rw [after_of_error outcome]
      exact ⟨rfl, fun _ => ⟨rfl, rfl⟩, fun _ => rfl, fun _ => rfl⟩
  | ok next =>
      rw [after_of_ok outcome]
      rcases perform_ok_cases outcome with
        ⟨id, reply, question, called, -, -, -, rfl⟩ | ⟨called, -, rfl⟩ | ⟨called, -, rfl⟩
      · rw [called]
        exact ⟨rfl, fun other => absurd rfl other, fun _ => rfl, fun _ => rfl⟩
      · rw [called]
        exact ⟨rfl, fun _ => ⟨rfl, rfl⟩, fun other => absurd rfl other, fun _ => rfl⟩
      · rw [called]
        exact ⟨rfl, fun _ => ⟨rfl, rfl⟩, fun _ => rfl, fun other => absurd rfl other⟩

/-- Questions that are used up stay so. -/
theorem asked_afterAll (same : ∀ attempt ∈ attempts, attempt.protocol = protocol)
    (spent : session.asked = protocol.maxQuestions) :
    (session.afterAll attempts).asked = protocol.maxQuestions := by
  refine afterAll_induction [] []
    (motive := fun _ _ session => session.asked = protocol.maxQuestions) spent ?accept ?refuse
  case accept =>
    intro attempt member _ _ session next spent accepted
    obtain rfl := same attempt member
    have moves := movesOnly_after session attempt
    rw [after_of_ok accepted] at moves
    rw [(moves.asked (kind_ne_reply spent accepted)).1, spent]
  case refuse =>
    intro _ _ _ _ _ _ spent _
    exact spent

end Session

/-! ## Lists of attempts -/

namespace WithinLimits

theorem start (sound : protocol.IsChecked) (id : String) :
    WithinLimits protocol [] [] (Session.start id) where
  asked := Int.le_trans Int.one_nonneg sound.one_le_maxQuestions
  followups := (Int.min_eq_left sound.zero_le_maxFollowups).symm
  drifts := (Int.min_eq_left (Int.le_trans sound.zero_le_driftSoftLimit sound.soft_le_hard)).symm
  accepted := rfl

variable (within : WithinLimits protocol made granted session) (same : attempt.protocol = protocol)
include within same

/-- An accepted attempt had room below its limit, which the counter had not reached before. -/
theorem accept (accepted : attempt.on session = .ok next) :
    WithinLimits protocol (made ++ [attempt]) (granted ++ [attempt]) next := by
  subst same
  rcases within with ⟨asked, followups, drifts, counted⟩
  rcases Session.perform_ok_cases accepted with
    ⟨id, reply, question, called, -, -, admitted, rfl⟩ | ⟨called, room, rfl⟩ | ⟨called, room, rfl⟩
  · exact
      { asked := (Session.refusal?_eq_none.mp admitted).2
        followups := by simpa [countOf_concat, called, Call.kind] using followups
        drifts := by simpa [countOf_concat, called, Call.kind] using drifts
        accepted := by simpa [countOf_concat, called, Call.kind] using counted }
  · exact
      { asked := asked
        followups := by
          simp only [countOf_concat, called, Call.kind, if_true]
          omega
        drifts := by simpa [countOf_concat, called, Call.kind] using drifts
        accepted := by simpa [countOf_concat, called, Call.kind] using counted }
  · exact
      { asked := asked
        followups := by simpa [countOf_concat, called, Call.kind] using followups
        drifts := by
          simp only [countOf_concat, called, Call.kind, if_true]
          omega
        accepted := by simp [countOf_concat, called, Call.kind, counted] }

/-- A follow-up or a digression is refused because its counter has reached the limit, where it stays
however many more are attempted. -/
theorem refuse (refused : attempt.on session = .error refusal) :
    WithinLimits protocol (made ++ [attempt]) granted session := by
  subst same
  rcases within with ⟨asked, followups, drifts, counted⟩
  rw [Attempt.on] at refused
  cases called : attempt.call with
  | reply id reply =>
      exact
        { asked := asked
          followups := by simpa [countOf_concat, called, Call.kind] using followups
          drifts := by simpa [countOf_concat, called, Call.kind] using drifts
          accepted := counted }
  | followUp =>
      rw [called] at refused
      have full := Session.maxFollowups_lt_of_error refused
      exact
        { asked := asked
          followups := by
            simp only [countOf_concat, called, Call.kind, if_true]
            omega
          drifts := by simpa [countOf_concat, called, Call.kind] using drifts
          accepted := counted }
  | drift =>
      rw [called] at refused
      have full := Session.driftHardLimit_lt_of_error refused
      exact
        { asked := asked
          followups := by simpa [countOf_concat, called, Call.kind] using followups
          drifts := by
            simp only [countOf_concat, called, Call.kind, if_true]
            omega
          accepted := counted }

omit within same in
/-- After any attempts under one protocol the session is within its limits. -/
theorem afterAll (sound : protocol.IsChecked) (id : String)
    (same : ∀ attempt ∈ attempts, attempt.protocol = protocol) :
    WithinLimits protocol attempts ((Session.start id).accepted attempts)
      ((Session.start id).afterAll attempts) := by
  refine Session.afterAll_induction [] [] (motive := WithinLimits protocol)
    (start sound id) ?accept ?refuse
  case accept =>
    intro attempt member _ _ _ _ within accepted
    exact within.accept (same attempt member) accepted
  case refuse =>
    intro attempt member _ _ _ _ within refused
    exact within.refuse (same attempt member) refused

end WithinLimits

end

/-! ## Main result -/

/-- Whatever is attempted in whatever order under a protocol, the replies never exceed the limit of
questions, and once they have reached it no further one is accepted. Follow-ups and digressions are
counted up to their limits, an accepted digression is marked when more than the soft limit allows
are accepted with it, and a call leaves the counters of other kinds and the id alone. -/
theorem limits_hold {protocol : Protocol} (sound : protocol.IsChecked) (template : Template)
    (id : String) (calls : List Call) :
    let attempts := calls.map (Attempt.mk template protocol)
    let session := (Session.start id).afterAll attempts
    session.asked ≤ protocol.maxQuestions ∧
      (session.asked = protocol.maxQuestions → ∀ (more : List Call) question reply, ∃ refusal,
        (session.afterAll (more.map (.mk template protocol))).perform template protocol
          (.reply question reply) = .error refusal) ∧
      session.followups = min (countOf .followUp attempts : Int) protocol.maxFollowups ∧
      session.drifts = min (countOf .drift attempts : Int) protocol.driftHardLimit ∧
      (∀ flagged next, session.drift protocol = .ok (flagged, next) →
        (flagged = true ↔ protocol.driftSoftLimit <
          countOf .drift ((Session.start id).accepted attempts) + 1)) ∧
      ∀ call, MovesOnly call.kind session (session.after ⟨template, protocol, call⟩) := by
  intro attempts session
  have same : ∀ calls : List Call, ∀ attempt ∈ calls.map (Attempt.mk template protocol),
      attempt.protocol = protocol := by
    simp
  have within := WithinLimits.afterAll sound id (same calls)
  refine ⟨within.asked, ?_, within.followups, within.drifts, ?_, ?_⟩
  · intro spent more question reply
    exact Session.reply_refused (Session.asked_afterAll (same more) spent)
  · intro flagged next accepted
    rw [Session.drift_flag_eq accepted, within.accepted, decide_eq_true_iff]
  · intro call
    exact Session.movesOnly_after session ⟨template, protocol, call⟩

theorem limits_hold_sample :
    Protocol.sample.IsChecked ∧
      let session := (Session.start "s").afterAll
        ([.drift, .followUp, .drift, .followUp, .drift].map (.mk .sample .sample))
      session.followups = 1 ∧ session.drifts = 2 := by
  obtain ⟨-, -, followups, drifts, -⟩ :=
    limits_hold Protocol.sample_isChecked .sample "s" [.drift, .followUp, .drift, .followUp, .drift]
  exact ⟨Protocol.sample_isChecked, followups, drifts⟩

end Interview
