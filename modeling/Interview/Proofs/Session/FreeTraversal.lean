import Interview.Proofs.Session.Decision
import Interview.Proofs.Session.Traversal

/-!
# Going through a template freely

Where phases are not enforced, the limit on questions alone can stop a traversal. The questions
without an answer then stand in line: an accepted answer takes the first of them and leaves the
others in their order, and the limit has room for a number of answers that each of them uses up by
one. So a traversal answers as many questions from the front of the line as there is room for, from
every session and whatever is answered.
-/

namespace Interview

namespace Session

variable {session : Session} {template : Template} {protocol : Protocol}
variable {question : Question} {reply : Reply} {value : Value}

/-! ## The questions without an answer -/

/-- The next question is the first one without an answer. -/
theorem nextQuestion_eq_head? :
    session.nextQuestion template = (session.unanswered template).head? :=
  List.head?_filter.symm

/-- As many declared questions are without an answer as the traversal order shows. -/
theorem length_unanswered (checked : template.IsChecked) :
    (session.unanswered template).length =
      template.questions.countP (!session.hasAnswer ·.id) := by
  rw [unanswered, ← List.countP_eq_length_filter]
  exact checked.ordered_perm.countP_eq _

/-- The questions without an answer have different ids. -/
theorem unanswered_ids_nodup (checked : template.IsChecked) (session : Session) :
    ((session.unanswered template).map (·.id)).Nodup := by
  have distinct : (template.ordered.map (·.id)).Nodup :=
    (checked.ordered_perm.map (·.id)).nodup_iff.mpr checked.ids_nodup
  exact distinct.sublist (List.Sublist.map Question.id List.filter_sublist)

/-- A reply to the next question takes it from the front of those without an answer. -/
theorem unanswered_of_nextQuestion (checked : template.IsChecked)
    (next : session.nextQuestion template = some question) :
    session.unanswered template =
      question :: (session.record template protocol question reply).unanswered template := by
  obtain ⟨rest, split⟩ := List.head?_eq_some_iff.mp (nextQuestion_eq_head?.symm.trans next)
  have distinct := unanswered_ids_nodup checked session
  rw [split, List.map_cons, List.nodup_cons] at distinct
  have others : ∀ other ∈ rest, (other.id != question.id) = true := by
    intro other member
    rw [bne_iff_ne]
    rintro same
    exact distinct.1 (same ▸ List.mem_map_of_mem member)
  rw [unanswered_record, split, List.filter_cons_of_neg (by simp), List.filter_eq_self.mpr others]

/-! ## The room that the limit leaves -/

/-- How many further replies the limit of a protocol allows. -/
def room (session : Session) (protocol : Protocol) : Nat :=
  (protocol.maxQuestions - session.asked).toNat

/-- Without enforced phases the next question is answered if there is room, and else refused for the
limit. -/
theorem answer_nextQuestion_of_free (checked : template.IsChecked)
    (free : protocol.strictPhases = false)
    (next : session.nextQuestion template = some question) :
    session.answer template protocol question.id value =
      if session.room protocol = 0 then .error (.limitReached .questions protocol.maxQuestions)
      else .ok (session.record template protocol question (.answer value)) := by
  have declared := checked.mem_ordered.mp (nextQuestion_eq_some next).1
  have full : protocol.maxQuestions ≤ session.asked ↔ session.room protocol = 0 := by
    unfold room
    omega
  rw [answer, reply_of_declared checked declared]
  simp [free, full]

/-- A traversal without enforced phases answers the questions at the front of those without an
answer, as many as there is room for. It is stopped by the limit exactly when some are left. -/
theorem traverse_of_free (checked : template.IsChecked) (free : protocol.strictPhases = false)
    (session : Session) (choose : Session → Question → Value) :
    (session.traverse template protocol choose).asked =
        (session.unanswered template).take (session.room protocol) ∧
      (session.traverse template protocol choose).session.unanswered template =
        (session.unanswered template).drop (session.room protocol) ∧
      (session.traverse template protocol choose).refusal =
        if (session.unanswered template).length ≤ session.room protocol then none
        else some (.limitReached .questions protocol.maxQuestions) := by
  fun_induction traverse template protocol choose session with
  | case1 session next =>
      rw [nextQuestion_eq_head?, List.head?_eq_none_iff] at next
      simp [next]
  | case2 session question next refusal refused =>
      have pending := List.length_pos_of_mem (mem_unanswered_of_nextQuestion next)
      rw [answer_nextQuestion_of_free checked free next] at refused
      split at refused
      next spent =>
          cases refused
          simp [spent, Nat.not_le.mpr pending]
      next => cases refused
  | case3 session question next later accepted rest ih =>
      rw [answer_nextQuestion_of_free checked free next] at accepted
      split at accepted
      next => cases accepted
      next left =>
          cases accepted
          obtain ⟨asked, remaining, stopped⟩ := ih
          -- The answer uses up one place of the room and one question of the line.
          have fewer : session.room protocol =
              (session.record template protocol question
                (.answer (choose session question))).room protocol + 1 := by
            unfold room at left ⊢
            rw [record_asked]
            omega
          rw [unanswered_of_nextQuestion checked next, fewer]
          refine ⟨?_, ?_, ?_⟩
          · rw [List.take_succ_cons, ← asked]
          · rw [List.drop_succ_cons, ← remaining]
          · simpa using stopped

end Session

variable {template : Template} {protocol : Protocol}

/-! ## Main result -/

/-- Without enforced phases, from every session: a traversal answers questions that have no answer,
in the traversal order, none twice and none passed over. If the limit has room for all of them, or
none is left, it answers them all and ends without a next question, in a completed session if the
template has questions. Otherwise it is stopped by the limit, after as many answers as the limit
still allowed. -/
theorem free_traversal_goes_to_limit (checked : template.IsChecked)
    (free : protocol.strictPhases = false) (session : Session)
    (choose : Session → Question → Value) :
    let pending : Int := template.questions.countP (!session.hasAnswer ·.id)
    let run := session.traverse template protocol choose
    (template.ordered.filter (!session.hasAnswer ·.id) =
        run.asked ++ template.ordered.filter (!run.session.hasAnswer ·.id) ∧
      (run.asked.map (·.id)).Nodup) ∧
    (pending = 0 ∨ session.asked + pending ≤ protocol.maxQuestions →
      run.refusal = none ∧ run.asked.length = pending ∧
        run.session.nextQuestion template = none ∧
        (template.questions ≠ [] → run.session.status template = .completed)) ∧
    (pending ≠ 0 → protocol.maxQuestions < session.asked + pending →
      run.refusal = some (.limitReached .questions protocol.maxQuestions) ∧
        run.asked.length = max 0 (protocol.maxQuestions - session.asked)) := by
  intro pending run
  obtain ⟨asked, remaining, stopped⟩ :=
    Session.traverse_of_free checked free session choose
  have counted : pending = (session.unanswered template).length := by
    rw [Session.length_unanswered checked]
  have split : session.unanswered template = run.asked ++ run.session.unanswered template := by
    rw [asked, remaining, List.take_append_drop]
  have distinct : (run.asked.map (·.id)).Nodup := by
    have all := Session.unanswered_ids_nodup checked session
    rw [split, List.map_append, List.nodup_append] at all
    exact all.1
  refine ⟨⟨split, distinct⟩, fun enough => ?_, fun some short => ?_⟩
  · have fits : (session.unanswered template).length ≤ session.room protocol := by
      unfold Session.room
      omega
    have finished : run.refusal = none := by rw [stopped, if_pos fits]
    have ended := Session.nextQuestion_traverse finished
    refine ⟨finished, ?_, ended, fun nonempty => ?_⟩
    · rw [asked, List.take_of_length_le fits, counted]
    · exact Session.status_eq_completed_iff.mpr
        ⟨nonempty, (Session.nextQuestion_eq_none checked).mp ended⟩
  · have room : session.room protocol < (session.unanswered template).length := by
      unfold Session.room
      omega
    refine ⟨by rw [stopped, if_neg (Nat.not_le.mpr room)], ?_⟩
    rw [asked, List.length_take_of_le (Nat.le_of_lt room)]
    exact (Int.toNat_eq_max _).trans (Int.max_comm _ _)

/-- A session that has one answer left under the sample's limit. -/
def Session.nearLimit : Session :=
  { Session.start "s" with
    answers := Entries.empty.put "name" (.text "Ann")
    phase := some "discover"
    asked := 4 }

theorem free_traversal_goes_to_limit_sample :
    let run := Session.nearLimit.traverse .sample .free fun _ _ => .null
    Template.sample.IsChecked ∧ Protocol.free.strictPhases = false ∧
      Template.sample.questions.countP (!Session.nearLimit.hasAnswer ·.id) = 2 ∧
      (Template.sample.ordered.filter (!Session.nearLimit.hasAnswer ·.id) =
          run.asked ++ Template.sample.ordered.filter (!run.session.hasAnswer ·.id) ∧
        (run.asked.map (·.id)).Nodup) ∧
      run.refusal = some (.limitReached .questions 5) ∧ run.asked.length = 1 := by
  intro run
  obtain ⟨line, -, stopped⟩ := free_traversal_goes_to_limit Template.sample_isChecked
    (rfl : Protocol.free.strictPhases = false) Session.nearLimit fun _ _ => .null
  obtain ⟨refused, counted⟩ := stopped (by decide) (by decide)
  exact ⟨Template.sample_isChecked, rfl, rfl, line, refused, Int.ofNat_inj.mp counted⟩

/-- A session that has answered everything, and more often than the sample's limit allows. -/
def Session.beyondLimit : Session :=
  { Session.start "s" with
    answers := ((Entries.empty.put "name" .null).put "pain" .null).put "often" .null
    phase := some "close"
    asked := 6 }

/-- The limit does not stop a traversal that finds nothing to answer, however far it is passed. -/
theorem free_traversal_beyond_limit_not_stopped :
    ¬ ∀ (template : Template) (protocol : Protocol) (session : Session)
      (choose : Session → Question → Value), template.IsChecked → protocol.IsChecked →
        protocol.strictPhases = false →
          protocol.maxQuestions <
              session.asked + template.questions.countP (!session.hasAnswer ·.id) →
            (session.traverse template protocol choose).refusal =
              some (.limitReached .questions protocol.maxQuestions) := by
  intro claim
  have stopped := claim .sample .free Session.beyondLimit (fun _ _ => .null)
    Template.sample_isChecked Protocol.free_isChecked rfl (by decide)
  have nothing : Session.beyondLimit.nextQuestion .sample = none := rfl
  rw [Session.traverse] at stopped
  split at stopped
  next => cases stopped
  next question next => cases nothing.symm.trans next

end Interview
