import Interview.Proofs.Session.Attempt
import Interview.Proofs.Template.Structure

/-!
# What a session remembers of its replies

A session is a summary of the replies that it accepted, in the order in which they came. The log
keeps the replies themselves. `Records` says how the one is read off the other; every accepted reply
keeps it when the log grows by that reply, whatever template and protocol the caller brought along,
and nothing else touches it.
-/

namespace Interview

/-- The reply that a call makes, with the id of its question. -/
def Call.reply? : Call → Option (String × Reply)
  | .reply id given => some (id, given)
  | .followUp | .drift => none

/-- The replies that attempts make, in their order. -/
def repliesOf (attempts : List Attempt) : List (String × Reply) :=
  attempts.filterMap (·.call.reply?)

/-- The last of the replies to a question. -/
def lastReply? (log : List (String × Reply)) (id : String) : Option Reply :=
  (log.findRev? (·.1 == id)).map Prod.snd

variable {log : List (String × Reply)} {session next : Session} {attempts : List Attempt}
variable {template : Template} {protocol : Protocol} {question : Question} {reply : Reply}
variable {call : Call} {calls : List Call} {id other : String}

theorem repliesOf_concat {attempt : Attempt} :
    repliesOf (attempts ++ [attempt]) = repliesOf attempts ++ attempt.call.reply?.toList := by
  cases found : attempt.call.reply? <;> simp [repliesOf, found]

@[simp] theorem lastReply?_nil : lastReply? [] id = none :=
  rfl

theorem lastReply?_concat_self : lastReply? (log ++ [(id, reply)]) id = some reply := by
  simp [lastReply?]

theorem lastReply?_concat_of_ne (differs : other ≠ id) :
    lastReply? (log ++ [(id, reply)]) other = lastReply? log other := by
  simp [lastReply?, Ne.symm differs]

/-- The ids of a log in the order of their first replies: a further reply puts its id at the end
if it is new. -/
theorem eraseDups_ids_concat :
    ((log ++ [(id, reply)]).map Prod.fst).eraseDups =
      if id ∈ log.map Prod.fst then (log.map Prod.fst).eraseDups
      else (log.map Prod.fst).eraseDups ++ [id] := by
  rw [List.map_append, List.eraseDups_append]
  by_cases old : id ∈ log.map Prod.fst <;> simp_all [List.removeAll, List.eraseDups_cons]

theorem mem_skippedAfter_self {skipped : List String} :
    id ∈ Session.skippedAfter skipped id reply ↔ reply = .skip := by
  cases reply with
  | answer value => simp [Session.skippedAfter]
  | skip =>
      by_cases old : id ∈ skipped <;> simp [Session.skippedAfter, old]

/-- What a session holds is what its log of accepted replies tells. -/
structure Records (log : List (String × Reply)) (session : Session) : Prop where
  answer : ∀ id, session.answers.find? id = (lastReply? log id).map Reply.value
  keys : session.answers.keys = (log.map Prod.fst).eraseDups
  skipped : ∀ id, id ∈ session.skipped ↔ lastReply? log id = some .skip
  question : session.question = log.getLast?.map Prod.fst
  asked : session.asked = log.length
  phase : session.phase = none ↔ log = []

namespace Records

/-- A new session has an empty log. -/
theorem start (id : String) : Records [] (Session.start id) where
  answer _ := rfl
  keys := rfl
  skipped := by simp [Session.start]
  question := rfl
  asked := rfl
  phase := by simp [Session.start]

/-- The questions with an answer are those in the log. -/
theorem hasAnswer_iff (records : Records log session) :
    session.hasAnswer id ↔ ∃ reply, (id, reply) ∈ log := by
  unfold Session.hasAnswer
  rw [Entries.contains_iff_mem_keys, records.keys, List.mem_eraseDups, List.mem_map]
  constructor
  · rintro ⟨⟨_, reply⟩, member, rfl⟩
    exact ⟨reply, member⟩
  · rintro ⟨reply, member⟩
    exact ⟨(id, reply), member, rfl⟩

/-- An accepted reply comes to the end of the log. -/
theorem record (records : Records log session) :
    Records (log ++ [(question.id, reply)])
      (session.record template protocol question reply) where
  answer id := by
    by_cases same : id = question.id
    · subst same
      rw [Session.record_answers, Entries.find?_put_self, lastReply?_concat_self]
      rfl
    · rw [Session.record_answers, Entries.find?_put_of_ne (Ne.symm same), records.answer,
        lastReply?_concat_of_ne same]
  keys := by
    have known : session.answers.contains question.id ↔ question.id ∈ log.map Prod.fst := by
      rw [Entries.contains_iff_mem_keys, records.keys, List.mem_eraseDups]
    rw [Session.record_answers, Entries.keys_put, eraseDups_ids_concat, records.keys]
    simp only [known]
  skipped id := by
    by_cases same : id = question.id
    · subst same
      rw [Session.record_skipped, mem_skippedAfter_self, lastReply?_concat_self, Option.some.injEq]
    · rw [Session.record_skipped, Session.mem_skippedAfter_of_ne same, records.skipped,
        lastReply?_concat_of_ne same]
  question := by simp [Session.record]
  asked := by simp [records.asked]
  phase := by simp

/-- An accepted call adds its reply to the log, if it makes one. -/
theorem perform (records : Records log session)
    (accepted : session.perform template protocol call = .ok next) :
    Records (log ++ call.reply?.toList) next := by
  rcases Session.perform_ok_cases accepted with
    ⟨id, reply, question, rfl, -, found, -, rfl⟩ | ⟨rfl, -, rfl⟩ | ⟨rfl, -, rfl⟩
  · obtain rfl := (Template.mem_of_question? found).2
    exact records.record
  · rw [Call.reply?, Option.toList_none, List.append_nil]
    exact { records with }
  · rw [Call.reply?, Option.toList_none, List.append_nil]
    exact { records with }

/-- The log of a list of attempts holds the replies among those that are accepted. -/
theorem afterAll (id : String) (attempts : List Attempt) :
    Records (repliesOf ((Session.start id).accepted attempts))
      ((Session.start id).afterAll attempts) := by
  refine Session.afterAll_induction [] []
    (motive := fun _ granted session => Records (repliesOf granted) session) (start id) ?accept ?refuse
  case accept =>
    intro attempt _ made granted session next records accepted
    rw [repliesOf_concat]
    exact records.perform accepted
  case refuse =>
    intro attempt _ made granted session refusal records refused
    exact records

/-- The log of a run holds all its replies. -/
theorem of_run (run : (Session.start id).performAll template protocol calls = .ok session) :
    Records (calls.filterMap Call.reply?) session := by
  rcases Session.afterAll_of_performAll run with ⟨reached, all⟩
  have records := afterAll id (calls.map (.mk template protocol))
  rw [reached, all] at records
  simpa [repliesOf, List.filterMap_map, Function.comp_def] using records

end Records

/-! ## Main result -/

/-- A session recounts the replies that it accepted, among whatever attempts under whatever
templates and protocols: a question has an answer when a reply to it was accepted, its value and its
skip mark are those of the last one, the answers stand in the order of the first ones, the current
question is that of the last reply of all, the session counts the replies, and it is in a phase when
there was one. -/
theorem session_recounts_replies (id : String) (attempts : List Attempt) :
    let session := (Session.start id).afterAll attempts
    let log := repliesOf ((Session.start id).accepted attempts)
    (∀ question, session.hasAnswer question ↔ ∃ reply, (question, reply) ∈ log) ∧
      (∀ question,
        session.answers.find? question = (lastReply? log question).map Reply.value) ∧
      session.answers.keys = (log.map Prod.fst).eraseDups ∧
      (∀ question, question ∈ session.skipped ↔ lastReply? log question = some .skip) ∧
      session.question = log.getLast?.map Prod.fst ∧
      session.asked = log.length ∧
      (session.phase = none ↔ log.length = 0) := by
  intro session log
  have records : Records log session := .afterAll id attempts
  refine ⟨fun _ => records.hasAnswer_iff, records.answer, records.keys, records.skipped,
    records.question, records.asked, ?_⟩
  rw [records.phase, List.length_eq_zero_iff]

end Interview
