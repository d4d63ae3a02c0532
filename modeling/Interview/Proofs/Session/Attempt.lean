import Interview.Proofs.Session.Call

/-!
# Attempts

A caller who is refused goes on with the session it had, and may bring another template or another
protocol along with each call. An attempt is a call with what it is made under. This module follows
a list of attempts, the refused ones included, and picks out those that are accepted; a run of
accepted calls is the case where nothing is refused.
-/

namespace Interview

/-- A call with the template and the protocol that it is made under. -/
structure Attempt where
  template : Template
  protocol : Protocol
  call : Call

/-- What comes of an attempt. -/
def Attempt.on (attempt : Attempt) (session : Session) : Except Refusal Session :=
  session.perform attempt.template attempt.protocol attempt.call

namespace Session

variable {session next later : Session} {template : Template} {protocol : Protocol}
variable {attempt : Attempt} {attempts more : List Attempt} {calls : List Call} {refusal : Refusal}

/-- The session after an attempt: if it is refused, the same as before. -/
def after (session : Session) (attempt : Attempt) : Session :=
  match attempt.on session with
  | .ok next => next
  | .error _ => session

theorem after_of_ok (accepted : attempt.on session = .ok next) : session.after attempt = next := by
  simp [after, accepted]

theorem after_of_error (refused : attempt.on session = .error refusal) :
    session.after attempt = session := by
  simp [after, refused]

/-- The session after a list of attempts. -/
def afterAll (session : Session) (attempts : List Attempt) : Session :=
  attempts.foldl after session

@[simp] theorem afterAll_nil : session.afterAll [] = session :=
  rfl

@[simp] theorem afterAll_cons :
    session.afterAll (attempt :: attempts) = (session.after attempt).afterAll attempts :=
  rfl

theorem afterAll_append :
    session.afterAll (attempts ++ more) = (session.afterAll attempts).afterAll more :=
  List.foldl_append

/-- The attempts of a list that are accepted, each on the session that those before it leave. -/
def accepted (session : Session) : List Attempt → List Attempt
  | [] => []
  | attempt :: attempts =>
    match attempt.on session with
    | .ok next => attempt :: next.accepted attempts
    | .error _ => session.accepted attempts

@[simp] theorem accepted_nil : session.accepted [] = [] :=
  rfl

theorem accepted_cons_of_ok (accept : attempt.on session = .ok next) :
    session.accepted (attempt :: attempts) = attempt :: next.accepted attempts := by
  simp [accepted, accept]

theorem accepted_cons_of_error (refused : attempt.on session = .error refusal) :
    session.accepted (attempt :: attempts) = session.accepted attempts := by
  simp [accepted, refused]

/-- A relation between the attempts made, those accepted and the session holds after a list of
attempts if it holds before, every accepted attempt keeps it, and every refused one does. -/
theorem afterAll_induction {motive : List Attempt → List Attempt → Session → Prop}
    (made granted : List Attempt) (begun : motive made granted session)
    (accept : ∀ attempt ∈ attempts, ∀ made granted session next, motive made granted session →
      attempt.on session = .ok next → motive (made ++ [attempt]) (granted ++ [attempt]) next)
    (refuse : ∀ attempt ∈ attempts, ∀ made granted session refusal, motive made granted session →
      attempt.on session = .error refusal → motive (made ++ [attempt]) granted session) :
    motive (made ++ attempts) (granted ++ session.accepted attempts) (session.afterAll attempts) := by
  induction attempts generalizing made granted session with
  | nil => simpa using begun
  | cons attempt attempts ih =>
      have acceptLater := fun other member => accept other (List.mem_cons_of_mem _ member)
      have refuseLater := fun other member => refuse other (List.mem_cons_of_mem _ member)
      cases outcome : attempt.on session with
      | ok next =>
          have kept := accept attempt List.mem_cons_self made granted session next begun outcome
          rw [afterAll_cons, after_of_ok outcome, accepted_cons_of_ok outcome]
          simpa using ih _ _ kept acceptLater refuseLater
      | error refusal =>
          have kept := refuse attempt List.mem_cons_self made granted session refusal begun outcome
          rw [afterAll_cons, after_of_error outcome, accepted_cons_of_error outcome]
          simpa using ih _ _ kept acceptLater refuseLater

/-- A run of accepted calls is a list of attempts of which none is refused. -/
theorem afterAll_of_performAll (run : session.performAll template protocol calls = .ok later) :
    session.afterAll (calls.map (.mk template protocol)) = later ∧
      session.accepted (calls.map (.mk template protocol)) =
        calls.map (.mk template protocol) := by
  induction calls generalizing session with
  | nil =>
      cases run
      exact ⟨rfl, rfl⟩
  | cons call calls ih =>
      rcases performAll_cons_eq_ok.mp run with ⟨next, accept, rest⟩
      have outcome : (Attempt.mk template protocol call).on session = .ok next := accept
      rcases ih rest with ⟨reached, all⟩
      rw [List.map_cons, afterAll_cons, after_of_ok outcome, accepted_cons_of_ok outcome, all]
      exact ⟨reached, rfl⟩

end Session

end Interview
