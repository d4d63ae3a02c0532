/-!
# Faults of records

A record is read from a dynamic value field by field. All faults are collected, each with its place:
the keys and positions that lead to it.
-/

namespace Interview.Record

/-- One step on the way into a value. -/
inductive Step where
  | key (name : String)
  | position (place : Nat)
deriving DecidableEq, Repr

/-- What is wrong with a value. -/
inductive Cause where
  | missing
  | notText
  | unreadableText
  | notWhole
  | unreadableWhole
  | wholeTooLong
  | hasFraction
  | notFinite
  | notTruth
  | unreadableTruth
  | notList
  | notSet
  | notMapping
  | notRecord (name : String)
  | unknownType
  | below (least : Int)
  | broken (rule : String)
deriving DecidableEq, Repr

/-- A fault and its place. -/
structure Fault where
  cause : Cause
  place : List Step
deriving DecidableEq, Repr

/-- The fault as seen from one step further out. -/
def Fault.under (step : Step) (fault : Fault) : Fault :=
  { fault with place := step :: fault.place }

/-- The short name of a cause. -/
def Cause.code : Cause → String
  | .missing => "missing"
  | .notText => "string_type"
  | .unreadableText => "string_unicode"
  | .notWhole => "int_type"
  | .unreadableWhole => "int_parsing"
  | .wholeTooLong => "int_parsing_size"
  | .hasFraction => "int_from_float"
  | .notFinite => "finite_number"
  | .notTruth => "bool_type"
  | .unreadableTruth => "bool_parsing"
  | .notList => "list_type"
  | .notSet => "frozen_set_type"
  | .notMapping => "dict_type"
  | .notRecord _ => "model_type"
  | .unknownType => "literal_error"
  | .below _ => "greater_than_equal"
  | .broken _ => "value_error"

/-- The cause in words. -/
def Cause.message : Cause → String
  | .missing => "Field required"
  | .notText => "Input should be a valid string"
  | .unreadableText =>
    "Input should be a valid string, unable to parse raw data as a unicode string"
  | .notWhole => "Input should be a valid integer"
  | .unreadableWhole => "Input should be a valid integer, unable to parse string as an integer"
  | .wholeTooLong => "Unable to parse input string as an integer, exceeded maximum size"
  | .hasFraction => "Input should be a valid integer, got a number with a fractional part"
  | .notFinite => "Input should be a finite number"
  | .notTruth => "Input should be a valid boolean"
  | .unreadableTruth => "Input should be a valid boolean, unable to interpret input"
  | .notList => "Input should be a valid list"
  | .notSet => "Input should be a valid frozenset"
  | .notMapping => "Input should be a valid dictionary"
  | .notRecord name => "Input should be a valid dictionary or instance of " ++ name
  | .unknownType =>
    "Input should be 'free_text', 'single_choice', 'multi_choice' or 'scale'"
  | .below least => "Input should be greater than or equal to " ++ toString least
  | .broken rule => "Value error, " ++ rule

/-- The result of a reading: a value, or all faults in order. -/
inductive Checked (α : Type) where
  | ok (value : α)
  | faulty (faults : List Fault)
deriving DecidableEq, Repr

namespace Checked

variable {α β : Type}

/-- One fault at the place itself. -/
def fail (cause : Cause) : Checked α :=
  .faulty [⟨cause, []⟩]

/-- A function and its argument, with the faults of both. -/
def apply : Checked (α → β) → Checked α → Checked β
  | .ok f, .ok value => .ok (f value)
  | .faulty faults, .ok _ => .faulty faults
  | .ok _, .faulty faults => .faulty faults
  | .faulty first, .faulty second => .faulty (first ++ second)

instance : Applicative Checked where
  pure := .ok
  seq f a := apply f (a ())

/-- A reading that depends on the value of another one. -/
def andThen (result : Checked α) (next : α → Checked β) : Checked β :=
  match result with
  | .ok value => next value
  | .faulty faults => .faulty faults

/-- The faults as seen from one step further out. -/
def under (step : Step) : Checked α → Checked α
  | .ok value => .ok value
  | .faulty faults => .faulty (faults.map (·.under step))

/-- The results of a list of readings, with the faults of all. -/
def collect : List (Checked α) → Checked (List α)
  | [] => .ok []
  | result :: results => List.cons <$> result <*> collect results

/-- The faults of a result. -/
def faults : Checked α → List Fault
  | .ok _ => []
  | .faulty faults => faults

@[simp] theorem pure_eq (value : α) : (pure value : Checked α) = .ok value := rfl

@[simp] theorem seq_eq_ok {f : Checked (α → β)} {a : Checked α} {b : β} :
    f <*> a = .ok b ↔ ∃ g x, f = .ok g ∧ a = .ok x ∧ g x = b := by
  cases f <;> cases a <;> simp [Seq.seq, apply]

@[simp] theorem map_eq_ok {f : α → β} {a : Checked α} {b : β} :
    f <$> a = .ok b ↔ ∃ x, a = .ok x ∧ f x = b := by
  cases a <;> simp [Functor.map, apply]

@[simp] theorem andThen_eq_ok {a : Checked α} {next : α → Checked β} {b : β} :
    a.andThen next = .ok b ↔ ∃ x, a = .ok x ∧ next x = .ok b := by
  cases a <;> simp [andThen]

@[simp] theorem under_eq_ok {step : Step} {a : Checked α} {x : α} :
    under step a = .ok x ↔ a = .ok x := by
  cases a <;> simp [under]

end Checked

end Interview.Record
