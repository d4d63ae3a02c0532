import Interview.Document.Compile

/-!
# Outcomes of compiling

Each step on the way from a document to a template gives a value or a fault. The lemmas here take
such a chain of steps apart: `bind_eq_ok` when it succeeds, and `isConclusive_bind_iff` for the
question whether every fault on the way is a list of problems.
-/

namespace Interview.Document

variable {α β ε : Type} {result : Except Fault α} {next : α → Except Fault β} {value : α}

/-- A chain of steps succeeds if each of them does. -/
theorem bind_eq_ok {first : Except ε α} {later : α → Except ε β} {last : β} :
    first >>= later = .ok last ↔ ∃ value, first = .ok value ∧ later value = .ok last := by
  cases first with
  | error fault => simp [bind, Except.bind]
  | ok value => simp [bind, Except.bind]

/-- A step gives a value with a property if a test says so of its result. -/
theorem exists_ok_of_any {step : Except ε α} {test : α → Bool}
    (succeeds : step.toOption.any test = true) : ∃ value, step = .ok value ∧ test value = true := by
  cases step with
  | ok value => exact ⟨value, rfl, succeeds⟩
  | error fault => cases succeeds

theorem exists_bind_eq_ok_iff {first : Except ε α} {later : α → Except ε β} :
    (∃ last, first >>= later = .ok last) ↔
      ∃ value, first = .ok value ∧ ∃ last, later value = .ok last := by
  simp only [bind_eq_ok]
  constructor
  · rintro ⟨last, value, given, gives⟩
    exact ⟨value, given, last, gives⟩
  · rintro ⟨value, given, last, gives⟩
    exact ⟨last, value, given, gives⟩

/-- Where the later step never fails, the first one decides. -/
theorem exists_bind_eq_ok_iff_of_total {first : Except ε α} {later : α → Except ε β}
    (total : ∀ value, ∃ last, later value = .ok last) :
    (∃ last, first >>= later = .ok last) ↔ ∃ value, first = .ok value := by
  rw [exists_bind_eq_ok_iff]
  constructor
  · rintro ⟨value, given, -⟩
    exact ⟨value, given⟩
  · rintro ⟨value, given⟩
    exact ⟨value, given, total value⟩

/-- The answer of a test, which is no where the test fails. -/
def saysYes : Except ε Bool → Bool
  | .ok answer => answer
  | .error _ => false

@[simp] theorem saysYes_ok {answer : Bool} : saysYes (.ok answer : Except ε Bool) = answer :=
  rfl

theorem filterAuxM_eq_ok {test : α → Except ε Bool} {items sofar kept : List α} :
    List.filterAuxM test items sofar = .ok kept ↔
      (∀ item ∈ items, ∃ answer, test item = .ok answer) ∧
        kept = (items.filter (saysYes <| test ·)).reverse ++ sofar := by
  induction items generalizing sofar with
  | nil => simp [List.filterAuxM, pure, Except.pure, eq_comm]
  | cons item items ih =>
      rw [List.filterAuxM, bind_eq_ok]
      constructor
      · rintro ⟨answer, asked, rest⟩
        obtain ⟨all, rfl⟩ := ih.mp rest
        refine ⟨List.forall_mem_cons.mpr ⟨⟨answer, asked⟩, all⟩, ?_⟩
        cases answer <;> simp [asked]
      · rintro ⟨all, rfl⟩
        obtain ⟨⟨answer, asked⟩, all⟩ := List.forall_mem_cons.mp all
        refine ⟨answer, asked, ih.mpr ⟨all, ?_⟩⟩
        cases answer <;> simp [asked]

/-- Filtering by a test succeeds if the test does for every item, and keeps those it says yes to. -/
theorem filterM_eq_ok {test : α → Except ε Bool} {items kept : List α} :
    items.filterM test = .ok kept ↔
      (∀ item ∈ items, ∃ answer, test item = .ok answer) ∧
        kept = items.filter (saysYes <| test ·) := by
  rw [List.filterM, bind_eq_ok]
  simp only [filterAuxM_eq_ok, pure, Except.pure, Except.ok.injEq, List.append_nil]
  constructor
  · rintro ⟨_, ⟨all, rfl⟩, rfl⟩
    exact ⟨all, List.reverse_reverse _⟩
  · rintro ⟨all, rfl⟩
    exact ⟨_, ⟨all, rfl⟩, List.reverse_reverse _⟩

/-- A list of steps succeeds if each of them does. -/
theorem exists_mapM_eq_ok_iff {step : α → Except ε β} {items : List α} :
    (∃ results, items.mapM step = .ok results) ↔
      ∀ item ∈ items, ∃ result, step item = .ok result := by
  induction items with
  | nil => simp [pure, Except.pure]
  | cons item items ih =>
      simp only [List.mapM_cons, bind_eq_ok, pure, Except.pure, List.forall_mem_cons, ← ih]
      constructor
      · rintro ⟨_, result, first, results, rest, -⟩
        exact ⟨⟨result, first⟩, results, rest⟩
      · rintro ⟨⟨result, first⟩, results, rest⟩
        exact ⟨_, result, first, results, rest, rfl⟩

@[simp] theorem orLong_eq_ok {result : Except LongNumber α} :
    orLong result = .ok value ↔ result = .ok value := by
  cases result <;> simp [orLong]

@[simp] theorem orProblems_eq_ok {result : Record.Checked α} :
    orProblems result = .ok value ↔ result = .ok value := by
  cases result <;> simp [orProblems]

/-- The result is a value, or it is refused with problems. -/
def IsConclusive (result : Except Fault α) : Prop :=
  ∀ fault, result = .error fault → ∃ all, fault = .problems all

@[simp] theorem isConclusive_ok : IsConclusive (.ok value : Except Fault α) := by
  intro fault refused
  cases refused

@[simp] theorem isConclusive_error_iff {fault : Fault} :
    IsConclusive (.error fault : Except Fault α) ↔ ∃ all, fault = .problems all := by
  simp [IsConclusive]

@[simp] theorem isConclusive_refuse {problem : DocumentProblem} :
    IsConclusive (refuse problem : Except Fault α) :=
  isConclusive_error_iff.mpr ⟨[problem], rfl⟩

instance (result : Except Fault α) : Decidable (IsConclusive result) :=
  match result with
  | .ok _ => .isTrue isConclusive_ok
  | .error (.problems all) => .isTrue (isConclusive_error_iff.mpr ⟨all, rfl⟩)
  | .error (.scalar _) | .error (.longNumeral _) | .error .longNumber => .isFalse (by simp)

/-- A step that tells no problems is conclusive if it gives a value. -/
theorem isConclusive_iff_exists (other : ∀ all, result ≠ .error (.problems all)) :
    IsConclusive result ↔ ∃ value, result = .ok value := by
  cases result with
  | ok value => simp
  | error fault =>
      refine iff_of_false (fun conclusive => ?_) (by simp)
      obtain ⟨all, rfl⟩ := conclusive fault rfl
      exact other all rfl

/-- A chain of steps is conclusive if the first step is, and the others are whenever it gives a
value to go on with. -/
theorem isConclusive_bind_iff :
    IsConclusive (result >>= next) ↔
      IsConclusive result ∧ ∀ value, result = .ok value → IsConclusive (next value) := by
  cases result with
  | error fault => simp [bind, Except.bind, IsConclusive]
  | ok value => simp [bind, Except.bind]

/-- A number that is too long for a text is not among the problems of a document. -/
@[simp] theorem isConclusive_orLong_iff {result : Except LongNumber α} :
    IsConclusive (orLong result) ↔ ∃ value, result = .ok value := by
  cases result <;> simp [orLong, IsConclusive]

@[simp] theorem isConclusive_orProblems {result : Record.Checked α} :
    IsConclusive (orProblems result) := by
  cases result <;> simp [orProblems]

/-- Reading a text in YAML does not come upon a scalar without a value of its type. -/
def HasValues (text : List Char) : Prop :=
  ∀ why, Yaml.content text ≠ .error (.scalar why)

/-- Reading a part of the document in YAML is conclusive if all its scalars have values. -/
theorem isConclusive_contentOf_iff {text : List Char} :
    IsConclusive (contentOf text) ↔ HasValues text := by
  unfold contentOf HasValues
  split <;> simp_all [IsConclusive]

end Interview.Document
