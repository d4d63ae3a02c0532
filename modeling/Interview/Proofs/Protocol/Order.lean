import Interview.Protocol.Basic
import Mathlib.Data.List.Chain
import Mathlib.Data.List.Infix

/-!
# The order of a protocol

A protocol gives each phase at most one successor. A list of phases in which each is followed by its
successor is a chain of the protocol. Where the phases of the protocol are distinct a chain never
comes back to a phase, and two chains with the same beginning go the same way as long as both last.
-/

namespace Interview.Protocol

variable {protocol : Protocol} {phases : List String} {phase next : String}

/-- The successor is read off at the first occurrence of a phase. -/
theorem successorIn_eq_some_iff :
    successorIn phase phases = some next ↔
      ∃ before after, phases = before ++ phase :: next :: after ∧ phase ∉ before := by
  induction phases with
  | nil => simp [successorIn]
  | cons first rest ih =>
      unfold successorIn
      split
      next same =>
          subst same
          constructor
          · intro head
            rcases List.head?_eq_some_iff.mp head with ⟨after, rfl⟩
            exact ⟨[], after, rfl, by simp⟩
          · rintro ⟨before, after, split, fresh⟩
            cases before with
            | nil => simp_all
            | cons other before => simp_all
      next differs =>
          rw [ih]
          constructor
          · rintro ⟨before, after, rfl, fresh⟩
            exact ⟨first :: before, after, rfl, by simp [fresh, Ne.symm differs]⟩
          · rintro ⟨before, after, split, fresh⟩
            cases before with
            | nil => simp_all
            | cons other before =>
                simp only [List.cons_append, List.cons.injEq] at split
                exact ⟨before, after, split.2, fun old => fresh (.tail _ old)⟩

theorem mem_of_nextPhase (successor : protocol.nextPhase phase = some next) :
    next ∈ protocol.phases := by
  rcases successorIn_eq_some_iff.mp successor with ⟨before, after, split, -⟩
  simp [split]

/-- With distinct phases, the successor of a phase is its right neighbour. -/
theorem nextPhase_eq_some_iff (distinct : protocol.phases.Nodup) :
    protocol.nextPhase phase = some next ↔ [phase, next] <:+: protocol.phases := by
  unfold nextPhase
  rw [successorIn_eq_some_iff]
  constructor
  · rintro ⟨before, after, split, -⟩
    exact ⟨before, after, by simp [split]⟩
  · rintro ⟨before, after, split⟩
    refine ⟨before, after, by simp [← split], fun old => ?_⟩
    rw [← split] at distinct
    simp only [List.append_assoc, List.nodup_append] at distinct
    exact distinct.2.2 phase old phase (by simp) rfl

/-- The successor stands one position further on. -/
theorem idxOf_nextPhase (distinct : protocol.phases.Nodup)
    (successor : protocol.nextPhase phase = some next) :
    protocol.phases.idxOf next = protocol.phases.idxOf phase + 1 := by
  rcases (nextPhase_eq_some_iff distinct).mp successor with ⟨before, after, split⟩
  rw [← split] at distinct ⊢
  simp only [List.append_assoc, List.cons_append, List.nil_append, List.nodup_append,
    List.nodup_cons, List.mem_cons, not_or] at distinct ⊢
  rcases distinct with ⟨-, ⟨⟨differs, -⟩, -⟩, apart⟩
  have phaseFresh : phase ∉ before := fun old => apart phase old phase (.inl rfl) rfl
  have nextFresh : next ∉ before := fun old => apart next old next (.inr (.inl rfl)) rfl
  simp [List.idxOf_append, phaseFresh, nextFresh, differs, Nat.add_comm]

/-- No phase is its own successor. -/
theorem ne_of_nextPhase (distinct : protocol.phases.Nodup)
    (successor : protocol.nextPhase phase = some next) : next ≠ phase := by
  rintro rfl
  exact absurd (idxOf_nextPhase distinct successor) (Nat.ne_of_lt (Nat.lt_succ_self _))

/-! ## Chains -/

/-- Each phase of a list is followed by its successor in the protocol. -/
def Chains (protocol : Protocol) (phases : List String) : Prop :=
  phases.IsChain fun phase next => protocol.nextPhase phase = some next

theorem chains_singleton : protocol.Chains [phase] :=
  .singleton phase

/-- A chain goes on with the successor of its last phase. -/
theorem Chains.concat (chain : protocol.Chains (phases ++ [phase]))
    (successor : protocol.nextPhase phase = some next) :
    protocol.Chains (phases ++ [phase] ++ [next]) :=
  List.IsChain.append chain (.singleton next) (by simp [successor])

theorem Chains.nextPhase_eq {before after : List String}
    (chain : protocol.Chains (before ++ phase :: next :: after)) :
    protocol.nextPhase phase = some next :=
  (List.isChain_append_cons_cons.mp chain).2.1

/-- Positions grow along a chain, so that no phase comes twice. -/
theorem Chains.nodup (chain : protocol.Chains phases) (distinct : protocol.phases.Nodup) :
    phases.Nodup := by
  have growing : phases.IsChain fun phase next =>
      protocol.phases.idxOf phase < protocol.phases.idxOf next :=
    List.IsChain.imp (fun _ _ successor => by simp [idxOf_nextPhase distinct successor]) chain
  have positions : (phases.map protocol.phases.idxOf).IsChain (· < ·) := by
    rwa [List.isChain_map]
  refine (List.pairwise_map.mp positions.pairwise).imp fun less => ?_
  rintro rfl
  exact Nat.lt_irrefl _ less

/-- Successors are unique: of two chains with the same beginning one continues the other. -/
theorem Chains.prefix_or_prefix {other : List String} (chain : protocol.Chains phases)
    (otherChain : protocol.Chains other) (sameStart : phases.head? = other.head?) :
    phases <+: other ∨ other <+: phases := by
  induction phases generalizing other with
  | nil => simp
  | cons phase rest ih =>
      rcases List.head?_eq_some_iff.mp sameStart.symm with ⟨otherRest, rfl⟩
      cases rest with
      | nil => simp
      | cons next rest =>
          cases otherRest with
          | nil => simp
          | cons otherNext otherRest =>
              rcases List.isChain_cons_cons.mp chain with ⟨successor, tail⟩
              rcases List.isChain_cons_cons.mp otherChain with ⟨otherSuccessor, otherTail⟩
              have same : next = otherNext :=
                Option.some.inj (successor.symm.trans otherSuccessor)
              simp only [List.prefix_cons_inj]
              exact ih tail otherTail (by simp [same])

/-! ## Selections without gaps -/

/-- A selection takes every phase that stands between two phases it takes. -/
def LeavesNoGap (selected : String → Bool) (phases : List String) : Prop :=
  ∀ first between last, [first, between, last].Sublist phases →
    selected first → selected last → selected between

theorem leavesNoGap_cons_iff {selected : String → Bool} {first : String} :
    LeavesNoGap selected (first :: phases) ↔
      LeavesNoGap selected phases ∧ (selected first →
        ∀ between last, [between, last].Sublist phases → selected last → selected between) := by
  constructor
  · intro noGap
    refine ⟨fun earlier between last inside => ?_, fun taken between last inside => ?_⟩
    · exact noGap earlier between last (inside.cons first)
    · exact noGap first between last (inside.cons_cons first) taken
  · rintro ⟨noGap, ahead⟩ earlier between last inside taken
    rcases List.sublist_cons_iff.mp inside with later | ⟨_, same, later⟩
    · exact noGap earlier between last later taken
    · rcases List.cons.inj same with ⟨rfl, rfl⟩
      exact ahead taken between last later

theorem pair_infix_cons_iff {first : String} (fresh : first ∉ phases) (member : phase ∈ phases) :
    [phase, next] <:+: first :: phases ↔ [phase, next] <:+: phases := by
  rw [List.infix_cons_iff]
  refine or_iff_right fun start => fresh ?_
  rcases List.cons_prefix_cons.mp start with ⟨same, -⟩
  exact same ▸ member

theorem head_infix_cons_iff (fresh : phase ∉ phases) :
    [phase, next] <:+: phase :: phases ↔ phases.head? = some next := by
  rw [List.infix_cons_iff, List.head?_eq_some_iff]
  constructor
  · rintro (⟨after, split⟩ | inside)
    · exact ⟨after, by simpa using split.symm⟩
    · exact absurd (inside.mem (by simp)) fresh
  · rintro ⟨after, rfl⟩
    exact .inl ⟨after, rfl⟩

/-- If a selection has no gap in a list and goes on in front of it, it takes the beginning of the
list or nothing of it. -/
theorem head?_filter_iff {selected : String → Bool} (noGap : LeavesNoGap selected phases) :
    (∀ phase ∈ (phases.filter selected).head?, phases.head? = some phase) ↔
      ∀ between last, [between, last].Sublist phases → selected last → selected between := by
  cases phases with
  | nil => simp
  | cons first rest =>
      by_cases taken : selected first
      · simp only [List.filter_cons_of_pos taken, List.head?_cons, Option.mem_some_iff,
          Option.some.injEq, imp_self, implies_true, true_iff]
        intro between last inside lastTaken
        rcases List.sublist_cons_iff.mp inside with later | ⟨_, same, -⟩
        · exact noGap first between last (later.cons_cons first) taken lastTaken
        · rwa [(List.cons.inj same).1]
      · constructor
        · intro heads between last inside lastTaken
          have member : last ∈ (first :: rest).filter selected :=
            List.mem_filter.mpr ⟨inside.mem (by simp), lastTaken⟩
          rcases List.exists_cons_of_ne_nil (List.ne_nil_of_mem member) with ⟨found, later, split⟩
          have same := heads found (by simp [split])
          have foundTaken := (List.mem_filter.mp (split ▸ List.mem_cons_self)).2
          simp_all
        · intro closed phase head
          rw [List.filter_cons_of_neg taken] at head
          rcases List.mem_filter.mp (List.mem_of_head? head) with ⟨member, phaseTaken⟩
          have inside : [first, phase].Sublist (first :: rest) :=
            (List.singleton_sublist.mpr member).cons_cons first
          exact absurd (closed first phase inside phaseTaken) taken

/-- The selected phases of a list are neighbours in it exactly when the selection has no gap. -/
theorem isChain_filter_iff {selected : String → Bool} (distinct : phases.Nodup) :
    (phases.filter selected).IsChain (fun phase next => [phase, next] <:+: phases) ↔
      LeavesNoGap selected phases := by
  induction phases with
  | nil => simp [LeavesNoGap]
  | cons first rest ih =>
      rcases List.nodup_cons.mp distinct with ⟨fresh, distinct⟩
      have inner : (rest.filter selected).IsChain
          (fun phase next => [phase, next] <:+: first :: rest) ↔ LeavesNoGap selected rest := by
        rw [← ih distinct]
        refine List.IsChain.iff_of_mem_imp fun phase next member _ => ?_
        exact pair_infix_cons_iff fresh (List.mem_of_mem_filter member)
      rw [leavesNoGap_cons_iff]
      by_cases taken : selected first
      · rw [List.filter_cons_of_pos taken, List.isChain_cons, inner, and_comm]
        simp only [taken, true_imp_iff, head_infix_cons_iff fresh]
        exact and_congr_right fun noGap => head?_filter_iff noGap
      · rw [List.filter_cons_of_neg taken, inner]
        simp [taken]

/-! ## A sample -/

/-- A strict protocol over three phases that allows skips. -/
def sample : Protocol :=
  { slug := some "sample"
    phases := ["greet", "discover", "close"]
    oneQuestionMode := true
    maxQuestions := 5
    maxFollowups := 1
    driftSoftLimit := 1
    driftHardLimit := 2
    allowMerging := false
    allowSkipping := true
    strictPhases := true }

theorem sample_isChecked : sample.IsChecked where
  phases_ne_nil := by decide
  phases_nodup := by decide
  one_le_maxQuestions := by decide
  zero_le_maxFollowups := by decide
  zero_le_driftSoftLimit := by decide
  soft_le_hard := by decide

end Interview.Protocol
