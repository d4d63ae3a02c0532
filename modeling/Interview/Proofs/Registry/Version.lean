import Interview.Registry
import Interview.Proofs.Template.Structure
import Interview.Proofs.Text.Order

/-!
# Versions of templates

Activation puts a template behind the versions of its identifier and retires those; nothing else in
the registry changes. `activate_cases` says all that one activation can do, and the other lemmas
read the lookups of the registry off it.

A template that fails the check of its structure leaves the registry as it was. One that passes it
comes in even where the activation then fails for want of compile information, and
`failed_activation_keeps_views_iff` says that this is the only such case.
-/

namespace Interview

/-- A version that is no longer the active one. -/
def Version.retired (version : Version) : Version :=
  { version with isActive := false }

@[simp] theorem Version.isActive_retired {version : Version} : version.retired.isActive = false :=
  rfl

namespace Registry

variable {registry : Registry} {identifier other : String} {template : Template}
variable {draft : Draft} {fault : RegistryFault}

theorem history_add_self :
    (registry.add identifier template).history identifier =
      (registry.history identifier).map Version.retired ++ [⟨template, true⟩] := by
  simp only [add, history, Entries.find?_put_self, Option.getD_some]
  rfl

theorem history_add_of_ne (differs : identifier ≠ other) :
    (registry.add identifier template).history other = registry.history other := by
  simp [add, history, Entries.find?_put_of_ne differs]

theorem contains_add :
    (registry.add identifier template).contains other = true ↔
      other = identifier ∨ registry.contains other = true :=
  Entries.contains_put

/-- Behind retired versions the last one is found to be active. -/
theorem active_eq_of_history {versions : List Version}
    (split : registry.history identifier = versions.map Version.retired ++ [⟨template, true⟩]) :
    registry.active identifier = .ok template := by
  have retired : (versions.map Version.retired).find? (·.isActive) = none := by simp
  simp [active, active?, split, List.find?_append, retired]

theorem active_add_self : (registry.add identifier template).active identifier = .ok template :=
  active_eq_of_history history_add_self

theorem mem_identifiers : identifier ∈ registry.identifiers ↔ registry.contains identifier = true := by
  rw [identifiers, List.mem_mergeSort, contains, Entries.contains_iff_mem_keys]

/-- The identifiers are in increasing order, each once. -/
theorem identifiers_pairwise : registry.identifiers.Pairwise (· < ·) :=
  pairwise_lt_mergeSort registry.versions.distinct

/-! ## Activation -/

/-- A template whose structure is sound has an identifier. -/
theorem exists_identifier_of_problems (sound : template.problems = []) :
    ∃ identifier, template.identifier = some identifier := by
  have named := (List.append_eq_nil_iff.mp sound).1
  cases given : template.identifier with
  | some identifier => exact ⟨identifier, rfl⟩
  | none => simp [Template.lacksIdentifier, given] at named

theorem activate_of_sound (sound : template.problems = [])
    (identified : template.identifier = some identifier) :
    registry.activate template =
      (registry.add identifier template,
        if template.info.isSome then .ok template else .error .infoMissing) := by
  simp [activate, sound, identified]

theorem activate_of_problems (unsound : template.problems ≠ []) :
    registry.activate template =
      (registry, .error (.invalid (calledName template) template.problems)) := by
  unfold activate
  split
  next sound => exact absurd sound unsound
  next => rfl

/-- An activation is refused and changes nothing, or it adds the template to the versions of its
identifier. In that case it fails if compile information is lacking. -/
theorem activate_cases (registry : Registry) (template : Template) :
    (template.problems ≠ [] ∧
        registry.activate template =
          (registry, .error (.invalid (calledName template) template.problems))) ∨
      ∃ identifier, template.problems = [] ∧ template.identifier = some identifier ∧
        registry.activate template =
          (registry.add identifier template,
            if template.info.isSome then .ok template else .error .infoMissing) := by
  by_cases sound : template.problems = []
  · obtain ⟨identifier, identified⟩ := exists_identifier_of_problems sound
    exact .inr ⟨identifier, sound, identified, activate_of_sound sound identified⟩
  · exact .inl ⟨sound, activate_of_problems sound⟩

theorem info_of_template? (made : draft.template? = some template) :
    template.info = draft.info.bind DraftInfo.info? := by
  simp only [Draft.template?, Option.bind_eq_bind, Option.bind_eq_some_iff] at made
  obtain ⟨phases, -, _, -, questions, -, identifier, -, ⟨⟩⟩ := made
  rfl

/-! ## Lookups before and after -/

/-- Two registries answer every lookup alike. -/
structure SameViews (registry other : Registry) : Prop where
  history : ∀ identifier, registry.history identifier = other.history identifier
  active : ∀ identifier, registry.active identifier = other.active identifier
  contains : ∀ identifier, registry.contains identifier = other.contains identifier
  identifiers : registry.identifiers = other.identifiers

theorem SameViews.refl (registry : Registry) : SameViews registry registry :=
  ⟨fun _ => rfl, fun _ => rfl, fun _ => rfl, rfl⟩

/-- A template that is added shows in the versions of its identifier. -/
theorem not_sameViews_add : ¬ SameViews (registry.add identifier template) registry := by
  intro same
  have counts := congrArg List.length ((history_add_self).symm.trans (same.history identifier))
  simp at counts

/-- A failed activation leaves every lookup as it was unless the failure is the lack of compile
information, and that is found out only about a draft with a sound structure. -/
theorem failed_activation_keeps_views_iff
    (failed : (registry.activateDraft draft).2 = .error fault) :
    (SameViews (registry.activateDraft draft).1 registry ↔ fault ≠ .infoMissing) ∧
      (fault = .infoMissing ↔
        draft.info.bind DraftInfo.info? = none ∧
          ∃ template, draft.template? = some template ∧ template.problems = []) := by
  unfold activateDraft at failed ⊢
  cases made : draft.template? with
  | none =>
      simp only [made] at failed ⊢
      cases failed
      exact ⟨by simp [SameViews.refl], by simp⟩
  | some template =>
      simp only [made] at failed ⊢
      rcases activate_cases registry template with
        ⟨unsound, refused⟩ | ⟨identifier, sound, -, added⟩
      · rw [refused] at failed ⊢
        cases failed
        exact ⟨by simp [SameViews.refl], by simp [unsound]⟩
      · rw [added] at failed ⊢
        split at failed
        · cases failed
        next lacking =>
            cases failed
            rw [← info_of_template? made]
            exact ⟨by simp [not_sameViews_add], by simpa [sound] using lacking⟩

/-- The sample as a draft that lacks the compile information. -/
def sourceless : Draft :=
  { Template.sample.draft with info := none }

theorem failed_activation_keeps_views_sample :
    (empty.activateDraft sourceless).2 = .error .infoMissing ∧
      (SameViews (empty.activateDraft sourceless).1 empty ↔
        RegistryFault.infoMissing ≠ .infoMissing) ∧
      (RegistryFault.infoMissing = .infoMissing ↔
        sourceless.info.bind DraftInfo.info? = none ∧
          ∃ template, sourceless.template? = some template ∧ template.problems = []) :=
  ⟨rfl, failed_activation_keeps_views_iff rfl⟩

/-- A template without compile information does come in, although its activation fails. -/
theorem failed_activation_adds_version :
    ¬ ∀ (registry : Registry) (draft : Draft) (fault : RegistryFault),
        (registry.activateDraft draft).2 = .error fault →
          SameViews (registry.activateDraft draft).1 registry := by
  intro claim
  have same := claim empty sourceless .infoMissing rfl
  exact absurd (congrArg List.length (same.history "sample")) (by decide)

end Registry

end Interview
