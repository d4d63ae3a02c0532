import Interview.Proofs.Document.Normal

/-!
# The registry as a log

A registry is a summary of the templates that were activated, in the order in which they came in.
The log keeps the templates themselves. `Reflects` says how the one is read off the other; every
activation that succeeds keeps it when the log grows by its template, and one that is refused leaves
both as they are. A load of a directory is a chain of such activations, which may break off.
-/

namespace Interview

/-- The versions that templates become when they are activated one after the other: the last one is
active, and those before it are not. -/
def versionsOf (templates : List Template) : List Version :=
  templates.dropLast.map (⟨·, false⟩) ++ templates.getLast?.toList.map (⟨·, true⟩)

theorem map_retired_versionsOf (templates : List Template) :
    (versionsOf templates).map Version.retired = templates.map (⟨·, false⟩) := by
  cases templates using List.reverseRecOn with
  | nil => rfl
  | append_singleton templates template =>
      simp [versionsOf, Version.retired, Function.comp_def]

theorem versionsOf_concat (templates : List Template) (template : Template) :
    versionsOf (templates ++ [template]) =
      (versionsOf templates).map Version.retired ++ [⟨template, true⟩] := by
  rw [map_retired_versionsOf]
  simp [versionsOf]

/-- The templates of a log that have an identifier. -/
def templatesOf (log : List Template) (identifier : String) : List Template :=
  log.filter (·.identifier == some identifier)

namespace Registry

/-- Something that a registry is asked to do. -/
inductive Request where
  | activate (template : Template)
  | compile (document sourceRef : Value)
  | load (tree : FileTree) (directory : Path)

/-- A template that is handed over has its compile information, as every checked one has. -/
def Request.IsComplete : Request → Prop
  | .activate template => template.info.isSome = true
  | .compile _ _ | .load _ _ => True

/-- What comes of a request: the registry after it, and the templates that it gives back. -/
def perform (registry : Registry) : Request → Registry × Except RegistryFault (List Template)
  | .activate template =>
    let (next, result) := registry.activate template
    (next, result.map ([·]))
  | .compile document sourceRef =>
    let (next, result) := registry.compileAndActivate document sourceRef
    (next, result.map ([·]))
  | .load tree directory => registry.loadDirectory tree directory

/-- The registry after a list of requests, of which any can fail. -/
def performAll (registry : Registry) (requests : List Request) : Registry :=
  requests.foldl (fun registry request => (registry.perform request).1) registry

/-- The template of an activation that succeeded. -/
def activated (outcome : Except RegistryFault Template) : List Template :=
  outcome.toOption.toList

/-- The templates that come in with files, up to the first that gives none. -/
def activatedFrom (registry : Registry) (read : FileReader) : List Path → List Template
  | [] => []
  | path :: paths =>
    match registry.loadFile read path with
    | (next, .ok template) => template :: next.activatedFrom read paths
    | (_, .error _) => []

/-- The templates that a request activates, in order. -/
def activatedBy (registry : Registry) : Request → List Template
  | .activate template => activated (registry.activate template).2
  | .compile document sourceRef => activated (registry.compileAndActivate document sourceRef).2
  | .load tree directory =>
    if tree.find? directory = some .directory then
      registry.activatedFrom tree.read (playbooksIn tree directory)
    else []

/-- The templates that a list of requests activates, in order. -/
def logOf (registry : Registry) : List Request → List Template
  | [] => []
  | request :: requests =>
    registry.activatedBy request ++ (registry.perform request).1.logOf requests

variable {registry : Registry} {log : List Template} {template : Template} {identifier : String}
variable {request : Request} {requests : List Request} {fault : RegistryFault}

/-- What a registry holds is what the log of activated templates tells. -/
structure Reflects (log : List Template) (registry : Registry) : Prop where
  history : ∀ identifier, registry.history identifier = versionsOf (templatesOf log identifier)
  contains : ∀ identifier, registry.contains identifier = true ↔
    ∃ template ∈ log, template.identifier = some identifier
  sound : ∀ template ∈ log, template.problems = []

namespace Reflects

theorem empty : Reflects [] empty where
  history _ := rfl
  contains identifier := by simp [Registry.contains, Registry.empty]
  sound := by simp

/-- A template that is added comes to the end of the log. -/
theorem add (reflects : Reflects log registry) (sound : template.problems = [])
    (identified : template.identifier = some identifier) :
    Reflects (log ++ [template]) (registry.add identifier template) where
  history other := by
    by_cases same : identifier = other
    · subst same
      have last : templatesOf (log ++ [template]) identifier =
          templatesOf log identifier ++ [template] := by
        simp [templatesOf, identified]
      rw [history_add_self, last, versionsOf_concat, reflects.history]
    · have others : templatesOf (log ++ [template]) other = templatesOf log other := by
        simp [templatesOf, identified, same]
      rw [history_add_of_ne same, others, reflects.history]
  contains other := by
    rw [contains_add, reflects.contains]
    simp only [List.mem_append, List.mem_singleton, or_and_right, exists_or, exists_eq_left,
      identified, Option.some.injEq]
    rw [or_comm, eq_comm]
  sound := by
    intro other member
    rcases List.mem_append.mp member with before | last
    · exact reflects.sound other before
    · rwa [List.mem_singleton.mp last]

/-- The active version is that of the last template of the log with the identifier. -/
theorem active (reflects : Reflects log registry) :
    registry.active identifier =
      match (templatesOf log identifier).getLast? with
      | some template => .ok template
      | none => .error (.notFound identifier) := by
  have split := reflects.history identifier
  cases ending : (templatesOf log identifier).getLast? with
  | none =>
      rw [List.getLast?_eq_none_iff.mp ending] at split
      simp [Registry.active, active?, split, versionsOf]
  | some template =>
      obtain ⟨before, whole⟩ := List.getLast?_eq_some_iff.mp ending
      rw [whole, versionsOf_concat] at split
      exact active_eq_of_history split

/-- Every version is that of a template of the log. -/
theorem template_mem (reflects : Reflects log registry) {version : Version}
    (member : version ∈ registry.history identifier) : version.template ∈ log := by
  rw [reflects.history, versionsOf, List.mem_append, List.mem_map, List.mem_map] at member
  have among : version.template ∈ templatesOf log identifier := by
    rcases member with ⟨template, earlier, rfl⟩ | ⟨template, last, rfl⟩
    · exact (List.dropLast_sublist _).mem earlier
    · exact List.mem_of_getLast? (Option.mem_toList.mp last)
  exact List.mem_of_mem_filter among

end Reflects

/-! ## What a request does -/

/-- One activation either fails and changes nothing, or adds a template that it gives back. -/
def IsStep (registry : Registry) (outcome : Registry × Except RegistryFault Template) : Prop :=
  (∃ fault, outcome = (registry, .error fault)) ∨
    ∃ identifier template, template.problems = [] ∧ template.identifier = some identifier ∧
      outcome = (registry.add identifier template, .ok template)

theorem isStep_activate (complete : template.info.isSome = true) :
    IsStep registry (registry.activate template) := by
  rcases activate_cases registry template with ⟨-, refused⟩ | ⟨identifier, sound, identified, added⟩
  · exact .inl ⟨_, refused⟩
  · exact .inr ⟨identifier, template, sound, identified, by rw [added, if_pos complete]⟩

theorem isStep_compileAndActivate {document sourceRef : Value} :
    IsStep registry (registry.compileAndActivate document sourceRef) := by
  rcases compileAndActivate_cases registry document sourceRef with
    ⟨fault, refused⟩ | ⟨text, template, identifier, -, compiled, identified, added⟩
  · exact .inl ⟨_, refused⟩
  · exact .inr ⟨identifier, template, (Document.isNormal_of_compile compiled).problems_eq_nil,
      identified, added⟩

theorem isStep_loadFile (read : FileReader) (path : Path) :
    IsStep registry (registry.loadFile read path) := by
  unfold loadFile
  split
  · exact isStep_compileAndActivate
  · exact .inl ⟨_, rfl⟩

/-- One activation adds its template to the log as well as to the registry, or does neither. -/
theorem Reflects.step {outcome : Registry × Except RegistryFault Template}
    (reflects : Reflects log registry) (step : IsStep registry outcome) :
    Reflects (log ++ activated outcome.2) outcome.1 := by
  rcases step with ⟨fault, rfl⟩ | ⟨identifier, template, sound, identified, rfl⟩
  · simpa [activated, Except.toOption] using reflects
  · exact reflects.add sound identified

/-- Files are activated one after the other. -/
theorem Reflects.loadFiles {read : FileReader} {paths : List Path}
    (reflects : Reflects log registry) :
    Reflects (log ++ registry.activatedFrom read paths) (registry.loadFiles read paths).1 := by
  induction paths generalizing log registry with
  | nil => simpa [activatedFrom, Registry.loadFiles] using reflects
  | cons path paths ih =>
      have after := reflects.step (isStep_loadFile read path)
      unfold activatedFrom Registry.loadFiles
      rcases outcome : registry.loadFile read path with ⟨next, fault | template⟩
      · simpa [outcome, activated, Except.toOption] using after
      · rw [outcome] at after
        simpa [activated, Except.toOption] using ih after

/-- A request adds to the log what it activates, even if it fails on the way. -/
theorem Reflects.perform (reflects : Reflects log registry) (complete : request.IsComplete) :
    Reflects (log ++ registry.activatedBy request) (registry.perform request).1 := by
  cases request with
  | activate template => exact reflects.step (isStep_activate complete)
  | compile document sourceRef => exact reflects.step isStep_compileAndActivate
  | load tree directory =>
      simp only [activatedBy, Registry.perform, loadDirectory]
      split
      · exact reflects.loadFiles
      · simpa using reflects

theorem Reflects.performAll (reflects : Reflects log registry)
    (complete : ∀ request ∈ requests, request.IsComplete) :
    Reflects (log ++ registry.logOf requests) (registry.performAll requests) := by
  induction requests generalizing log registry with
  | nil => simpa [logOf, Registry.performAll] using reflects
  | cons request requests ih =>
      rw [List.forall_mem_cons] at complete
      rw [logOf, ← List.append_assoc]
      exact ih (reflects.perform complete.1) complete.2

/-! ## What a caller sees of the log -/

theorem activatedFrom_of_loadFiles {read : FileReader} {paths : List Path}
    {templates : List Template} (loaded : (registry.loadFiles read paths).2 = .ok templates) :
    registry.activatedFrom read paths = templates := by
  induction paths generalizing registry templates with
  | nil =>
      cases loaded
      rfl
  | cons path paths ih =>
      unfold activatedFrom
      unfold loadFiles at loaded
      rcases outcome : registry.loadFile read path with ⟨next, fault | template⟩
      · simp [outcome] at loaded
      · simp only [outcome] at loaded ⊢
        cases rest : (next.loadFiles read paths).2 with
        | error fault => simp [rest, Except.map] at loaded
        | ok others =>
            rw [rest] at loaded
            cases loaded
            rw [ih rest]

theorem activated_of_map {outcome : Except RegistryFault Template} {templates : List Template}
    (given : outcome.map ([·]) = .ok templates) : activated outcome = templates := by
  cases outcome with
  | error fault => cases given
  | ok template =>
      cases given
      rfl

/-- A request that succeeds gives back what it activates. -/
theorem activatedBy_of_ok {templates : List Template}
    (succeeded : (registry.perform request).2 = .ok templates) :
    registry.activatedBy request = templates := by
  cases request with
  | activate template => exact activated_of_map succeeded
  | compile document sourceRef => exact activated_of_map succeeded
  | load tree directory =>
      simp only [perform, loadDirectory] at succeeded
      simp only [activatedBy]
      split at succeeded
      next present => rw [if_pos present, activatedFrom_of_loadFiles succeeded]
      next => cases succeeded

/-- The request is for one template at most. -/
def Request.IsSingle : Request → Prop
  | .activate _ | .compile _ _ => True
  | .load _ _ => False

theorem IsStep.unchanged {outcome : Registry × Except RegistryFault Template}
    (step : IsStep registry outcome) (refused : outcome.2.map ([·]) = .error fault) :
    activated outcome.2 = [] ∧ outcome.1 = registry := by
  rcases step with ⟨_, rfl⟩ | ⟨_, _, -, -, rfl⟩
  · exact ⟨rfl, rfl⟩
  · cases refused

/-- A single activation that is refused adds nothing to the log and changes nothing. -/
theorem unchanged_of_refused (complete : request.IsComplete) (single : request.IsSingle)
    (refused : (registry.perform request).2 = .error fault) :
    registry.activatedBy request = [] ∧ (registry.perform request).1 = registry := by
  cases request with
  | activate template => exact (isStep_activate complete).unchanged refused
  | compile document sourceRef => exact isStep_compileAndActivate.unchanged refused
  | load tree directory => exact single.elim

/-! ## Main result -/

/-- A registry reflects the templates that were activated, among whatever requests, failed ones
included: the versions of an identifier are its templates in the order of their activation, the last
of them alone is active and is what is found, an identifier is known when the log has a template for
it, the known ones are listed in increasing order without repetition, and every version has a sound
structure. What a request adds to the log is what it gives back; a single activation that is refused
adds nothing. -/
theorem registry_reflects_log (requests : List Request)
    (complete : ∀ request ∈ requests, request.IsComplete) :
    let registry := empty.performAll requests
    let log := empty.logOf requests
    (∀ identifier,
      registry.history identifier = versionsOf (templatesOf log identifier) ∧
      (registry.active identifier =
        match (templatesOf log identifier).getLast? with
        | some template => .ok template
        | none => .error (.notFound identifier)) ∧
      (registry.contains identifier = true ↔
        ∃ template ∈ log, template.identifier = some identifier) ∧
      (identifier ∈ registry.identifiers ↔
        ∃ template ∈ log, template.identifier = some identifier) ∧
      ∀ version ∈ registry.history identifier, version.template.problems = []) ∧
      registry.identifiers.Pairwise (· < ·) ∧
      ∀ request : Request, request.IsComplete →
        (∀ templates, (registry.perform request).2 = .ok templates →
          registry.activatedBy request = templates) ∧
        ∀ fault, request.IsSingle → (registry.perform request).2 = .error fault →
          registry.activatedBy request = [] ∧ (registry.perform request).1 = registry := by
  intro registry log
  have reflects : Reflects log registry := Reflects.empty.performAll complete
  refine ⟨fun identifier => ?_, identifiers_pairwise, fun request complete => ?_⟩
  · exact ⟨reflects.history identifier, reflects.active, reflects.contains identifier,
      mem_identifiers.trans (reflects.contains identifier),
      fun version member => reflects.sound _ (reflects.template_mem member)⟩
  · exact ⟨fun templates => activatedBy_of_ok,
      fun fault single => unchanged_of_refused complete single⟩

/-- Two activations for one identifier, with a document between them that does not compile. -/
def sampleRequests : List Request :=
  [.activate .sample, .compile (.text "---") .null, .activate .sample]

theorem sampleRequests_isComplete : ∀ request ∈ sampleRequests, request.IsComplete := by
  simp [sampleRequests, Request.IsComplete, Template.sample]

theorem registry_reflects_log_sample :
    (∀ request ∈ sampleRequests, request.IsComplete) ∧
      (empty.logOf sampleRequests).map (·.identifier) = [some "sample", some "sample"] ∧
      (empty.performAll sampleRequests).history "sample" =
        versionsOf (templatesOf (empty.logOf sampleRequests) "sample") ∧
      (empty.performAll sampleRequests).identifiers.Pairwise (· < ·) := by
  obtain ⟨lookups, ordered, -⟩ := registry_reflects_log sampleRequests sampleRequests_isComplete
  exact ⟨sampleRequests_isComplete, by decide +kernel, (lookups "sample").1, ordered⟩

end Registry

end Interview
