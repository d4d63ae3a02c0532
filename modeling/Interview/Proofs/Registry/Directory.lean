import Interview.Proofs.Files.Directory
import Interview.Proofs.Registry.Log

/-!
# Loading a directory

The playbooks of a directory are read, compiled and activated by increasing name. A load that breaks
off has done what it did up to there: the registry is that of the playbooks before the first one
that fails. `directory_loads_up_to_first_fault` says so of every registry and every directory, and
also that nothing else in the tree has a part in it.
-/

namespace Interview.Registry

variable {registry next last : Registry} {read : FileReader} {tree other : FileTree}
variable {directory path : Path} {paths : List Path} {names : List String}
variable {template : Template} {templates : List Template} {fault : RegistryFault}

/-! ## One file -/

/-- The file is read, and its document activated with a reference to the file. -/
def ActivatesFile (read : FileReader) (registry : Registry) (path : Path) (template : Template)
    (next : Registry) : Prop :=
  ∃ text, readPlaybook read path = .ok text ∧
    registry.compileAndActivate (.text text) (.text path.text) = (next, .ok template)

/-- The file is not read, or its document is not activated. -/
inductive RefusesFile (read : FileReader) (registry : Registry) (path : Path) :
    RegistryFault → Prop where
  | unread {fault : RegistryFault} (broken : readPlaybook read path = .error fault) :
      RefusesFile read registry path fault
  | unactivated {fault : RegistryFault} {text : String}
      (content : readPlaybook read path = .ok text)
      (refused : (registry.compileAndActivate (.text text) (.text path.text)).2 = .error fault) :
      RefusesFile read registry path fault

theorem loadFile_eq_ok_iff :
    registry.loadFile read path = (next, .ok template) ↔
      ActivatesFile read registry path template next := by
  unfold loadFile ActivatesFile
  cases readPlaybook read path with
  | ok text => simp
  | error fault => simp

/-- A file that is refused leaves the registry as it is. -/
theorem loadFile_eq_error_iff :
    registry.loadFile read path = (next, .error fault) ↔
      next = registry ∧ RefusesFile read registry path fault := by
  constructor
  · intro failed
    have step : IsStep registry (registry.loadFile read path) := isStep_loadFile read path
    rcases step with ⟨told, refused⟩ | ⟨_, _, _, _, added⟩
    · cases refused.symm.trans failed
      refine ⟨rfl, ?_⟩
      unfold loadFile at refused
      cases content : readPlaybook read path with
      | error fault =>
          rw [content] at refused
          cases refused
          exact .unread content
      | ok text =>
          rw [content] at refused
          exact .unactivated content (congrArg Prod.snd refused)
    · cases added.symm.trans failed
  · intro refuses
    obtain ⟨rfl, refuses⟩ := refuses
    unfold loadFile
    cases refuses with
    | unread broken => rw [broken]
    | @unactivated text content refused =>
        simp only [content]
        have step : IsStep next (next.compileAndActivate (.text text) (.text path.text)) :=
          isStep_compileAndActivate
        rcases step with ⟨told, unchanged⟩ | ⟨_, _, _, _, added⟩
        · rw [unchanged] at refused ⊢
          cases refused
          rfl
        · rw [added] at refused
          cases refused

/-! ## Files one after the other -/

/-- Files that are all activated, each in the registry that those before it have led to. -/
inductive ActivatesFiles (read : FileReader) :
    Registry → List Path → List Template → Registry → Prop where
  | nil (registry : Registry) : ActivatesFiles read registry [] [] registry
  | cons {registry next last : Registry} {path : Path} {paths : List Path} {template : Template}
      {templates : List Template} (first : ActivatesFile read registry path template next)
      (others : ActivatesFiles read next paths templates last) :
      ActivatesFiles read registry (path :: paths) (template :: templates) last

theorem loadFiles_cons_of_ok (first : registry.loadFile read path = (next, .ok template)) :
    registry.loadFiles read (path :: paths) =
      ((next.loadFiles read paths).1, (next.loadFiles read paths).2.map (template :: ·)) := by
  rw [loadFiles, first]

theorem loadFiles_cons_of_error (first : registry.loadFile read path = (next, .error fault)) :
    registry.loadFiles read (path :: paths) = (next, .error fault) := by
  rw [loadFiles, first]

/-- Files are loaded with success if each of them is activated. -/
theorem loadFiles_eq_ok_iff :
    registry.loadFiles read paths = (last, .ok templates) ↔
      ActivatesFiles read registry paths templates last := by
  constructor
  · intro loaded
    induction paths generalizing registry templates with
    | nil =>
        cases loaded
        exact .nil last
    | cons path paths ih =>
        rcases first : registry.loadFile read path with ⟨next, fault | template⟩
        · rw [loadFiles_cons_of_error first] at loaded
          cases loaded
        · rw [loadFiles_cons_of_ok first] at loaded
          rcases rest : next.loadFiles read paths with ⟨final, fault | others⟩
          · rw [rest] at loaded
            cases loaded
          · rw [rest] at loaded
            cases loaded
            exact .cons (loadFile_eq_ok_iff.mp first) (ih rest)
  · intro activates
    induction activates with
    | nil => rfl
    | cons first _ ih => rw [loadFiles_cons_of_ok (loadFile_eq_ok_iff.mpr first), ih]; rfl

/-- A load breaks off at the first file that is refused. -/
theorem loadFiles_eq_error_iff :
    registry.loadFiles read paths = (last, .error fault) ↔
      ∃ before path after templates, paths = before ++ path :: after ∧
        ActivatesFiles read registry before templates last ∧
        RefusesFile read last path fault := by
  constructor
  · intro failed
    induction paths generalizing registry with
    | nil => cases failed
    | cons path paths ih =>
        rcases first : registry.loadFile read path with ⟨next, told | template⟩
        · rw [loadFiles_cons_of_error first] at failed
          cases failed
          obtain ⟨rfl, refuses⟩ := loadFile_eq_error_iff.mp first
          exact ⟨[], path, paths, [], rfl, .nil _, refuses⟩
        · rw [loadFiles_cons_of_ok first] at failed
          rcases rest : next.loadFiles read paths with ⟨final, told | others⟩
          · rw [rest] at failed
            cases failed
            obtain ⟨before, bad, after, templates, rfl, activates, refuses⟩ := ih rest
            exact ⟨path :: before, bad, after, template :: templates, rfl,
              .cons (loadFile_eq_ok_iff.mp first) activates, refuses⟩
          · rw [rest] at failed
            cases failed
  · intro split
    obtain ⟨before, path, after, templates, rfl, activates, refuses⟩ := split
    induction activates with
    | nil => exact loadFiles_cons_of_error (loadFile_eq_error_iff.mpr ⟨rfl, refuses⟩)
    | cons first _ ih =>
        rw [List.cons_append, loadFiles_cons_of_ok (loadFile_eq_ok_iff.mpr first), ih refuses]
        rfl

/-- What is not among the files has no part in their load. -/
theorem loadFiles_congr {otherRead : FileReader}
    (same : ∀ path ∈ paths, otherRead path = read path) :
    registry.loadFiles otherRead paths = registry.loadFiles read paths := by
  induction paths generalizing registry with
  | nil => rfl
  | cons path paths ih =>
      obtain ⟨here, there⟩ := List.forall_mem_cons.mp same
      have first : registry.loadFile otherRead path = registry.loadFile read path := by
        simp only [loadFile, readPlaybook, here]
      rcases outcome : registry.loadFile read path with ⟨next, fault | template⟩
      · rw [loadFiles_cons_of_error outcome, loadFiles_cons_of_error (first.trans outcome)]
      · rw [loadFiles_cons_of_ok outcome, loadFiles_cons_of_ok (first.trans outcome), ih there]

/-! ## The playbooks of a directory -/

/-- The names of the playbooks that stand in a directory, in increasing order. -/
structure ListsPlaybooks (tree : FileTree) (directory : Path) (names : List String) : Prop where
  sorted : names.Pairwise (· < ·)
  complete : ∀ name, name ∈ names ↔
    isPlaybookName name = true ∧ tree.contains (directory.child name) = true

theorem ListsPlaybooks.unique {others : List String} (lists : ListsPlaybooks tree directory names)
    (otherLists : ListsPlaybooks tree directory others) : names = others := by
  apply lists.sorted.eq_of_mem_iff otherLists.sorted
  intro name
  rw [lists.complete, otherLists.complete]

/-- The directory around a directory is no playbook. -/
theorem ne_up_of_isPlaybookName {name : String} (playbook : isPlaybookName name = true) :
    name ≠ ".." := by
  rintro rfl
  cases playbook

theorem listsPlaybooks_list (present : tree.find? directory = some .directory) :
    ListsPlaybooks tree directory ((tree.list directory).filter isPlaybookName) where
  sorted := FileTree.pairwise_list.filter isPlaybookName
  complete name := by
    rw [List.mem_filter, and_comm]
    apply and_congr_right
    intro playbook
    exact FileTree.mem_list_iff present (ne_up_of_isPlaybookName playbook)

/-- A directory is loaded as the files that it lists. -/
theorem loadDirectory_eq (present : tree.find? directory = some .directory)
    (lists : ListsPlaybooks tree directory names) :
    registry.loadDirectory tree directory =
      registry.loadFiles tree.read (names.map directory.child) := by
  rw [loadDirectory, if_pos present, playbooksIn, lists.unique (listsPlaybooks_list present)]

/-! ## Main result -/

/-- A directory is loaded by increasing name of its playbooks. If all of them are activated, their
templates are given back in that order. Otherwise the load ends with the fault of the first that is
refused, in the registry to which those before it have led. Other trees that have the same at the
paths of playbooks in the directory are loaded alike. -/
theorem directory_loads_up_to_first_fault (registry : Registry) (tree : FileTree)
    (directory : Path) (present : tree.find? directory = some .directory) :
    ∃ names, ListsPlaybooks tree directory names ∧
      (∀ last templates, registry.loadDirectory tree directory = (last, .ok templates) ↔
        ActivatesFiles tree.read registry (names.map directory.child) templates last) ∧
      (∀ last fault, registry.loadDirectory tree directory = (last, .error fault) ↔
        ∃ before path after templates, names.map directory.child = before ++ path :: after ∧
          ActivatesFiles tree.read registry before templates last ∧
          RefusesFile tree.read last path fault) ∧
      ∀ other : FileTree, other.find? directory = some .directory →
        (∀ name, isPlaybookName name = true →
          other.find? (directory.child name) = tree.find? (directory.child name)) →
        registry.loadDirectory other directory = registry.loadDirectory tree directory := by
  have lists := listsPlaybooks_list present
  refine ⟨_, lists, ?_, ?_, ?_⟩
  · intro last templates
    rw [loadDirectory_eq present lists, loadFiles_eq_ok_iff]
  · intro last fault
    rw [loadDirectory_eq present lists, loadFiles_eq_error_iff]
  · intro other otherPresent same
    have otherLists : ListsPlaybooks other directory
        ((tree.list directory).filter isPlaybookName) := by
      refine ⟨lists.sorted, fun name => (lists.complete name).trans ?_⟩
      apply and_congr_right
      intro playbook
      rw [FileTree.contains, FileTree.contains, same name playbook]
    rw [loadDirectory_eq present lists, loadDirectory_eq otherPresent otherLists]
    apply loadFiles_congr
    intro path member
    obtain ⟨name, listed, rfl⟩ := List.mem_map.mp member
    rw [FileTree.read, FileTree.read, same name ((lists.complete name).mp listed).1]

/-- A directory with two documents of one title, a third that does not compile, and more. -/
def sampleTree : FileTree :=
  .ofList
    [("books/c.md", some "---"), ("books/b.md", some Document.sample), ("books/notes.txt", none),
      ("books/a.md", some Document.sample), ("books/old/d.md", some "---")]

/-- The directory of the sample. -/
def books : Path := .ofText "books"

theorem books_present : sampleTree.find? books = some .directory := by
  decide +kernel

/-- The files of the sample that count, by name. -/
theorem listsPlaybooks_sampleTree : ListsPlaybooks sampleTree books ["a.md", "b.md", "c.md"] where
  sorted := by decide
  complete name := by
    have led : sampleTree.follow [] books.names = some ["books"] := by decide +kernel
    have around : sampleTree.entryAt? ["books"] = some .directory := by decide +kernel
    constructor
    · intro listed
      simp only [List.mem_cons, List.not_mem_nil, or_false] at listed
      rcases listed with rfl | rfl | rfl <;> decide +kernel
    · rintro ⟨playbook, there⟩
      rw [FileTree.contains,
        FileTree.find?_child rfl led around (ne_up_of_isPlaybookName playbook),
        FileTree.isSome_entryAt?_iff] at there
      obtain ⟨entry, member⟩ := there
      have places : sampleTree.entries.map Prod.fst =
          [["books", "c.md"], ["books", "b.md"], ["books", "notes.txt"], ["books", "a.md"],
            ["books", "old", "d.md"], [], ["books"], [], ["books"], [], ["books"], [], ["books"], [],
            ["books"], ["books", "old"], []] := by
        decide +kernel
      have place : ["books", name] ∈ sampleTree.entries.map Prod.fst :=
        List.mem_map.mpr ⟨_, member, rfl⟩
      rw [places] at place
      simp only [List.mem_cons, List.cons.injEq, List.not_mem_nil, reduceCtorEq, true_and, and_true,
        and_false, or_false, false_or] at place ⊢
      rcases place with rfl | rfl | rfl | rfl | rfl
      · exact .inr (.inr rfl)
      · exact .inr (.inl rfl)
      · cases playbook
      · exact .inl rfl
      · cases playbook

/-- The third file ends the load, and the two before it stay. -/
theorem directory_loads_up_to_first_fault_sample :
    sampleTree.find? books = some .directory ∧
      ∃ last templates,
        ActivatesFiles sampleTree.read empty [books.child "a.md", books.child "b.md"] templates last ∧
        empty.loadDirectory sampleTree books =
          (last, .error (.document (.problems [.openFrontmatter]))) := by
  refine ⟨books_present, ?_⟩
  obtain ⟨names, lists, -, failed, -⟩ :=
    directory_loads_up_to_first_fault empty sampleTree books books_present
  have files : names.map books.child =
      [books.child "a.md", books.child "b.md"] ++ books.child "c.md" :: [] := by
    rw [lists.unique listsPlaybooks_sampleTree]
    rfl
  have succeeds : (empty.loadFiles sampleTree.read
      [books.child "a.md", books.child "b.md"]).2.toOption.any (fun _ => true) = true := by
    decide +kernel
  obtain ⟨templates, loaded, -⟩ := Document.exists_ok_of_any succeeds
  have activates := loadFiles_eq_ok_iff.mp (Prod.ext rfl loaded)
  have content : readPlaybook sampleTree.read (books.child "c.md") = .ok "---" := rfl
  have refuses (last : Registry) : RefusesFile sampleTree.read last (books.child "c.md")
      (.document (.problems [.openFrontmatter])) := .unactivated content rfl
  exact ⟨_, templates, activates,
    (failed _ _).mpr ⟨_, _, _, templates, files, activates, refuses _⟩⟩

end Interview.Registry
