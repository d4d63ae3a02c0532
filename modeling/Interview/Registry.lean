import Interview.Document.Compile
import Interview.Files.Tree
import Interview.Protocol.Override
import Interview.Template.Draft

/-!
# The registry of templates

Templates are kept by identifier, with all versions in the order of their activation. The version
activated last is the active one. A template whose structure is not sound is refused.
-/

namespace Interview

/-- One version of a template. -/
structure Version where
  template : Template
  isActive : Bool

/-- The versions of templates by identifier. -/
structure Registry where
  versions : Entries (List Version)

/-- Why a template does not come into the registry, comes in with a fault, or is not found there. -/
inductive RegistryFault where
  | invalid (identifier : String) (problems : List StructuralProblem)
  | notFound (identifier : String)
  | fieldMissing
  | infoMissing
  | document (fault : Document.Fault)
  | missingDirectory (path : Path)
  | missingFile (path : Path)
  | isDirectory
deriving DecidableEq, Repr

/-- The fault in words, where there are words for it. -/
def RegistryFault.message? : RegistryFault → Option String
  | .invalid identifier problems =>
    some (Protocol.invalidTemplate identifier (problems.map (·.message)))
  | .notFound identifier => some ("No active template found for '" ++ identifier ++ "'")
  | .document fault => fault.message?
  | .missingDirectory path => some ("Missing playbook directory: " ++ path.text)
  | .missingFile path => some ("Missing playbook file: " ++ path.text)
  | .fieldMissing | .infoMissing | .isDirectory => none

/-- The text of a playbook. -/
def readPlaybook (read : FileReader) (path : Path) : Except RegistryFault String :=
  (read path).mapError fun
    | .missing => .missingFile path
    | .isDirectory => .isDirectory

namespace Registry

/-- No templates. -/
def empty : Registry := ⟨.empty⟩

/-- The versions of a template, oldest first. -/
def history (registry : Registry) (identifier : String) : List Version :=
  (registry.versions.find? identifier).getD []

/-- The active version of a template. -/
def active? (registry : Registry) (identifier : String) : Option Template :=
  ((registry.history identifier).find? (·.isActive)).map (·.template)

/-- The active version of a template, which has to be there. -/
def active (registry : Registry) (identifier : String) : Except RegistryFault Template :=
  match registry.active? identifier with
  | some template => .ok template
  | none => .error (.notFound identifier)

/-- The identifiers of all templates, in increasing order. -/
def identifiers (registry : Registry) : List String :=
  registry.versions.keys.mergeSort fun a b => decide (a ≤ b)

/-- Whether there is a template with an identifier. -/
def contains (registry : Registry) (identifier : String) : Bool :=
  registry.versions.contains identifier

/-- The registry with a template as the active version of its identifier. -/
def add (registry : Registry) (identifier : String) (template : Template) : Registry :=
  let earlier := (registry.history identifier).map fun version => { version with isActive := false }
  ⟨registry.versions.put identifier (earlier ++ [⟨template, true⟩])⟩

/-- How a template without an identifier is called. -/
def unnamed : String := "<unnamed>"

/-- The identifier by which a refused template is called. -/
def calledName (template : Template) : String :=
  match template.identifier with
  | some identifier => if identifier.isEmpty then unnamed else identifier
  | none => unnamed

/-- A template is made the active version. It is refused if its structure is not sound. The source
of the template is noted afterwards, so one whose compile information is lacking comes in with a
fault. -/
def activate (registry : Registry) (template : Template) :
    Registry × Except RegistryFault Template :=
  match template.problems with
  | [] =>
    (registry.add (template.identifier.getD "") template,
      if template.info.isSome then .ok template else .error .infoMissing)
  | problems => (registry, .error (.invalid (calledName template) problems))

/-- A draft is activated as the template that it amounts to. It is refused if a field is lacking that
the check of its structure looks at. -/
def activateDraft (registry : Registry) (draft : Draft) :
    Registry × Except RegistryFault Template :=
  match draft.template? with
  | some template => registry.activate template
  | none => (registry, .error .fieldMissing)

/-- A document is made a template, and that the active version. -/
def compileAndActivate (registry : Registry) (document : Value) (sourceRef : Value) :
    Registry × Except RegistryFault Template :=
  match Document.compileValue document { Document.Overrides.none with sourceRef } with
  | .ok template => registry.activate template
  | .error fault => (registry, .error (.document fault))

/-- A file is read, and its document made the active version of a template. -/
def loadFile (registry : Registry) (read : FileReader) (path : Path) :
    Registry × Except RegistryFault Template :=
  match readPlaybook read path with
  | .ok text => registry.compileAndActivate (.text text) (.text path.text)
  | .error fault => (registry, .error fault)

/-- Files are loaded one after the other, up to the first that gives no template. -/
def loadFiles (registry : Registry) (read : FileReader) :
    List Path → Registry × Except RegistryFault (List Template)
  | [] => (registry, .ok [])
  | path :: paths =>
    match registry.loadFile read path with
    | (registry, .error fault) => (registry, .error fault)
    | (registry, .ok template) =>
      let (registry, result) := registry.loadFiles read paths
      (registry, result.map (template :: ·))

/-- Whether a name is that of a playbook. -/
def isPlaybookName (name : String) : Bool :=
  ".md".toList.isSuffixOf name.toList

/-- The playbooks directly in a directory, by increasing name. -/
def playbooksIn (tree : FileTree) (directory : Path) : List Path :=
  ((tree.list directory).filter isPlaybookName).map directory.child

/-- All playbooks of a directory are loaded. -/
def loadDirectory (registry : Registry) (tree : FileTree) (directory : Path) :
    Registry × Except RegistryFault (List Template) :=
  if tree.find? directory = some .directory then
    registry.loadFiles tree.read (playbooksIn tree directory)
  else (registry, .error (.missingDirectory directory))

end Registry

end Interview
