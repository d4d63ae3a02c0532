import Interview.Template.Problem
import Interview.Yaml.Fault

/-!
# Problems of documents

A document that does not give a template has problems, all of which are reported together. Each is
a cause; its words are here. Of a text that is not YAML a reader says more than `Yaml.Malformed`
tells, with the line and the column; the problem therefore keeps the text itself, which decides what
is said.
-/

namespace Interview

/-- Something that keeps a document from being a template. -/
inductive DocumentProblem where
  | notText (kind : String)
  | openFrontmatter
  | frontmatterNotYaml (content : List Char) (why : Yaml.Malformed)
  | frontmatterNotMapping
  | repeatedSection (heading : String)
  | noPhaseLines
  | noQuestions
  | questionsNotYaml (content : List Char) (why : Yaml.Malformed)
  | emptyQuestions
  | questionsNotList
  | entryNotMapping (place : Nat)
  | fieldsMissing (place : Nat) (id : Option String) (fields : List String)
  | unknownType (id type : String)
  | optionsNotList (id : String)
  | malformedRule (line : String)
  | repeatedRule (key : String)
  | structural (problem : StructuralProblem)
  | badField (reason : String)
deriving DecidableEq, Repr

/-- What is said of a text that is not YAML. Behind the colon stand words of `Yaml.Malformed` in place
of those of the reader. -/
def notYaml (what : String) (why : Yaml.Malformed) : String :=
  what ++ " is not valid YAML: " ++ why.message

/-- The problem in words. -/
def DocumentProblem.message : DocumentProblem → String
  | .notText kind => "document must be text, got " ++ kind
  | .openFrontmatter => "frontmatter is not closed with '---'"
  | .frontmatterNotYaml _ why => notYaml "frontmatter" why
  | .frontmatterNotMapping => "frontmatter must be a mapping of key: value pairs"
  | .repeatedSection heading => "duplicate '" ++ heading ++ "' section"
  | .noPhaseLines => "'Phases' section is empty"
  | .noQuestions => "document has no 'Questions' section"
  | .questionsNotYaml _ why => notYaml "'Questions' section" why
  | .emptyQuestions => "'Questions' section is empty"
  | .questionsNotList => "'Questions' section must be a list of question entries"
  | .entryNotMapping place => "question #" ++ toString place ++ " must be a mapping"
  | .fieldsMissing place id fields =>
    "question #" ++ toString place ++ ((id.map fun id => " ('" ++ id ++ "')").getD "") ++
      " is missing required field(s): " ++ ", ".intercalate fields
  | .unknownType id type => "question '" ++ id ++ "' has unknown type '" ++ type ++ "'"
  | .optionsNotList id => "question '" ++ id ++ "' options must be a list"
  | .malformedRule line => "malformed rule line: '" ++ line ++ "'"
  | .repeatedRule key => "duplicate rule '" ++ key ++ "'"
  | .structural problem => problem.message
  | .badField reason => reason

end Interview
