import Interview.Registry

/-!
# Shipped playbooks

Two playbooks come with the library: a short workshop that looks for bottlenecks, and a longer one
over all standard phases. They stand in a directory of their own, from which a registry loads them.
-/

namespace Interview.Shipped

open Interview

/-- A workshop of five questions in two phases. -/
def bottleneckMinimal : List String :=
  ["---",
   "slug: bottleneck-minimal-v1",
   "category: process-optimization",
   "objective: \"Identify process bottlenecks and estimate automation ROI\"",
   "protocol: standard-discovery",
   "persona: melissa-default",
   "version: 1.0.0",
   "---",
   "# Bottleneck Discovery Workshop (Minimal)",
   "",
   "A streamlined 5-question discovery to identify workflow bottlenecks and estimate ROI potential.",
   "",
   "## Phases",
   "- greet_frame",
   "- discover_probe",
   "",
   "## Questions",
   "- id: q_intro_name",
   "  phase: greet_frame",
   "  type: free_text",
   "  text: \"Let's start with your name. What should I call you?\"",
   "",
   "- id: q_intro_role",
   "  phase: greet_frame",
   "  type: free_text",
   "  text: \"What's your role in the organization?\"",
   "",
   "- id: q_intro_process",
   "  phase: greet_frame",
   "  type: free_text",
   "  text: \"Which process or workflow would you like to optimize?\"",
   "",
   "- id: q_discover_time",
   "  phase: discover_probe",
   "  type: free_text",
   "  text: \"Approximately how many hours per week does your team spend on this process?\"",
   "",
   "- id: q_discover_pain",
   "  phase: discover_probe",
   "  type: free_text",
   "  text: \"What's the biggest frustration or bottleneck in this process?\"",
   "",
   "## Rules",
   "oneQuestionMode: true",
   "maxFollowups: 2",
   "",
   "## Scoring",
   "(Not implemented in v1.0.0 - placeholder for future)",
   "",
   "## Report",
   "(Not implemented in v1.0.0 - placeholder for future)"]

/-- A workshop over the five standard phases, with questions to choose from. -/
def bottleneckThroughput : List String :=
  ["# Playbook: Enterprise Bottleneck & Throughput Accelerator",
   "slug: bottleneck_throughput_v1",
   "category: Throughput",
   "objective: Identify the top 1–3 bottlenecks in a critical workflow and estimate capacity gains.",
   "protocol: bloom_ifl_v1",
   "persona: melissa_v2",
   "",
   "## Phases",
   "- greet_frame",
   "- discover_probe",
   "- validate_quantify",
   "- synthesize_reflect",
   "- advance_close",
   "",
   "## Questions",
   "- id: q_intro_scope",
   "  phase: greet_frame",
   "  type: free_text",
   "  text: \"In one sentence, which part of your operation feels most clogged right now?\"",
   "",
   "- id: q_where_clogs",
   "  phase: discover_probe",
   "  type: free_text",
   "  text: \"Where does work tend to pile up or wait for someone?\"",
   "",
   "- id: q_handoffs",
   "  phase: discover_probe",
   "  type: multi_choice",
   "  text: \"Which hand-offs are involved when work piles up?\"",
   "  options: [\"approvals\", \"data entry\", \"scheduling\", \"quality checks\", \"external vendors\"]",
   "",
   "- id: q_frequency",
   "  phase: validate_quantify",
   "  type: scale",
   "  text: \"How often does this bottleneck cause delays in a typical week?\"",
   "  options: [\"rarely\", \"1-2 times\", \"3-5 times\", \"daily\", \"multiple times per day\"]",
   "",
   "- id: q_priority",
   "  phase: synthesize_reflect",
   "  type: single_choice",
   "  text: \"If we could fix only one of these, which matters most?\"",
   "  options: [\"speed\", \"cost\", \"quality\"]",
   "",
   "## Rules",
   "forceCompliance: false",
   "localMaxQuestions: 15",
   "",
   "## Scoring",
   "dimensions:",
   "  - id: impact",
   "    label: \"Impact\"",
   "    weight: 0.6",
   "  - id: ease",
   "    label: \"Ease of Fix\"",
   "    weight: 0.4",
   "",
   "## Report",
   "sections:",
   "  - id: exec_summary",
   "    label: \"Executive Summary\"",
   "  - id: bottlenecks",
   "    label: \"Identified Bottlenecks\"",
   "  - id: recommendations",
   "    label: \"Recommendations\""]

/-- The directory of the playbooks. -/
def directory : Path := .ofText "playbooks"

/-- The file with the given lines. -/
def file (name : String) (lines : List String) : String × Option String :=
  ((directory.child name).text, some (String.join (lines.map (· ++ "\n"))))

/-- The directory with both playbooks in it. -/
def tree : FileTree :=
  .ofList
    [file "bottleneck-minimal-v1.md" bottleneckMinimal,
     file "bottleneck-throughput-v1.md" bottleneckThroughput]

end Interview.Shipped

namespace Interview

/-- The shipped playbooks are loaded. -/
def Registry.loadShipped (registry : Registry) :
    Registry × Except RegistryFault (List Template) :=
  registry.loadDirectory Shipped.tree Shipped.directory

end Interview
