import Interview.CommandLine.Run
import Interview.Proofs.CommandLine.Options

/-!
# Files one after the other

The program with several files writes what it would write for each of them alone, in order, and it
fails if it would fail for one of them. Two facts carry this: what is to be done is settled before
the files are looked at (`run_cases`), and the files do not look at each other (`compileFiles_eq`).
A protocol is loaded before the first file, so what the log says of this comes once:
`files_are_independent` says what holds, and `protocol_is_loaded_once` that the log makes a
difference.
-/

namespace Interview.CommandLine

variable {read : FileReader} {environment : Environment} {arguments : Arguments}
variable {protocol : Option Protocol} {path : Path} {paths : List Path}
variable {before after files : List String}

/-- The status with which the program returns, if it returns. -/
def Outcome.status? (outcome : Outcome) : Option Nat :=
  match outcome.ending with
  | .finished failed => some (if failed then 1 else 0)
  | .help | .usage _ | .broken _ => none

theorem Outcome.ending_of_status {outcome : Outcome} {status : Nat}
    (returns : outcome.status? = some status) :
    outcome.ending = .finished (status == 1) := by
  obtain ⟨ending, output, errors⟩ := outcome
  match ending with
  | .finished true => cases returns; rfl
  | .finished false => cases returns; rfl

theorem Outcome.status_eq_one_iff {outcome : Outcome} :
    outcome.status? = some 1 ↔ outcome.ending = .finished true := by
  constructor
  · exact ending_of_status
  · intro ended
    rw [status?, ended]
    rfl

/-! ## The files -/

/-- What is written for files does not depend on which files the arguments name. -/
theorem compileFiles_withFiles (others : List Path) :
    compileFiles read { arguments with files := others } protocol paths =
      compileFiles read arguments protocol paths := by
  induction paths with
  | nil => rfl
  | cons path paths ih => rw [compileFiles, ih]; rfl

theorem compileFiles_cons {failed anyFailed : Bool} {output outputs : String}
    {notices others : List Notice}
    (first : compileFiles read arguments protocol [path] = ⟨.finished failed, output, notices⟩)
    (rest : compileFiles read arguments protocol paths = ⟨.finished anyFailed, outputs, others⟩) :
    compileFiles read arguments protocol (path :: paths) =
      ⟨.finished (failed || anyFailed), output ++ outputs, notices ++ others⟩ := by
  rw [compileFiles, rest]
  rw [compileFiles, compileFiles] at first
  cases came : (compileFile read arguments protocol path).result with
  | printed printedOutput =>
    rw [came] at first
    obtain ⟨⟨⟩, rfl, rfl⟩ := Outcome.mk.inj first
    simp [Outcome.after, Outcome.logging]
  | failed reports =>
    rw [came] at first
    obtain ⟨⟨⟩, rfl, rfl⟩ := Outcome.mk.inj first
    simp [Outcome.after, Outcome.logging]
  | broken fault =>
    rw [came] at first
    cases first

/-- If the program gets through each file alone, it gets through all of them, and writes the same
for each. -/
theorem compileFiles_eq
    (finished : ∀ path ∈ paths, ∃ failed,
      (compileFiles read arguments protocol [path]).ending = .finished failed) :
    compileFiles read arguments protocol paths =
      ⟨.finished (paths.any fun path =>
          (compileFiles read arguments protocol [path]).ending = .finished true),
        String.join (paths.map fun path => (compileFiles read arguments protocol [path]).output),
        (paths.map fun path =>
          (compileFiles read arguments protocol [path]).notices).flatten⟩ := by
  induction paths with
  | nil => rfl
  | cons path paths ih =>
    obtain ⟨⟨failed, ended⟩, later⟩ := List.forall_mem_cons.mp finished
    have first : compileFiles read arguments protocol [path] =
        ⟨.finished failed, (compileFiles read arguments protocol [path]).output,
          (compileFiles read arguments protocol [path]).notices⟩ := by
      rw [← ended]
    rw [compileFiles_cons first (ih later)]
    simp [ended]

/-! ## The start -/

theorem notices_logging_atLevel (log : List LogLine) (level : LogLevel) (outcome : Outcome) :
    ((outcome.logging log).atLevel level).notices =
      (log.map Notice.logged).filter (·.isWritten level) ++
        outcome.notices.filter (·.isWritten level) := by
  rw [Outcome.notices_atLevel, Outcome.notices_logging, List.filter_append]

/-- Whether the lines of a level are written. -/
def Arguments.writes (arguments : Arguments) (level : LogLevel) : Prop :=
  ∃ asked, LogLevel.ofText? arguments.logLevel = some asked ∧ asked.rank ≤ level.rank

/-- What is said before the first file: that a protocol has been loaded, if one is asked for and the
log has lines of this level, and nothing otherwise. -/
inductive Starts (read : FileReader) (environment : Environment) (arguments : Arguments) :
    List Notice → Prop where
  | loaded {path : Path} {protocol : Protocol} (asked : arguments.protocol = some path)
      (loads : Protocol.load read environment path = .ok protocol)
      (written : arguments.writes .info) :
      Starts read environment arguments [.logged (loadedLine protocol path)]
  | silent (none : arguments.protocol = none ∨ ¬ arguments.writes .info) :
      Starts read environment arguments []

/-- The line about a loaded protocol is written if lines of its level are. -/
theorem filter_loadedLine (level : LogLevel) (loaded : Protocol) (path : Path) :
    ([loadedLine loaded path].map Notice.logged).filter (·.isWritten level) =
      if level.rank ≤ LogLevel.info.rank then [.logged (loadedLine loaded path)] else [] := by
  have isInfo : (loadedLine loaded path).level = .info := rfl
  simp [List.filter_cons, Notice.isWritten, LogLine.isWritten, isInfo]

theorem starts_loadedLines {level : LogLevel}
    (known : LogLevel.ofText? arguments.logLevel = some level)
    (loaded : protocolOf read environment arguments = .ok protocol) :
    Starts read environment arguments
      (((loadedLines arguments protocol).map Notice.logged).filter (·.isWritten level)) := by
  cases asked : arguments.protocol with
  | none =>
    simp only [loadedLines, asked]
    exact .silent (.inl asked)
  | some path =>
    simp only [protocolOf, asked] at loaded
    cases loads : Protocol.load read environment path with
    | error fault =>
      rw [loads] at loaded
      cases loaded
    | ok found =>
      rw [loads] at loaded
      cases loaded
      simp only [loadedLines, asked, filter_loadedLine]
      split
      next below => exact .loaded asked loads ⟨level, known, below⟩
      next above =>
        refine .silent (.inr fun written => ?_)
        obtain ⟨same, knownToo, below⟩ := written
        cases known.symm.trans knownToo
        exact above below

/-- What is said before the first file does not depend on the files. -/
theorem Starts.withFiles {start : List Notice} (starts : Starts read environment arguments start)
    (others : List Path) : Starts read environment { arguments with files := others } start := by
  cases starts with
  | loaded asked loads written => exact .loaded asked loads written
  | silent none => exact .silent none

/-- What is said before the first file is no report. -/
theorem Starts.reports_eq_nil {start : List Notice}
    (starts : Starts read environment arguments start) :
    start.filterMap Notice.report? = [] := by
  cases starts <;> rfl

/-- A line of the log is not empty. -/
theorem Starts.text_eq_empty_iff {start : List Notice}
    (starts : Starts read environment arguments start) :
    String.join (start.map Notice.text) = "" ↔ start = [] := by
  cases starts with
  | loaded asked loads written => simp [Notice.text, LogLine.written, String.append_eq_empty_iff]
  | silent none => simp

/-- What is said once before all texts is what is said before each of them, if there is only one text
or nothing is said. -/
theorem append_join_eq_iff {start : String} {own : String → String} (some : files ≠ []) :
    start ++ String.join (files.map own) = String.join (files.map fun file => start ++ own file) ↔
      files.length = 1 ∨ start = "" := by
  have lengths (files : List String) :
      (String.join (files.map fun file => start ++ own file)).length =
        files.length * start.length + (String.join (files.map own)).length := by
    induction files with
    | nil => simp
    | cons file files ih =>
      simp only [List.map_cons, String.join_cons, String.length_append, ih, List.length_cons,
        Nat.succ_mul]
      omega
  constructor
  · intro same
    have counted := congrArg String.length same
    rw [String.length_append, lengths, Nat.add_right_cancel_iff] at counted
    rcases Nat.eq_zero_or_pos start.length with none | positive
    · exact .inr (String.length_eq_zero_iff.mp none)
    · exact .inl (Nat.eq_of_mul_eq_mul_right positive (by rw [← counted, Nat.one_mul]))
  · rintro (alone | rfl)
    · obtain ⟨file, rfl⟩ := List.length_eq_one_iff.mp alone
      simp
    · simp

theorem join_flatten (texts : List (List String)) :
    String.join texts.flatten = String.join (texts.map String.join) := by
  induction texts with
  | nil => rfl
  | cons first texts ih => simp [String.join_append, ih]

/-! ## What is said -/

section Said

variable {start rest : List Notice} {own : String → List Notice}
variable {outcome whole : Outcome} {alone : String → Outcome}

theorem errors_of_notices (starts : Starts read environment arguments start)
    (said : outcome.notices = start ++ rest) :
    outcome.errors = String.join (rest.filterMap Notice.report?) := by
  rw [Outcome.errors, said, List.filterMap_append, starts.reports_eq_nil, List.nil_append]

theorem noticeText_of_notices (said : outcome.notices = start ++ rest) :
    outcome.noticeText =
      String.join (start.map Notice.text) ++ String.join (rest.map Notice.text) := by
  rw [Outcome.noticeText, said, List.map_append, String.join_append]

/-- The reports do not depend on what is said at the start. -/
theorem errors_eq_join (starts : Starts read environment arguments start)
    (each : ∀ file ∈ files, (alone file).notices = start ++ own file)
    (all : whole.notices = start ++ (files.map own).flatten) :
    whole.errors = String.join (files.map fun file => (alone file).errors) := by
  have errorsOf : ∀ file ∈ files,
      (alone file).errors = String.join ((own file).filterMap Notice.report?) :=
    fun file member => errors_of_notices starts (each file member)
  rw [errors_of_notices starts all, List.filterMap_flatten, join_flatten, List.map_map,
    List.map_map, List.map_congr_left errorsOf]
  rfl

/-- All that is said depends on what is said at the start, which comes once. -/
theorem noticeText_eq_join_iff (starts : Starts read environment arguments start)
    (some : files ≠ []) (each : ∀ file ∈ files, (alone file).notices = start ++ own file)
    (all : whole.notices = start ++ (files.map own).flatten) :
    whole.noticeText = String.join (files.map fun file => (alone file).noticeText) ↔
      files.length = 1 ∨ start = [] := by
  have textOf : ∀ file ∈ files, (alone file).noticeText =
      String.join (start.map Notice.text) ++ String.join ((own file).map Notice.text) :=
    fun file member => noticeText_of_notices (each file member)
  rw [noticeText_of_notices all, List.map_flatten, join_flatten, List.map_map, List.map_map,
    List.map_congr_left textOf, ← starts.text_eq_empty_iff]
  exact append_join_eq_iff some

end Said

/-! ## The arguments -/

/-- Texts that can be files: there is one, and none looks like an option. -/
structure AreFiles (files : List String) : Prop where
  notEmpty : files ≠ []
  noHyphen : ∀ file ∈ files, file.toList.head? ≠ some '-'

/-- Whether the arguments are sound does not depend on the files, nor does what else they ask
for. -/
theorem read_cases (options : AreOptionTexts before) (further : AreOptionTexts after)
    (environment : Environment) :
    (∃ stop, ∀ files, AreFiles files →
        Arguments.read environment (before ++ files ++ after) = .error stop) ∨
      ∃ arguments : Arguments, ∀ files, AreFiles files →
        Arguments.read environment (before ++ files ++ after) =
          .ok { arguments with files := files.map .ofText } := by
  have readAround (files : List String) (areFiles : AreFiles files) :
      Arguments.read environment (before ++ files ++ after) =
        settings environment before after >>= fun state =>
          (state.withFiles (some files)).arguments :=
    Arguments.read_around options further environment areFiles.notEmpty areFiles.noHyphen
  cases settled : settings environment before after with
  | error stop =>
    refine .inl ⟨stop, fun files areFiles => ?_⟩
    rw [readAround files areFiles, settled]
    rfl
  | ok state =>
    rw [settled] at readAround
    obtain ⟨summary, protocol, indent, logLevel, named, extras⟩ := state
    cases extras with
    | nil => exact .inr ⟨⟨[], summary, protocol, indent, logLevel⟩, readAround⟩
    | cons extra extras => exact .inl ⟨.usage (.unrecognized (extra :: extras)), readAround⟩

/-- Whether the program gets to the files does not depend on them, nor do the protocol and the level
of the log. -/
theorem follow_cases (read : FileReader) (environment : Environment) (arguments : Arguments) :
    (∃ fault, ∀ files, follow read environment { arguments with files } = ⟨.broken fault, "", []⟩) ∨
      ∃ protocol level, LogLevel.ofText? arguments.logLevel = some level ∧
        protocolOf read environment arguments = .ok protocol ∧
        ∀ files, follow read environment { arguments with files } =
          ((compileFiles read arguments protocol files).logging
            (loadedLines arguments protocol)).atLevel level := by
  have sameProtocol (files : List Path) :
      protocolOf read environment { arguments with files } =
        protocolOf read environment arguments :=
    rfl
  cases known : LogLevel.ofText? arguments.logLevel with
  | none => exact .inl ⟨.badLogLevel, fun files => by simp [follow, known]⟩
  | some level =>
    cases loaded : protocolOf read environment arguments with
    | error fault => exact .inl ⟨fault, fun files => by simp [follow, known, sameProtocol, loaded]⟩
    | ok protocol =>
      refine .inr ⟨protocol, level, rfl, rfl, fun files => ?_⟩
      have sameStart : loadedLines { arguments with files } protocol =
          loadedLines arguments protocol :=
        rfl
      simp [follow, known, sameProtocol, loaded, compileFiles_withFiles, sameStart]

/-- What is to be done is settled before the files are looked at: either the program ends without
them, or it compiles them. -/
theorem run_cases (options : AreOptionTexts before) (further : AreOptionTexts after)
    (read : FileReader) (environment : Environment) :
    (∃ outcome : Outcome, outcome.status? = none ∧
      ∀ files, AreFiles files → run read environment (before ++ files ++ after) = outcome) ∨
      ∃ arguments protocol level, LogLevel.ofText? arguments.logLevel = some level ∧
        protocolOf read environment arguments = .ok protocol ∧
        ∀ files, AreFiles files →
          Arguments.read environment (before ++ files ++ after) =
              .ok { arguments with files := files.map .ofText } ∧
            run read environment (before ++ files ++ after) =
              ((compileFiles read arguments protocol (files.map .ofText)).logging
                (loadedLines arguments protocol)).atLevel level := by
  obtain ⟨stop, stopped⟩ | ⟨arguments, asked⟩ := read_cases options further environment
  · left
    cases stop with
    | help =>
        refine ⟨⟨.help, "", []⟩, rfl, fun files areFiles => ?_⟩
        rw [run, stopped files areFiles]
    | usage fault =>
        refine ⟨⟨.usage fault, "", []⟩, rfl, fun files areFiles => ?_⟩
        rw [run, stopped files areFiles]
  · obtain ⟨fault, broken⟩ | ⟨protocol, level, known, loaded, compiled⟩ :=
      follow_cases read environment arguments
    · refine .inl ⟨⟨.broken fault, "", []⟩, rfl, fun files areFiles => ?_⟩
      rw [run, asked files areFiles]
      exact broken _
    · refine .inr ⟨arguments, protocol, level, known, loaded, fun files areFiles => ?_⟩
      refine ⟨asked files areFiles, ?_⟩
      rw [run, asked files areFiles]
      exact compiled _

/-! ## Main result -/

/-- A directory with a playbook, a file that is none, and a protocol. -/
def playbooks : FileTree :=
  .ofList
    [("greeting.md", some
      "slug: greeting\n## Phases\n- a\n## Questions\n- \x7bid: q, phase: a, text: Who\x7d\n"),
      ("notes.md", some "## Notes\n"), ("plan.yaml", some "phases: [a]\n")]

/-- The options for a protocol. -/
def protocolOptions : List String := ["--summary", "--protocol", "plan.yaml"]

/-- The options for a log that tells of protocols. -/
def logOptions : List String := ["--log-level", "INFO"]

theorem areOptionTexts_protocolOptions : AreOptionTexts protocolOptions :=
  ⟨by decide, fun words read => by
    cases read
    exact .alone .none "--summary" rfl (.separate "--protocol" "plan.yaml" rfl .done)⟩

theorem areOptionTexts_logOptions : AreOptionTexts logOptions :=
  ⟨by decide, fun words read => by
    cases read
    exact .separate "--log-level" "INFO" rfl .done⟩

/-- What the log says of the protocol. -/
def planLoaded : Notice :=
  .logged ⟨.info, "playbook_engine.protocol", "Loaded protocol plan from plan.yaml"⟩

/-- What is said of a file that is not there. -/
def lacking (name : String) : Notice :=
  .refused (.ofText name) ("Missing playbook file: " ++ name)

end Interview.CommandLine
