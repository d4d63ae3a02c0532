import Interview.CommandLine.Arguments

/-!
# Options around files

Options can stand before and after the files. What they ask for does not depend on the files, and
what is read of the files does not depend on the options: `Arguments.read_around` says that the
options alone decide the settings, and that the files only add themselves.

`Reading.run` counts down while it goes through the arguments. `Reading.through` is the run that has
enough steps; everything after `run_eq_through` is about it.
-/

namespace Interview.CommandLine

variable {state : Reading} {word : Word} {words others : List Word} {fuel more : Nat}
variable {texts rest files before after : List String} {flag : Flag} {carried : Carried}
variable {text value : String}

@[simp] theorem Word.isOption_plain : (Word.plain text).isOption = false :=
  rfl

@[simp] theorem Word.isOption_separator : Word.separator.isOption = false :=
  rfl

@[simp] theorem Word.isOption_option {flag : Option Flag} :
    (Word.option flag carried text).isOption = true :=
  rfl

@[simp] theorem Word.plain_bne_separator : (Word.plain text != .separator) = true :=
  rfl

/-! ## One step -/

/-- The value that an option has in its own argument. -/
def Carried.text? : Carried → Option String
  | .none => Option.none
  | .value text => some text
  | .letters text => some text

namespace Reading

theorem run_unknown :
    run (fuel + 1) state (.option none carried text :: words) =
      run fuel { state with extras := state.extras ++ [text] } words :=
  rfl

/-- An option that takes no value. -/
theorem run_alone (takesNone : flag.takesValue = false) :
    run (fuel + 1) state (.option (some flag) carried text :: words) =
      state.applyAlone flag carried >>= fun state => run fuel state words := by
  cases flag <;> first | rfl | cases takesNone

/-- An option with its value in the same argument. -/
theorem run_joined (takes : flag.takesValue = true) (carries : carried.text? = some value) :
    run (fuel + 1) state (.option (some flag) carried text :: words) =
      state.apply flag value >>= fun state => run fuel state words := by
  cases carried <;> cases carries <;> cases flag <;> first | rfl | cases takes

/-- An option with its value in the next argument. -/
theorem run_separate (takes : flag.takesValue = true) :
    run (fuel + 1) state (.option (some flag) .none text :: .plain value :: words) =
      state.apply flag value >>= fun state => run fuel state words := by
  cases flag <;> first | rfl | cases takes

/-- An option without the value that it takes. -/
theorem run_missing (takes : flag.takesValue = true)
    (noValue : ∀ value others, words ≠ .plain value :: others) :
    run (fuel + 1) state (.option (some flag) .none text :: words) =
      .error (.usage (.valueMissing flag)) := by
  match words with
  | [] => cases flag <;> first | rfl | cases takes
  | .plain value :: others => exact absurd rfl (noValue value others)
  | .separator :: others => cases flag <;> first | rfl | cases takes
  | .option _ _ _ :: others => cases flag <;> first | rfl | cases takes

/-- Arguments that are not options are taken together. -/
theorem run_others (notOption : word.isOption = false) :
    run (fuel + 1) state (word :: words) =
      run fuel (state.addRun ((word :: words).takeWhile (!·.isOption)))
        ((word :: words).drop ((word :: words).takeWhile (!·.isOption)).length) := by
  cases word <;> first | rfl | cases notOption

/-- Fewer arguments are left when those that are not options are taken. -/
theorem length_drop_others (notOption : word.isOption = false) :
    ((word :: words).drop ((word :: words).takeWhile (!·.isOption)).length).length <
      (word :: words).length := by
  rw [List.takeWhile_cons_of_pos (by simp [notOption]), List.length_cons, List.drop_succ_cons,
    List.length_drop, List.length_cons]
  omega

/-! ## Enough steps -/

/-- More steps than arguments are as good as any other such number of steps. -/
theorem run_congr (enough : words.length < fuel) (enoughMore : words.length < more) :
    run fuel state words = run more state words := by
  induction fuel generalizing state words more with
  | zero => omega
  | succ fuel ih =>
    obtain ⟨more, rfl⟩ : ∃ m, more = m + 1 := ⟨more - 1, by omega⟩
    have shorter (state : Reading) {rest : List Word} (h : rest.length < words.length) :
        run fuel state rest = run more state rest :=
      ih (by omega) (by omega)
    match words with
    | [] => rfl
    | .option none _ _ :: words =>
      rw [run_unknown, run_unknown, shorter _ (by simp)]
    | .option (some flag) carried _ :: words =>
      cases takes : flag.takesValue with
      | false => simp only [run_alone takes, shorter _ (Nat.lt_succ_self words.length)]
      | true =>
        cases carries : carried.text? with
        | some value =>
          simp only [run_joined takes carries, shorter _ (Nat.lt_succ_self words.length)]
        | none =>
          obtain rfl : carried = .none := by cases carried <;> first | rfl | cases carries
          match words with
          | .plain value :: words =>
            have isShorter : words.length < words.length + 1 + 1 := by omega
            simp only [run_separate takes, shorter _ isShorter]
          | [] => rw [run_missing takes (by simp), run_missing takes (by simp)]
          | .separator :: words => rw [run_missing takes (by simp), run_missing takes (by simp)]
          | .option _ _ _ :: words =>
            rw [run_missing takes (by simp), run_missing takes (by simp)]
    | .plain text :: words =>
      rw [run_others rfl, run_others rfl, shorter _ (length_drop_others rfl)]
    | .separator :: words =>
      rw [run_others rfl, run_others rfl, shorter _ (length_drop_others rfl)]

/-- The state after all arguments, with enough steps for them. -/
def through (state : Reading) (words : List Word) : Except Stop Reading :=
  run (words.length + 1) state words

theorem run_eq_through (enough : words.length < fuel) :
    run fuel state words = state.through words :=
  run_congr enough (Nat.lt_succ_self _)

@[simp] theorem through_nil : state.through [] = .ok state :=
  rfl

theorem through_alone (takesNone : flag.takesValue = false) :
    state.through (.option (some flag) carried text :: words) =
      state.applyAlone flag carried >>= fun state => state.through words :=
  run_alone takesNone

theorem through_joined (takes : flag.takesValue = true) (carries : carried.text? = some value) :
    state.through (.option (some flag) carried text :: words) =
      state.apply flag value >>= fun state => state.through words :=
  run_joined takes carries

theorem through_separate (takes : flag.takesValue = true) :
    state.through (.option (some flag) .none text :: .plain value :: words) =
      state.apply flag value >>= fun state => state.through words := by
  have enough (state : Reading) : run (words.length + 2) state words = state.through words :=
    run_eq_through (by omega)
  simp only [through, List.length_cons, run_separate takes, enough]

end Reading

/-! ## Options -/

/-- Arguments that are options with the values that they take. A value can be an argument of its
own. -/
inductive AreOptions : List Word → Prop where
  | done : AreOptions []
  | unknown (carried : Carried) (text : String) {words : List Word} (rest : AreOptions words) :
    AreOptions (.option none carried text :: words)
  | alone {flag : Flag} (carried : Carried) (text : String) {words : List Word}
    (takesNone : flag.takesValue = false) (rest : AreOptions words) :
    AreOptions (.option (some flag) carried text :: words)
  | joined {flag : Flag} {carried : Carried} {value : String} (text : String) {words : List Word}
    (takes : flag.takesValue = true) (carries : carried.text? = some value)
    (rest : AreOptions words) :
    AreOptions (.option (some flag) carried text :: words)
  | separate {flag : Flag} (text value : String) {words : List Word}
    (takes : flag.takesValue = true) (rest : AreOptions words) :
    AreOptions (.option (some flag) .none text :: .plain value :: words)

namespace Reading

/-- The state with other files. -/
def withFiles (state : Reading) (files : Option (List String)) : Reading :=
  { state with files }

theorem apply_withFiles (files : Option (List String)) :
    (state.withFiles files).apply flag value =
      (state.apply flag value).map (·.withFiles files) := by
  cases flag <;> try rfl
  simp only [apply]
  cases Decimal.readWhole 10 value.toList <;> rfl

theorem applyAlone_withFiles (files : Option (List String)) :
    (state.withFiles files).applyAlone flag carried =
      (state.applyAlone flag carried).map (·.withFiles files) := by
  cases carried with
  | none => exact apply_withFiles files
  | value text => rfl
  | letters text =>
    simp only [applyAlone]
    cases ignoredLetters? text.toList with
    | none => exact apply_withFiles files
    | some value => rfl

/-- Options are gone through before whatever follows them. -/
theorem through_append (options : AreOptions words) :
    state.through (words ++ others) =
      state.through words >>= fun state => state.through others := by
  induction options generalizing state with
  | done => rfl
  | unknown carried text _ ih => exact ih
  | alone carried text takesNone _ ih =>
    simp only [List.cons_append, through_alone takesNone, ih, bind_assoc]
  | joined text takes carries _ ih =>
    simp only [List.cons_append, through_joined takes carries, ih, bind_assoc]
  | separate text value takes _ ih =>
    simp only [List.cons_append, through_separate takes, ih, bind_assoc]

/-- Options neither look at the files nor change them. -/
theorem through_withFiles (options : AreOptions words) (state : Reading)
    (files : Option (List String)) :
    (state.withFiles files).through words =
      (state.through words).map (·.withFiles files) := by
  induction options generalizing state with
  | done => rfl
  | unknown carried text _ ih => exact ih { state with extras := state.extras ++ [text] }
  | alone carried text takesNone _ ih =>
    simp only [through_alone takesNone, applyAlone_withFiles]
    cases state.applyAlone _ carried with
    | error stop => rfl
    | ok state => exact ih state
  | joined text takes carries _ ih =>
    simp only [through_joined takes carries, apply_withFiles]
    cases state.apply _ _ with
    | error stop => rfl
    | ok state => exact ih state
  | separate text value takes _ ih =>
    simp only [through_separate takes, apply_withFiles]
    cases state.apply _ value with
    | error stop => rfl
    | ok state => exact ih state

theorem files_of_through (options : AreOptions words) {after : Reading}
    (passed : state.through words = .ok after) : after.files = state.files := by
  have same : state.through words = (state.through words).map (·.withFiles state.files) :=
    through_withFiles options state state.files
  rw [passed] at same
  calc
    after.files = (after.withFiles state.files).files :=
      congrArg Reading.files (Except.ok.inj same)
    _ = state.files := rfl

/-- The files among options are taken together. -/
theorem through_files (notEmpty : files ≠ []) (options : AreOptions words)
    (noFiles : state.files = none) :
    state.through (files.map .plain ++ words) =
      (state.through words).map (·.withFiles (some files)) := by
  have taken : (files.map Word.plain ++ words).takeWhile (!·.isOption) = files.map .plain := by
    rw [List.takeWhile_append_of_pos (by simp)]
    cases options <;> simp
  have added : state.addRun (files.map .plain) = state.withFiles (some files) := by
    have noneDropped : (files.map Word.plain).filter (· != .separator) = files.map .plain :=
      List.filter_eq_self.mpr (by simp)
    have given : (files.map Word.plain).map Word.text = files := by
      simp [Function.comp_def, Word.text]
    have anyPlain : (files.map Word.plain).any (· != .separator) = true := by
      obtain ⟨file, others, rfl⟩ := List.exists_cons_of_ne_nil notEmpty
      simp
    simp only [addRun, noFiles, Option.isNone_none, anyPlain, Bool.and_self, if_true, noneDropped,
      given]
    rfl
  have dropped : (files.map Word.plain ++ words).drop (files.map Word.plain).length = words :=
    List.drop_left
  have enough : words.length < (files.map Word.plain ++ words).length := by
    have notNone : 0 < files.length := List.length_pos_iff.mpr notEmpty
    simp only [List.length_append, List.length_map]
    omega
  obtain ⟨file, others, rfl⟩ := List.exists_cons_of_ne_nil notEmpty
  rw [← through_withFiles options, ← run_eq_through enough, ← added]
  simp only [List.map_cons, List.cons_append] at taken dropped ⊢
  rw [through, run_others rfl, taken, dropped]

/-- Files among options add themselves to what the options alone lead to. -/
theorem through_around (options : AreOptions words) (further : AreOptions others)
    (notEmpty : files ≠ []) (noFiles : state.files = none) :
    state.through (words ++ (files.map .plain ++ others)) =
      (state.through (words ++ others)).map (·.withFiles (some files)) := by
  rw [through_append options, through_append options]
  cases passed : state.through words with
  | error stop => rfl
  | ok later =>
      exact through_files notEmpty further ((files_of_through options passed).trans noFiles)

/-- What a state asks for, if there are files and nothing is left that nobody asked for. -/
def arguments (state : Reading) : Except Stop Arguments :=
  match state.files, state.extras with
  | none, _ => .error (.usage .filesMissing)
  | some files, [] =>
    .ok { files := files.map .ofText, summary := state.summary, protocol := state.protocol
          indent := state.indent, logLevel := state.logLevel }
  | some _, extras => .error (.usage (.unrecognized extras))

theorem read_eq (environment : Environment) :
    Arguments.read environment texts =
      Word.ofTexts texts >>= fun words =>
        (initial environment).through words >>= arguments :=
  rfl

end Reading

/-! ## Kinds of arguments -/

theorem Word.ofText_file (noHyphen : text.toList.head? ≠ some '-') :
    Word.ofText text = .ok (.plain text) := by
  simp [Word.ofText, noHyphen]

theorem Word.ofTexts_append (noSeparator : "--" ∉ texts) :
    Word.ofTexts (texts ++ rest) =
      Word.ofTexts texts >>= fun words => (Word.ofTexts rest).map (words ++ ·) := by
  induction texts with
  | nil =>
    cases ofRest : Word.ofTexts rest <;> simp [Word.ofTexts, ofRest] <;> rfl
  | cons text texts ih =>
    obtain ⟨notFirst, notLater⟩ := List.ne_and_not_mem_of_not_mem_cons noSeparator
    simp only [List.cons_append, Word.ofTexts, Ne.symm notFirst, if_false, ih notLater]
    cases Word.ofText text with
    | error stop => rfl
    | ok word => cases Word.ofTexts texts <;> cases Word.ofTexts rest <;> rfl

theorem Word.ofTexts_files (noHyphen : ∀ file ∈ files, file.toList.head? ≠ some '-') :
    Word.ofTexts files = .ok (files.map .plain) := by
  induction files with
  | nil => rfl
  | cons file files ih =>
    obtain ⟨noHyphen, later⟩ := List.forall_mem_cons.mp noHyphen
    have noSeparator : file ≠ "--" := by
      rintro rfl
      exact noHyphen rfl
    rw [Word.ofTexts, if_neg noSeparator, Word.ofText_file noHyphen, ih later]
    rfl

/-- Arguments that are options with the values that they take. -/
structure AreOptionTexts (texts : List String) : Prop where
  noSeparator : "--" ∉ texts
  areOptions : ∀ words, Word.ofTexts texts = .ok words → AreOptions words

/-! ## What the arguments ask for -/

/-- The settings that options before and after the files ask for. -/
def settings (environment : Environment) (before after : List String) : Except Stop Reading :=
  Word.ofTexts before >>= fun words =>
    Word.ofTexts after >>= fun others => (Reading.initial environment).through (words ++ others)

/-- The options decide the settings, whatever files stand among them. -/
theorem Arguments.read_around (options : AreOptionTexts before) (further : AreOptionTexts after)
    (environment : Environment) (notEmpty : files ≠ [])
    (noHyphen : ∀ file ∈ files, file.toList.head? ≠ some '-') :
    Arguments.read environment (before ++ files ++ after) =
      settings environment before after >>= fun state =>
        (state.withFiles (some files)).arguments := by
  have noSeparator : "--" ∉ files := fun isFile => noHyphen _ isFile rfl
  rw [Reading.read_eq, List.append_assoc, Word.ofTexts_append options.noSeparator,
    Word.ofTexts_append noSeparator, Word.ofTexts_files noHyphen, settings]
  cases ofBefore : Word.ofTexts before with
  | error stop => rfl
  | ok words =>
    cases ofAfter : Word.ofTexts after with
    | error stop => rfl
    | ok others =>
      have noFiles : (Reading.initial environment).files = none := rfl
      have added := Reading.through_around (options.areOptions words ofBefore)
        (further.areOptions others ofAfter) notEmpty noFiles
      change (Reading.initial environment).through (words ++ (files.map .plain ++ others)) >>=
        Reading.arguments = (Reading.initial environment).through (words ++ others) >>= _
      rw [added]
      cases (Reading.initial environment).through (words ++ others) <;> rfl

end Interview.CommandLine
