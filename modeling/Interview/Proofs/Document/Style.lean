import Interview.Proofs.Document.Preamble
import Interview.Proofs.Yaml.Field
import Interview.Proofs.Yaml.Number

/-!
# Two styles of a header

A key of the header can be set in a frontmatter or in a line of the preamble. The line gives the
value as it is written, and the frontmatter the text of what YAML takes it for. The two styles agree
on the values that are verbatim, and on hardly any other. Which words and which digits are verbatim
is said by `isVerbatim_iff_of_isWord`, `isVerbatim_iff_of_digits` and `isVerbatim_iff_of_zero`.
-/

namespace Interview

open Interview.Text Interview.Yaml

/-- What a template has under a key of the header. -/
def Template.headerField (template : Template) : String → Option String
  | "slug" => template.identifier
  | "name" => template.name
  | "category" => template.category
  | "objective" => template.objective
  | "protocol" => template.protocolRef
  | "persona" => template.personaRef
  | "version" => template.version
  | _ => none

namespace Document

variable {key value body digest : String} {line : Line} {rest : List Line}
variable {texts : String → Option String} {template : Template} {read : Body}
variable {header : Header} {before : List Line} {preamble : Preamble}

/-! ## Writing a key of the header -/

/-- The document whose preamble begins with a key and its value. -/
def inPreamble (key value body : String) : String :=
  String.ofList (headerLine key value ++ '\n' :: body.toList)

/-- The document whose frontmatter is a key and its value. -/
def inFrontmatter (key value body : String) : String :=
  String.ofList ("---".toList ++ '\n' :: (headerLine key value ++ '\n' :: ("---".toList ++
    '\n' :: body.toList)))

/-- The lines of a text. -/
def bodyLines (body : String) : List Line := lines (dropReturns body.toList)

/-- A body that compiles, without a frontmatter and without a line in its preamble that sets the
key. -/
structure LeavesOpen (key : String) (body : String) : Prop where
  compiles : ∃ template, compile body .none = .ok template
  plain : ∃ rest, Opening.ofLines (bodyLines body) = .plain rest
  unset : ∀ line ∈ (splitSections (bodyLines body)).1, ∀ value, headerLine? line ≠ some (key, value)

/-! ## The frontmatter -/

/-- A header whose frontmatter is one entry. -/
theorem states_inFrontmatter {given : Value} {shown : Option String}
    (stated : Header.States ⟨[], Preamble.ofLines before⟩ texts)
    (gives : Header.text? ⟨[(.text key, given)], Preamble.ofLines before⟩ key = .ok shown) :
    Header.States ⟨[(.text key, given)], Preamble.ofLines before⟩
      (Function.update texts key shown) := by
  intro name among
  by_cases same : name = key
  · subst same
    rw [gives, Function.update_self]
  · rw [Function.update_of_ne same, ← stated name among]
    refine Header.text?_congr ?_
    have other : (Value.text key).sameKey (.text name) = false := by
      simpa [Value.sameKey] using Ne.symm same
    simp [Header.value?, Value.lookup, other]

/-- A lone hyphen is no value, but the mark of a list entry in a wrong place. -/
theorem frontmatterEntries_hyphen (isKey : key ∈ headerKeys) {entries : List (Value × Value)} :
    frontmatterEntries (headerLine key "-") ≠ .ok entries := by
  have all : ∀ key ∈ headerKeys, (frontmatterEntries (headerLine key "-")).isOk = false := by
    decide +kernel
  intro read
  have refused := all key isKey
  rw [read] at refused
  cases refused

theorem isSound_headerLine (isKey : key ∈ headerKeys) (is : IsHeaderWord value)
    (other : value ≠ "-") :
    Sheet.Field.isSound ⟨key.toList, .scalar (.plain value.toList)⟩ = true := by
  have apart : value.toList ≠ ['-'] := fun same => other (String.toList_inj.mp same)
  have plain : isPlainWord value.toList = true := by
    simpa [isPlainWord, is.ne_empty, apart] using is.chars
  rw [Sheet.Field.isSound, (forall_headerKeys key isKey).1]
  exact plain

/-- A frontmatter that is a key and its value has one entry, with what YAML takes the value for. -/
theorem frontmatterEntries_headerLine (isKey : key ∈ headerKeys) (is : IsHeaderWord value)
    {entries : List (Value × Value)} :
    frontmatterEntries (headerLine key value) = .ok entries ↔
      value ≠ "-" ∧ ∃ given, (Sheet.Scalar.plain value.toList).read = .ok given ∧
        entries = [(.text key, given)] := by
  by_cases hyphen : value = "-"
  · subst hyphen
    exact iff_of_false (frontmatterEntries_hyphen isKey) (fun found => found.1 rfl)
  · have visible : isBlankText (headerLine key value) = false := by
      obtain ⟨c, others, split, letter⟩ := exists_letter_of_isKey isKey
      simp [isBlankText, headerLine, split, isBlank_of_isLetter letter]
    have isField : headerLine key value =
        Sheet.Field.text ⟨key.toList, .scalar (.plain value.toList)⟩ := rfl
    have content := Sheet.Field.content_eq (isSound_headerLine isKey is hyphen)
      (forall_headerKeys key isKey).2.1
    rw [frontmatterEntries, if_neg (by simp [visible]), contentOf, isField, content]
    cases (Sheet.Scalar.plain value.toList).read with
    | ok given =>
        simp [Except.map, bind, Except.bind, Value.ofEntries, hyphen, eq_comm]
    | error fault =>
        cases fault <;> simp [Except.map, bind, Except.bind, refuse]

/-- A header shows nothing of the absent value. -/
theorem text?_null : Header.text? ⟨[(.text key, .null)], preamble⟩ key = .ok none := by
  simp [Header.text?, Header.value?, Value.lookup, Value.sameKey]

/-- What a header shows of the value under its only key. -/
theorem text?_entry {given : Value} (some : given ≠ .null)
    (tidy : ∀ text, given.text? = .some text → text.IsTidy) {shown : Option String} :
    Header.text? ⟨[(.text key, given)], preamble⟩ key = .ok shown ↔
      ∃ text, given.text? = .some text ∧ shown = .some text := by
  have there : Header.value? ⟨[(.text key, given)], preamble⟩ key = .some given := by
    simp [Header.value?, Value.lookup, Value.sameKey]
  have shows : Header.text? ⟨[(.text key, given)], preamble⟩ key = (do
      let text := (← textOf given).trimBlank
      .ok (if text.isEmpty then none else .some text)) := by
    rw [Header.text?, there]
    cases given with
    | null => exact absurd rfl some
    | _ => rfl
  rw [shows, textOf]
  cases written : given.text? with
  | none => simp [bind, Except.bind]
  | some text =>
      have tidyText := tidy text written
      have visible : text.isEmpty = false := by
        rw [String.isEmpty_eq_false_iff]
        rintro rfl
        exact absurd tidyText.2 (by decide)
      simp only [bind, Except.bind, tidyText.1, visible, Bool.false_eq_true, if_false,
        Except.ok.injEq, Option.some.injEq, exists_eq_left']
      exact eq_comm

/-! ## The documents -/

/-- The first line of a text is split off. -/
theorem lines_dropReturns_append {text : List Char} (visible : ∀ c ∈ line, isVisible c = true) :
    lines (dropReturns (line ++ '\n' :: text)) = line :: lines (dropReturns text) := by
  have hidden {c : Char} (invisible : isVisible c = false) : c ∉ line := fun inside => by
    rw [visible c inside] at invisible
    cases invisible
  have noReturn : '\r' ∉ line ++ ['\n'] := by
    rw [List.mem_append, not_or]
    exact ⟨hidden rfl, by decide⟩
  have kept := dropReturns_append noReturn text
  rw [List.append_assoc, List.singleton_append] at kept
  rw [kept, List.append_assoc, List.singleton_append, lines_append_feed,
    lines_of_notMem (hidden rfl), List.singleton_append]

theorem bodyLines_inPreamble (isKey : key ∈ headerKeys) (is : IsHeaderWord value) (body : String) :
    bodyLines (inPreamble key value body) = headerLine key value :: bodyLines body := by
  rw [bodyLines, inPreamble, String.toList_ofList,
    lines_dropReturns_append (isVisible_of_headerLine isKey is), bodyLines]

theorem bodyLines_inFrontmatter (isKey : key ∈ headerKeys) (is : IsHeaderWord value)
    (body : String) :
    bodyLines (inFrontmatter key value body) =
      "---".toList :: headerLine key value :: "---".toList :: bodyLines body := by
  have fence : ∀ c ∈ "---".toList, isVisible c = true := List.all_eq_true.mp rfl
  have written : (inFrontmatter key value body).toList =
      "---".toList ++ '\n' :: (headerLine key value ++ '\n' :: ("---".toList ++
        '\n' :: body.toList)) := String.toList_ofList
  rw [bodyLines, written, lines_dropReturns_append fence,
    lines_dropReturns_append (isVisible_of_headerLine isKey is), lines_dropReturns_append fence,
    bodyLines]

/-- Lines that begin no frontmatter are the body. -/
theorem eq_of_plain {all : List Line} (plain : Opening.ofLines all = .plain rest) : rest = all := by
  cases all with
  | nil =>
      cases plain
      rfl
  | cons line others =>
      rw [Opening.ofLines] at plain
      split at plain
      · split at plain <;> cases plain
      · cases plain
        rfl

/-- The preamble of a body. -/
def preambleOf (body : String) : Preamble :=
  Preamble.ofLines (splitSections (bodyLines body)).1

/-- What is read of a body: the texts of its header, without one under the key, and its sections. -/
structure Gives (key body : String) (texts : String → Option String) (read : Body) : Prop where
  distinct : repeatedSection? [] (splitSections (bodyLines body)).2 = none
  stated : Header.States ⟨[], preambleOf body⟩ texts
  absent : texts key = none
  sections : bodyOf (splitSections (bodyLines body)).2 = .ok read

/-- The title of a body. -/
def titleOfBody (body : String) : Option String :=
  Header.title? ⟨[], preambleOf body⟩

theorem LeavesOpen.exists_gives (isKey : key ∈ headerKeys) (leaves : LeavesOpen key body) :
    ∃ texts read, Gives key body texts read := by
  obtain ⟨⟨template, compiled⟩, ⟨all, plain⟩, unset⟩ := leaves
  obtain ⟨header, sections, texts, read, outlined, stated, sectionsRead, rfl⟩ :=
    compile_none_eq_ok.mp compiled
  obtain ⟨entries, body', opens, distinct, rfl, rfl⟩ := outline_eq_ok.mp outlined
  obtain rfl := eq_of_plain plain
  cases opens with
  | fenced begins => cases plain.symm.trans begins
  | plain begins =>
      cases plain.symm.trans begins
      have none : Header.text? ⟨[], preambleOf body⟩ key = .ok none := by
        simp [Header.text?, Header.value?, Value.lookup, preambleOf,
          Preamble.find?_ofLines_of_unset unset]
      exact ⟨texts, read, distinct, stated,
        Except.ok.inj ((stated key isKey).symm.trans none), sectionsRead⟩

/-- A document with the sections and the title of a body compiles with the texts of its header. -/
theorem Gives.compile_eq {text : String} (gives : Gives key body texts read)
    {shown : String → Option String}
    (outlined : outline (dropReturns text.toList) = .ok (header, (splitSections (bodyLines body)).2))
    (stated : header.States shown) (titled : header.title? = titleOfBody body) :
    compile text .none =
      .ok (templateFrom (titleOfBody body) shown (Digest.ofText text) read) :=
  compile_none_eq_ok.mpr ⟨header, _, shown, read, outlined, stated, gives.sections, by rw [titled]⟩

/-- The body on its own. -/
theorem Gives.compile_body (gives : Gives key body texts read)
    (plain : ∃ rest, Opening.ofLines (bodyLines body) = .plain rest) :
    compile body .none =
      .ok (templateFrom (titleOfBody body) texts (Digest.ofText body) read) := by
  obtain ⟨rest, plain⟩ := plain
  obtain rfl := eq_of_plain plain
  have outlined : outline (dropReturns body.toList) =
      .ok (⟨[], preambleOf body⟩, (splitSections (bodyLines body)).2) :=
    outline_eq_ok.mpr ⟨[], bodyLines body, .plain plain, gives.distinct, rfl, rfl⟩
  exact gives.compile_eq outlined gives.stated rfl

/-- With the key in its preamble. -/
theorem Gives.compile_inPreamble (gives : Gives key body texts read) (isKey : key ∈ headerKeys)
    (is : IsHeaderWord value)
    (unset : ∀ line ∈ (splitSections (bodyLines body)).1, ∀ value,
      headerLine? line ≠ some (key, value)) :
    compile (inPreamble key value body) .none =
      .ok (templateFrom (titleOfBody body) (Function.update texts key (some value))
        (Digest.ofText (inPreamble key value body)) read) := by
  obtain ⟨noFence, noHeading, -⟩ := headerLine_plain isKey is
  have split : splitSections (headerLine key value :: bodyLines body) =
      (headerLine key value :: (splitSections (bodyLines body)).1,
        (splitSections (bodyLines body)).2) := by
    simp [splitSections, noHeading]
  have plain : Opening.ofLines (bodyLines (inPreamble key value body)) =
      .plain (headerLine key value :: bodyLines body) := by
    rw [bodyLines_inPreamble isKey is, Opening.ofLines, noFence]
    rfl
  have outlined : outline (dropReturns (inPreamble key value body).toList) =
      .ok (⟨[], Preamble.ofLines (headerLine key value :: (splitSections (bodyLines body)).1)⟩,
        (splitSections (bodyLines body)).2) := by
    refine outline_eq_ok.mpr ⟨[], _, .plain plain, ?_, ?_, ?_⟩ <;> rw [split]
    exact gives.distinct
  refine gives.compile_eq outlined (states_inPreamble isKey is unset gives.stated) ?_
  simp only [titleOfBody, preambleOf, Header.title?, (Preamble.sets_ofLines isKey is unset).title]

/-- The outline with the key in a frontmatter depends on what is read there. -/
theorem outline_inFrontmatter (isKey : key ∈ headerKeys) (is : IsHeaderWord value)
    (distinct : repeatedSection? [] (splitSections (bodyLines body)).2 = none)
    {sections : List Section} :
    outline (dropReturns (inFrontmatter key value body).toList) = .ok (header, sections) ↔
      ∃ entries, frontmatterEntries (headerLine key value) = .ok entries ∧
        header = ⟨entries, preambleOf body⟩ ∧ sections = (splitSections (bodyLines body)).2 := by
  have fenced : Opening.ofLines (bodyLines (inFrontmatter key value body)) =
      .fenced [headerLine key value] (bodyLines body) := by
    have fence : isFence "---".toList = true := by decide
    have apart := (headerLine_plain isKey is).1
    rw [bodyLines_inFrontmatter isKey is]
    simp only [Opening.ofLines, splitAtFence, fence, apart, Bool.false_eq_true, if_true, if_false,
      Option.map_some]
  rw [outline_eq_ok]
  constructor
  · rintro ⟨entries, all, opens, -, rfl, rfl⟩
    cases opens with
    | plain begins => cases fenced.symm.trans begins
    | fenced begins read =>
        cases fenced.symm.trans begins
        exact ⟨entries, read, rfl, rfl⟩
  · rintro ⟨entries, read, rfl, rfl⟩
    exact ⟨entries, bodyLines body, .fenced fenced read, distinct, rfl, rfl⟩

/-- With the key in a frontmatter. -/
theorem Gives.compile_inFrontmatter (gives : Gives key body texts read) (isKey : key ∈ headerKeys)
    (is : IsHeaderWord value) :
    compile (inFrontmatter key value body) .none = .ok template ↔
      value ≠ "-" ∧ ∃ given shown, (Sheet.Scalar.plain value.toList).read = .ok given ∧
        Header.text? ⟨[(.text key, given)], preambleOf body⟩ key = .ok shown ∧
        template = templateFrom (titleOfBody body) (Function.update texts key shown)
          (Digest.ofText (inFrontmatter key value body)) read := by
  have compiles {given : Value} {shown : Option String} (other : value ≠ "-")
      (scalarRead : (Sheet.Scalar.plain value.toList).read = .ok given)
      (shows : Header.text? ⟨[(.text key, given)], preambleOf body⟩ key = .ok shown) :
      compile (inFrontmatter key value body) .none =
        .ok (templateFrom (titleOfBody body) (Function.update texts key shown)
          (Digest.ofText (inFrontmatter key value body)) read) := by
    have entries := (frontmatterEntries_headerLine isKey is).mpr ⟨other, given, scalarRead, rfl⟩
    exact gives.compile_eq ((outline_inFrontmatter isKey is gives.distinct).mpr
      ⟨_, entries, rfl, rfl⟩) (states_inFrontmatter gives.stated shows) rfl
  constructor
  · intro compiled
    obtain ⟨header, sections, shown, -, outlined, stated, -, -⟩ := compile_none_eq_ok.mp compiled
    obtain ⟨entries, entriesRead, rfl, rfl⟩ :=
      (outline_inFrontmatter isKey is gives.distinct).mp outlined
    obtain ⟨other, given, scalarRead, rfl⟩ :=
      (frontmatterEntries_headerLine isKey is).mp entriesRead
    refine ⟨other, given, shown key, scalarRead, stated key isKey, ?_⟩
    exact Except.ok.inj (compiled.symm.trans (compiles other scalarRead (stated key isKey)))
  · rintro ⟨other, given, shown, scalarRead, shows, rfl⟩
    exact compiles other scalarRead shows

/-! ## What the template has under the key -/

theorem headerField_templateFrom {title : Option String} (isKey : key ∈ headerKeys)
    (given : texts key = some value) :
    (templateFrom title texts digest read).headerField key = some value := by
  simp only [headerKeys, List.mem_cons, List.not_mem_nil, or_false] at isKey
  rcases isKey with rfl | rfl | rfl | rfl | rfl | rfl | rfl <;>
    simp [Template.headerField, templateFrom, identifierFrom, given]

/-- No word for the absent value is made of a digest. -/
theorem fallbackIdentifier_eq_iff {named : Option String} {other : String}
    (nullWord : value ∈ nullWords) :
    fallbackIdentifier named digest = value ↔ fallbackIdentifier named other = value := by
  have apart (digest : String) :
      "playbook-" ++ String.ofList (digest.toList.take digestPart) ≠ value := by
    have letters : ∀ form ∈ nullWords, form.toList.head? ≠ some 'p' := by decide
    rintro rfl
    exact letters _ nullWord (by rw [String.toList_append]; rfl)
  unfold fallbackIdentifier
  cases named.bind fun text => slug? text.toList with
  | some slug => rfl
  | none => exact iff_of_false (apart digest) (apart other)

theorem identifierFrom_eq_iff {title : Option String} {other : String}
    (nullWord : value ∈ nullWords) :
    identifierFrom title texts digest = value ↔ identifierFrom title texts other = value := by
  unfold identifierFrom
  cases texts "slug" with
  | some slug => rfl
  | none => exact fallbackIdentifier_eq_iff nullWord

/-- Without a text under the key, it does not depend on the digest whether the template has a word
for the absent value there. -/
theorem headerField_eq_iff {title : Option String} {other : String} (isKey : key ∈ headerKeys)
    (nullWord : value ∈ nullWords) (absent : texts key = none) :
    (templateFrom title texts digest read).headerField key = some value ↔
      (templateFrom title texts other read).headerField key = some value := by
  have identified : identifierFrom title texts digest = value ↔
      identifierFrom title texts other = value := identifierFrom_eq_iff nullWord
  simp only [headerKeys, List.mem_cons, List.not_mem_nil, or_false] at isKey
  rcases isKey with rfl | rfl | rfl | rfl | rfl | rfl | rfl
  · simpa only [Template.headerField, templateFrom, Option.some.injEq] using identified
  · cases titled : title with
    | some title => simp [Template.headerField, templateFrom, absent]
    | none =>
        subst titled
        simpa [Template.headerField, templateFrom, absent] using identified
  all_goals simp only [Template.headerField, templateFrom]

/-- A word for the absent value leaves it to the body what the template has. -/
theorem Gives.exists_fenced_iff_of_null (gives : Gives key body texts read)
    (isKey : key ∈ headerKeys) (is : IsHeaderWord value) (nullWord : value ∈ nullWords) :
    (∃ template, compile (inFrontmatter key value body) .none = .ok template ∧
        template.headerField key = some value) ↔
      (templateFrom (titleOfBody body) texts digest read).headerField key = some value := by
  have other : value ≠ "-" := by
    rintro rfl
    exact absurd nullWord (by decide)
  have scalarRead : (Sheet.Scalar.plain value.toList).read = .ok .null :=
    read_of_mem_nullWords (by rwa [String.ofList_toList])
  have fenced : compile (inFrontmatter key value body) .none =
      .ok (templateFrom (titleOfBody body) texts
        (Digest.ofText (inFrontmatter key value body)) read) := by
    refine (gives.compile_inFrontmatter isKey is).mpr
      ⟨other, .null, none, scalarRead, text?_null, ?_⟩
    rw [← gives.absent, Function.update_eq_self]
  simp only [fenced, Except.ok.injEq, exists_eq_left']
  exact headerField_eq_iff isKey nullWord gives.absent

/-- Any other word gives itself if it is verbatim. -/
theorem Gives.exists_fenced_iff_of_notMem (gives : Gives key body texts read)
    (isKey : key ∈ headerKeys) (is : IsHeaderWord value) (given : value ∉ nullWords) :
    (∃ template, compile (inFrontmatter key value body) .none = .ok template ∧
        template.headerField key = some value) ↔ value ≠ "-" ∧ IsVerbatim value.toList := by
  have tidyValue {meant : Value}
      (scalarRead : (Sheet.Scalar.plain value.toList).read = .ok meant) : IsTidyValue meant := by
    refine (null_or_tidy_of_read is.ne_nil is.chars scalarRead).resolve_left fun ⟨_, nullWord⟩ => ?_
    exact given (by rwa [String.ofList_toList] at nullWord)
  constructor
  · rintro ⟨template, compiled, field⟩
    obtain ⟨other, meant, shown, scalarRead, shows, rfl⟩ :=
      (gives.compile_inFrontmatter isKey is).mp compiled
    have tidy := tidyValue scalarRead
    obtain ⟨text, written, rfl⟩ := (text?_entry tidy.given tidy.tidy).mp shows
    have same := field.symm.trans
      (headerField_templateFrom isKey (Function.update_self key (.some text) texts))
    obtain rfl := Option.some.inj same
    exact ⟨other, meant, scalarRead, by rw [written, String.ofList_toList]⟩
  · rintro ⟨other, meant, scalarRead, written⟩
    have tidy := tidyValue scalarRead
    rw [String.ofList_toList] at written
    have shows : Header.text? ⟨[(.text key, meant)], preambleOf body⟩ key = .ok (some value) :=
      (text?_entry tidy.given tidy.tidy).mpr ⟨value, written, rfl⟩
    exact ⟨_, (gives.compile_inFrontmatter isKey is).mpr
      ⟨other, meant, some value, scalarRead, shows, rfl⟩,
      headerField_templateFrom isKey (Function.update_self key (some value) texts)⟩

/-- The frontmatter gives the value as it is written if it is verbatim, or if it stands for nothing
and the body gives the same. -/
theorem Gives.exists_fenced_iff (gives : Gives key body texts read) (isKey : key ∈ headerKeys)
    (is : IsHeaderWord value) :
    (∃ template, compile (inFrontmatter key value body) .none = .ok template ∧
        template.headerField key = some value) ↔
      (value ≠ "-" ∧ IsVerbatim value.toList) ∨
        (value ∈ nullWords ∧ (templateFrom (titleOfBody body) texts digest read).headerField key =
          some value) := by
  by_cases nullWord : value ∈ nullWords
  · have other : ¬ IsVerbatim value.toList :=
      not_isVerbatim_of_mem_nullWords (by rwa [String.ofList_toList])
    simp only [other, nullWord, and_false, true_and, false_or]
    exact gives.exists_fenced_iff_of_null isKey is nullWord
  · simp only [nullWord, false_and, or_false]
    exact gives.exists_fenced_iff_of_notMem isKey is nullWord

/-! ## Main result -/

/-- A line of the preamble gives its value as it is written. A frontmatter gives the same if the
value is verbatim, and otherwise only where it is a word for the absent value that the body itself
gives, such as a title. A lone hyphen is refused there. -/
theorem header_styles_agree_iff (key value body : String) (isKey : key ∈ headerKeys)
    (is : IsHeaderWord value) (leaves : LeavesOpen key body) :
    (∃ template, compile (inPreamble key value body) .none = .ok template ∧
      template.headerField key = some value) ∧
    ((∃ lined fenced, compile (inPreamble key value body) .none = .ok lined ∧
        compile (inFrontmatter key value body) .none = .ok fenced ∧
        fenced.headerField key = lined.headerField key) ↔
      (value ≠ "-" ∧ IsVerbatim value.toList) ∨
        (value ∈ nullWords ∧
          ∃ template, compile body .none = .ok template ∧ template.headerField key = some value)) := by
  obtain ⟨texts, read, gives⟩ := leaves.exists_gives isKey
  have compiledBody := gives.compile_body leaves.plain
  have compiledLine := gives.compile_inPreamble isKey is leaves.unset
  have fieldLine : (templateFrom (titleOfBody body) (Function.update texts key (some value))
      (Digest.ofText (inPreamble key value body)) read).headerField key = some value :=
    headerField_templateFrom isKey (Function.update_self key (some value) texts)
  refine ⟨⟨_, compiledLine, fieldLine⟩, ?_⟩
  have agrees : (∃ lined fenced, compile (inPreamble key value body) .none = .ok lined ∧
        compile (inFrontmatter key value body) .none = .ok fenced ∧
        fenced.headerField key = lined.headerField key) ↔
      ∃ template, compile (inFrontmatter key value body) .none = .ok template ∧
        template.headerField key = some value := by
    constructor
    · rintro ⟨lined, fenced, compiled, compiledFenced, same⟩
      cases compiledLine.symm.trans compiled
      exact ⟨fenced, compiledFenced, same.trans fieldLine⟩
    · rintro ⟨fenced, compiledFenced, field⟩
      exact ⟨_, fenced, compiledLine, compiledFenced, field.trans fieldLine.symm⟩
  have onItsOwn : (∃ template, compile body .none = .ok template ∧
        template.headerField key = some value) ↔
      (templateFrom (titleOfBody body) texts (Digest.ofText body) read).headerField key =
        some value := by
    simp [compiledBody]
  rw [agrees, gives.exists_fenced_iff isKey is, onItsOwn]

/-- A body with a title and a line for another key. -/
def categorized : String :=
  "# Ask\ncategory: Sales\n## Questions\n- \x7bid: 1, phase: greet_frame, text: Who\x7d\n"

theorem leavesOpen_categorized : LeavesOpen "version" categorized where
  compiles := by
    have succeeds : (compile categorized .none).toOption.any (fun _ => true) = true := by
      decide +kernel
    obtain ⟨template, compiled, -⟩ := exists_ok_of_any succeeds
    exact ⟨template, compiled⟩
  plain := ⟨_, rfl⟩
  unset := by
    have keys : ∀ line ∈ (splitSections (bodyLines categorized)).1,
        (headerLine? line).all (fun entry => entry.1 ≠ "version") = true := by
      decide +kernel
    intro line member value set
    have other := keys line member
    simp [set] at other

/-- A version with two points is a text in both styles. -/
theorem header_styles_agree_iff_version :
    "version" ∈ headerKeys ∧ IsHeaderWord "1.0.0" ∧ LeavesOpen "version" categorized ∧
      ∃ lined fenced, compile (inPreamble "version" "1.0.0" categorized) .none = .ok lined ∧
        compile (inFrontmatter "version" "1.0.0" categorized) .none = .ok fenced ∧
        fenced.headerField "version" = lined.headerField "version" := by
  have isKey : "version" ∈ headerKeys := by decide
  have is : IsHeaderWord "1.0.0" := by decide
  have verbatim : IsVerbatim "1.0.0".toList := ⟨.text "1.0.0", rfl, rfl⟩
  exact ⟨isKey, is, leavesOpen_categorized,
    (header_styles_agree_iff "version" "1.0.0" categorized isKey is leavesOpen_categorized).2.mpr
      (.inl ⟨by decide, verbatim⟩)⟩

/-- A number with a leading zero is octal in a frontmatter. -/
theorem header_styles_differ_on_leading_zero :
    "version" ∈ headerKeys ∧ IsHeaderWord "010" ∧ LeavesOpen "version" categorized ∧
      ∃ lined fenced, compile (inPreamble "version" "010" categorized) .none = .ok lined ∧
        compile (inFrontmatter "version" "010" categorized) .none = .ok fenced ∧
        lined.headerField "version" = some "010" ∧ fenced.headerField "version" = some "8" := by
  have isKey : "version" ∈ headerKeys := by decide
  have is : IsHeaderWord "010" := by decide
  obtain ⟨texts, read, gives⟩ := leavesOpen_categorized.exists_gives isKey
  have scalarRead : (Sheet.Scalar.plain "010".toList).read = .ok (.int 8) := rfl
  have written : (Value.int 8).text? = some "8" := by decide +kernel
  have tidy (text : String) (shown : (Value.int 8).text? = some text) : text.IsTidy := by
    rw [written, Option.some.injEq] at shown
    rw [← shown]
    decide
  have shows : Header.text? ⟨[(.text "version", .int 8)], preambleOf categorized⟩ "version" =
      .ok (some "8") := (text?_entry (by simp) tidy).mpr ⟨"8", written, rfl⟩
  exact ⟨isKey, is, leavesOpen_categorized, _, _,
    gives.compile_inPreamble isKey is leavesOpen_categorized.unset,
    (gives.compile_inFrontmatter isKey is).mpr ⟨by decide, .int 8, _, scalarRead, shows, rfl⟩,
    headerField_templateFrom isKey (Function.update_self ..),
    headerField_templateFrom isKey (Function.update_self ..)⟩

end Document

end Interview
