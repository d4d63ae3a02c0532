import Interview.Proofs.Document.Style

/-!
# Where the fields of a header come from

A field of the header can be given by the caller, by the frontmatter and by lines of the preamble,
and behind them stand the fallbacks. `Sources` holds what each of them has for one key.
`Sources.first?` is the order that is meant: the first source that says something. What decides is
`Sources.decided?`, which differs from it in two ways: a blank override is taken as it is, and a key
of the frontmatter without a text hides the line of the preamble.
-/

namespace Interview.Document

open Interview.Text

variable {key digest text : String} {header : Header} {value override : Value} {line : Line}
variable {preamble : List Line} {entries : List (Value × Value)} {found : Option String}

/-! ## What a value says -/

/-- A text without the blanks around it, unless nothing is left of it. -/
def tidyText? (text : String) : Option String :=
  if text.trimBlank.isEmpty then none else some text.trimBlank

/-- What a value says under a key: its text in tidy form. The absent value says nothing. -/
def said? (value : Value) : Option String :=
  if value.isNull then none else value.text?.bind tidyText?

theorem said?_text (text : String) : said? (.text text) = tidyText? text := by
  simp [said?, Value.isNull, Value.text?]

theorem tidyText?_isSome_of_said? (told : said? value = some text) :
    (tidyText? text).isSome = true := by
  unfold said? at told
  split at told
  · cases told
  · obtain ⟨written, -, tidy⟩ := Option.bind_eq_some_iff.mp told
    unfold tidyText? at tidy
    split at tidy
    · cases tidy
    next visible =>
        cases tidy
        have again : written.trimBlank.trimBlank = written.trimBlank := by
          simp [String.trimBlank]
        simp [tidyText?, again, visible]

/-- A header shows what the value under a key says. -/
theorem eq_said?_of_text? (read : header.text? key = .ok found) :
    found = (header.value? key).bind said? := by
  unfold Header.text? at read
  split at read
  next absent =>
      cases read
      simp [absent]
  next null =>
      cases read
      simp [null, said?, Value.isNull]
  next value some there =>
      obtain ⟨written, wrote, shown⟩ := bind_eq_ok.mp read
      unfold textOf at wrote
      split at wrote
      next _ text =>
          cases wrote
          have given : value.isNull = false := by
            cases value with
            | null => exact absurd rfl some
            | _ => rfl
          rw [← Except.ok.inj shown]
          simp [there, said?, given, text, tidyText?]
      next => cases wrote

/-! ## The lines of the preamble -/

/-- The value that a line gives to a key. -/
def setBy? (key : String) (line : Line) : Option String :=
  (headerLine? line).bind fun (name, value) => if name = key then some value else none

/-- The value that a key has from the last line for it. -/
def lastSet? (key : String) (preamble : List Line) : Option String :=
  preamble.reverse.findSome? (setBy? key)

/-- The title: the first line that is one, unless nothing is left of it without its mark. -/
def firstTitle? (preamble : List Line) : Option String :=
  ((preamble.findSome? titleOf?).map dropTitleMark).bind fun title =>
    if title.isEmpty then none else some (String.ofList title)

theorem Preamble.ofLines_concat (preamble : List Line) (line : Line) :
    Preamble.ofLines (preamble ++ [line]) = (Preamble.ofLines preamble).add line := by
  rw [ofLines, ofLines, List.foldl_concat]

theorem Preamble.find?_ofLines : (Preamble.ofLines preamble).values.find? key = lastSet? key preamble := by
  induction preamble using List.reverseRecOn with
  | nil => rfl
  | append_singleton preamble line ih =>
      rw [Preamble.ofLines_concat, Preamble.add_eq, lastSet?, List.reverse_concat,
        List.findSome?_cons, setBy?]
      cases set : headerLine? line with
      | none => simpa [lastSet?] using ih
      | some entry =>
          obtain ⟨name, value⟩ := entry
          by_cases same : name = key
          · subst same
            simp
          · simpa [same, Entries.find?_put_of_ne same, lastSet?] using ih

theorem Preamble.title_ofLines :
    (Preamble.ofLines preamble).title = (preamble.findSome? titleOf?).map dropTitleMark := by
  induction preamble using List.reverseRecOn with
  | nil => rfl
  | append_singleton preamble line ih =>
      rw [Preamble.ofLines_concat, Preamble.add_eq, ih, List.findSome?_append, List.findSome?_singleton]
      cases preamble.findSome? titleOf? <;> rfl

theorem title?_ofLines (entries : List (Value × Value)) :
    Header.title? ⟨entries, Preamble.ofLines preamble⟩ = firstTitle? preamble := by
  unfold Header.title? firstTitle?
  rw [Preamble.title_ofLines]
  cases (preamble.findSome? titleOf?).map dropTitleMark with
  | none => rfl
  | some title => cases title <;> rfl

/-! ## The sources of a field -/

/-- The text that a caller knows better, where the override counts. -/
def knownText? (override : Value) : Option String :=
  match override.isTruthy, Record.readText override with
  | true, .ok text => some text
  | _, _ => none

theorem knownText?_text (text : String) :
    knownText? (.text text) = if text = "" then none else some text := by
  unfold knownText?
  by_cases empty : text = ""
  · simp [Value.isTruthy, empty]
  · have given : (Value.text text).isTruthy = true := by simpa [Value.isTruthy] using empty
    rw [given, if_neg empty]
    rfl

/-- The override of a key, for the three keys that have one. -/
def Overrides.under (overrides : Overrides) : String → Value
  | "slug" => overrides.identifier
  | "name" => overrides.name
  | "category" => overrides.category
  | _ => .null

/-- What there is for one key: the text of the override, the value of the frontmatter, and that of
the last line of the preamble. -/
structure Sources where
  override : Option String
  frontmatter : Option Value
  line : Option String

namespace Sources

/-- What the line of the preamble says. -/
def ofLine? (sources : Sources) : Option String :=
  sources.line.bind tidyText?

/-- The first source that says something. -/
def first? (sources : Sources) : Option String :=
  (sources.override.filter fun text => (tidyText? text).isSome).or
    ((sources.frontmatter.bind said?).or sources.ofLine?)

/-- What a header has from its frontmatter, or from its preamble if the frontmatter lacks the
key. -/
def ofHeader? (sources : Sources) : Option String :=
  match sources.frontmatter with
  | some value => said? value
  | none => sources.ofLine?

/-- The source that is taken. -/
def decided? (sources : Sources) : Option String :=
  sources.override.or sources.ofHeader?

/-- The override is there, but blank. -/
def IsOverriddenByBlank (sources : Sources) : Prop :=
  ∃ text, sources.override = some text ∧ tidyText? text = none

/-- The frontmatter has the key and says nothing, while a line of the preamble does. -/
def HidesLine (sources : Sources) : Prop :=
  (∃ value, sources.frontmatter = some value ∧ said? value = none) ∧ sources.ofLine?.isSome = true

/-- The sources without the override. -/
def withoutOverride (sources : Sources) : Sources :=
  { sources with override := none }

variable {sources : Sources}

theorem visible_of_header (told : (sources.frontmatter.bind said?).or sources.ofLine? = some text) :
    (tidyText? text).isSome = true := by
  rcases Option.or_eq_some_iff.mp told with frontmatter | ⟨-, line⟩
  · obtain ⟨value, -, told⟩ := Option.bind_eq_some_iff.mp frontmatter
    exact tidyText?_isSome_of_said? told
  · obtain ⟨value, -, tidy⟩ := Option.bind_eq_some_iff.mp line
    rw [← said?_text] at tidy
    exact tidyText?_isSome_of_said? tidy

/-- Without an override, only a hidden line makes a difference. -/
theorem ofHeader?_eq_iff :
    sources.ofHeader? = (sources.frontmatter.bind said?).or sources.ofLine? ↔ ¬ sources.HidesLine := by
  unfold ofHeader? HidesLine
  cases sources.frontmatter with
  | none => simp
  | some value =>
      cases told : said? value with
      | some text => simp [told]
      | none => cases sources.ofLine? <;> simp [told]

/-- The source that is taken is the first that says something, unless a blank override or, without
an override, a hidden line is in the way. -/
theorem decided?_eq_first?_iff :
    sources.decided? = sources.first? ↔
      ¬ sources.IsOverriddenByBlank ∧ (sources.override = none → ¬ sources.HidesLine) := by
  unfold decided? first? IsOverriddenByBlank
  cases known : sources.override with
  | none => simpa using ofHeader?_eq_iff
  | some text =>
      cases tidy : tidyText? text with
      | some shown => simp [tidy, Option.filter]
      | none =>
          refine iff_of_false ?_ (by simp [tidy])
          intro same
          have told : (sources.frontmatter.bind said?).or sources.ofLine? = some text := by
            simpa [tidy, Option.filter] using same.symm
          have visible := visible_of_header told
          rw [tidy] at visible
          cases visible

end Sources

/-! ## The sources of a document -/

/-- What is said about a template: by its caller, by the entries of the frontmatter, and by the
lines of the preamble. -/
structure Origin where
  overrides : Overrides
  frontmatter : List (Value × Value)
  preamble : List Line

namespace Origin

def sources (origin : Origin) (key : String) : Sources where
  override := knownText? (origin.overrides.under key)
  frontmatter := Value.lookup (.text key) origin.frontmatter
  line := lastSet? key origin.preamble

/-- What stands in for a field of which no source says anything, if the sources are asked in a given
order: a slug of the name or title or else of the digest, the title or else the identifier, and the
general category. -/
def fallback? (origin : Origin) (choose : Sources → Option String) (digest : String)
    (identifier : Option String) : String → Option String
  | "slug" =>
    let named := choose (origin.sources "name").withoutOverride
    some (fallbackIdentifier (named.or (firstTitle? origin.preamble)) digest)
  | "name" => (firstTitle? origin.preamble).or identifier
  | "category" => some generalCategory
  | _ => none

/-- Every field of the header has what its sources say, if they are asked in a given order, or else
its fallback. -/
def Fills (origin : Origin) (choose : Sources → Option String) (digest : String)
    (template : Template) : Prop :=
  ∀ key ∈ headerKeys,
    template.headerField key =
      (choose (origin.sources key)).or (origin.fallback? choose digest template.identifier key)

variable {origin : Origin}

theorem text?_eq_ofHeader?
    (read : Header.text? ⟨origin.frontmatter, Preamble.ofLines origin.preamble⟩ key = .ok found) :
    found = (origin.sources key).ofHeader? := by
  rw [eq_said?_of_text? read, Header.value?, Preamble.find?_ofLines]
  unfold Sources.ofHeader? Sources.ofLine? sources
  cases Value.lookup (.text key) origin.frontmatter with
  | some value => rfl
  | none => cases lastSet? key origin.preamble <;> simp [said?_text]

end Origin

/-- What is known better is taken, and otherwise what the header gives. -/
theorem known_or_given {result : Except LongNumber Value}
    (chosen : (if override.isTruthy then .ok override else result) = .ok value)
    (read : Record.readText value = .ok text) :
    knownText? override = some text ∨ knownText? override = none ∧ result = .ok value := by
  unfold knownText?
  cases truthy : override.isTruthy with
  | true =>
      rw [if_pos truthy] at chosen
      cases chosen
      exact .inl (by rw [read])
  | false =>
      rw [if_neg (by simp [truthy])] at chosen
      exact .inr ⟨rfl, chosen⟩

variable {origin : Origin} {overrides : Overrides} {identifier : String}

theorem identifier_from_sources (origin : Origin)
    (chosen : identifierOf origin.overrides.identifier
      ⟨origin.frontmatter, Preamble.ofLines origin.preamble⟩ digest = .ok value)
    (read : Record.readText value = .ok identifier) :
    some identifier = (origin.sources "slug").decided?.or
      (origin.fallback? Sources.decided? digest (some identifier) "slug") := by
  rcases known_or_given chosen read with known | ⟨unknown, given⟩
  · simp [Sources.decided?, Origin.sources, Overrides.under, known]
  · obtain ⟨slug, readSlug, given⟩ := bind_eq_ok.mp given
    have fromSlug : (origin.sources "slug").decided? = slug := by
      rw [Origin.text?_eq_ofHeader? readSlug]
      simp [Sources.decided?, Origin.sources, Overrides.under, unknown]
    rw [fromSlug]
    cases slug with
    | some slug =>
        cases given
        cases read
        rfl
    | none =>
        obtain ⟨named, readName, given⟩ := bind_eq_ok.mp given
        cases given
        cases read
        rw [Option.none_or, Origin.fallback?, ← title?_ofLines origin.frontmatter,
          Origin.text?_eq_ofHeader? readName]
        rfl

theorem name_from_sources (origin : Origin) {name : String} {identified : Value}
    (chosen : nameOf origin.overrides.name
      ⟨origin.frontmatter, Preamble.ofLines origin.preamble⟩ identified = .ok value)
    (readIdentifier : Record.readText identified = .ok identifier)
    (read : Record.readText value = .ok name) :
    some name = (origin.sources "name").decided?.or
      (origin.fallback? Sources.decided? digest (some identifier) "name") := by
  rcases known_or_given chosen read with known | ⟨unknown, given⟩
  · simp [Sources.decided?, Origin.sources, Overrides.under, known]
  · obtain ⟨named, readName, given⟩ := bind_eq_ok.mp given
    have fromHeader : (origin.sources "name").decided? = named := by
      rw [Origin.text?_eq_ofHeader? readName]
      simp [Sources.decided?, Origin.sources, Overrides.under, unknown]
    rw [fromHeader, Origin.fallback?, ← Option.or_assoc,
      ← title?_ofLines origin.frontmatter]
    split at given
    next text written =>
        cases given
        cases read
        rw [written, Option.some_or]
    next unnamed =>
        cases given
        cases readIdentifier.symm.trans read
        rw [unnamed, Option.none_or]

theorem category_from_sources (origin : Origin) {category : String}
    (chosen : categoryOf origin.overrides.category
      ⟨origin.frontmatter, Preamble.ofLines origin.preamble⟩ = .ok value)
    (read : Record.readText value = .ok category) :
    some category = (origin.sources "category").decided?.or (some generalCategory) := by
  rcases known_or_given chosen read with known | ⟨unknown, given⟩
  · simp [Sources.decided?, Origin.sources, Overrides.under, known]
  · obtain ⟨sorted, readCategory, given⟩ := bind_eq_ok.mp given
    have fromHeader : (origin.sources "category").decided? = sorted := by
      rw [Origin.text?_eq_ofHeader? readCategory]
      simp [Sources.decided?, Origin.sources, Overrides.under, unknown]
    cases given
    cases read
    rw [fromHeader]
    cases sorted <;> rfl

/-- The other fields have no override and no fallback. -/
theorem other_from_sources (origin : Origin)
    (read : Header.text? ⟨origin.frontmatter, Preamble.ofLines origin.preamble⟩ key = .ok found)
    (unknown : origin.overrides.under key = .null) :
    found = (origin.sources key).decided?.or none := by
  rw [Option.or_none, Origin.text?_eq_ofHeader? read]
  simp [Sources.decided?, Origin.sources, unknown, knownText?, Value.isTruthy]

/-- The fields of a template are filled by the sources that are taken. -/
theorem exists_fills_of_compile {text : String} {template : Template}
    (compiled : compile text overrides = .ok template) :
    ∃ entries body, Opens (dropReturns text.toList) entries body ∧
      (Origin.mk overrides entries (splitSections body).1).Fills Sources.decided?
        (Digest.ofText text) template := by
  obtain ⟨made, rfl⟩ := compile_eq_ok.mp compiled
  obtain ⟨entries, body, opens, -, isHeader, -⟩ := outline_eq_ok.mp made.outlined
  refine ⟨entries, body, opens, ?_⟩
  let origin : Origin := ⟨overrides, entries, (splitSections body).1⟩
  intro key isKey
  simp only [headerKeys, List.mem_cons, List.not_mem_nil, or_false] at isKey
  rcases isKey with rfl | rfl | rfl | rfl | rfl | rfl | rfl
  · exact identifier_from_sources origin (isHeader ▸ made.readIdentifier) made.identified
  · exact name_from_sources origin (isHeader ▸ made.readName) made.identified made.named
  · exact category_from_sources origin (isHeader ▸ made.readCategory) made.categorized
  · exact other_from_sources origin (isHeader ▸ made.readObjective) rfl
  · exact other_from_sources origin (isHeader ▸ made.readProtocol) rfl
  · exact other_from_sources origin (isHeader ▸ made.readPersona) rfl
  · exact other_from_sources origin (isHeader ▸ made.readVersion) rfl

/-! ## Main result -/

/-- The sources of a key are asked in the order that is meant. -/
def Sources.IsClear (sources : Sources) : Prop :=
  ¬ sources.IsOverriddenByBlank ∧ ¬ sources.HidesLine

/-- Where nothing is in the way, the source that is taken is the first that says something, and the
fallbacks come from such sources too. -/
theorem Origin.fills_first? {template : Template}
    (fills : origin.Fills Sources.decided? digest template)
    (clear : ∀ key ∈ headerKeys, (origin.sources key).IsClear) :
    origin.Fills Sources.first? digest template := by
  intro key isKey
  obtain ⟨notBlank, notHidden⟩ := clear key isKey
  have here : (origin.sources key).decided? = (origin.sources key).first? :=
    Sources.decided?_eq_first?_iff.mpr ⟨notBlank, fun _ => notHidden⟩
  have named : (origin.sources "name").withoutOverride.decided? =
      (origin.sources "name").withoutOverride.first? :=
    Sources.decided?_eq_first?_iff.mpr
      ⟨by simp [Sources.IsOverriddenByBlank, Sources.withoutOverride],
        fun _ => (clear "name" (by decide)).2⟩
  have behind : origin.fallback? Sources.decided? digest template.identifier key =
      origin.fallback? Sources.first? digest template.identifier key := by
    unfold Origin.fallback?
    split
    · rw [named]
    all_goals rfl
  rw [fills key isKey, here, behind]

/-- Every field of the header has what its sources say, or else its fallback. The sources are asked in
order, the override first, then the frontmatter, and then the last line of the preamble, unless a
blank override or a hidden line is in the way. A blank override is taken as it is, and a hidden line
is passed over. -/
theorem header_is_filled_from_sources (text : String) (overrides : Overrides) (template : Template)
    (compiled : compile text overrides = .ok template) :
    ∃ entries body, Opens (dropReturns text.toList) entries body ∧
      let origin : Origin := ⟨overrides, entries, (splitSections body).1⟩
      origin.Fills Sources.decided? (Digest.ofText text) template ∧
        ((∀ key ∈ headerKeys, (origin.sources key).IsClear) →
          origin.Fills Sources.first? (Digest.ofText text) template) ∧
        ∀ key ∈ headerKeys,
          ((origin.sources key).decided? = (origin.sources key).first? ↔
            ¬ (origin.sources key).IsOverriddenByBlank ∧
              ((origin.sources key).override = none → ¬ (origin.sources key).HidesLine)) := by
  obtain ⟨entries, body, opens, fills⟩ := exists_fills_of_compile compiled
  refine ⟨entries, body, opens, fills, ?_, ?_⟩
  · intro clear
    exact Origin.fills_first? fills clear
  · intro key _
    exact Sources.decided?_eq_first?_iff

/-- A frontmatter with a slug and an empty version, and a preamble with a version and a title. -/
def emptyVersion : String :=
  "---\nslug: demo\nversion:\n---\nversion: 1.2.0\n# Ask\n## Questions\n" ++
    "- \x7bid: 1, phase: greet_frame, text: Who\x7d\n"

theorem exists_compile_emptyVersion :
    ∃ template, compile emptyVersion .none = .ok template ∧ template.version = none := by
  have unset : (compile emptyVersion .none).toOption.any (·.version.isNone) = true := by
    decide +kernel
  obtain ⟨template, compiled, none⟩ := exists_ok_of_any unset
  exact ⟨template, compiled, Option.isNone_iff_eq_none.mp none⟩

theorem header_is_filled_from_sources_emptyVersion :
    ∃ template, compile emptyVersion .none = .ok template ∧
      ∃ entries body, Opens (dropReturns emptyVersion.toList) entries body ∧
        (Origin.mk .none entries (splitSections body).1).Fills Sources.decided?
          (Digest.ofText emptyVersion) template := by
  obtain ⟨template, compiled, -⟩ := exists_compile_emptyVersion
  obtain ⟨entries, body, opens, fills, -⟩ :=
    header_is_filled_from_sources emptyVersion .none template compiled
  exact ⟨template, compiled, entries, body, opens, fills⟩

theorem opening_emptyVersion : Opening.ofLines (lines (dropReturns emptyVersion.toList)) =
    .fenced (["slug: demo", "version:"].map String.toList)
      (["version: 1.2.0", "# Ask", "## Questions",
        "- \x7bid: 1, phase: greet_frame, text: Who\x7d", ""].map String.toList) := by
  decide +kernel

/-- The empty version of the frontmatter hides that of the preamble. -/
theorem empty_frontmatter_value_hides_line :
    ¬ ∀ text overrides template, compile text overrides = .ok template →
        ∃ entries body, Opens (dropReturns text.toList) entries body ∧
          (Origin.mk overrides entries (splitSections body).1).Fills Sources.first?
            (Digest.ofText text) template := by
  intro claim
  obtain ⟨template, compiled, unset⟩ := exists_compile_emptyVersion
  obtain ⟨entries, body, opens, fills⟩ := claim _ _ _ compiled
  have line : lastSet? "version" (splitSections body).1 = some "1.2.0" := by
    cases opens with
    | plain begins => cases opening_emptyVersion.symm.trans begins
    | fenced begins =>
        cases opening_emptyVersion.symm.trans begins
        decide +kernel
  have version : tidyText? "1.2.0" = some "1.2.0" := by decide
  have filled := (fills "version" (by decide)).symm
  rw [Template.headerField, unset, Option.or_eq_none_iff] at filled
  have silent := filled.1
  rw [Sources.first?, Sources.ofLine?, Origin.sources, line, Option.bind_some, version] at silent
  simp at silent

end Interview.Document
