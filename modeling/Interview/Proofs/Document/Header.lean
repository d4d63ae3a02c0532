import Interview.Proofs.Document.Compile
import Interview.Proofs.Document.Slug
import Interview.Proofs.Text.Trim

/-!
# The header in tidy form

What a document says about itself comes from values of a frontmatter, from lines of a preamble, from
a title, or from the fallbacks behind them. On each of these ways blanks at both ends are removed and
blank texts are passed over, so identifier, name and category are tidy when nothing is known better
than the document.
-/

namespace Interview.Document

open Interview.Text

variable {header : Header} {key digest : String} {text : List Char} {found : String}
variable {sections : List Section} {value : Value}

/-- A text of the header is tidy. -/
theorem Header.isTidy_of_text? (read : header.text? key = .ok (some found)) : found.IsTidy := by
  unfold Header.text? at read
  split at read
  · cases read
  · cases read
  · obtain ⟨written, -, shown⟩ := bind_eq_ok.mp read
    cases empty : written.trimBlank.isEmpty with
    | true => simp [empty] at shown
    | false =>
        have visible := String.isBlankText_eq_false_of_trimBlank empty
        obtain rfl : written.trimBlank = found := by simpa [empty] using shown
        exact String.isTidy_trimBlank visible

/-! ## The title -/

theorem trim_dropTitleMark (title : List Char) : trim (dropTitleMark title) = dropTitleMark title := by
  simp only [dropTitleMark]
  split <;> exact trim_trim _

/-- A line leaves the title as it is, or gives one that is trimmed. -/
theorem Preamble.title_add (preamble : Preamble) (line : Line) :
    (preamble.add line).title = preamble.title ∨
      ∃ title, (preamble.add line).title = some title ∧ trim title = title := by
  unfold Preamble.add
  split
  · exact .inr ⟨_, rfl, trim_dropTitleMark _⟩
  · split <;> exact .inl rfl

theorem Preamble.trim_title {lines : List Line} {title : List Char}
    (named : (Preamble.ofLines lines).title = some title) : trim title = title := by
  have kept : ∀ preamble : Preamble, (∀ title, preamble.title = some title → trim title = title) →
      ∀ title, (lines.foldl Preamble.add preamble).title = some title → trim title = title := by
    clear named
    induction lines with
    | nil => exact fun preamble trimmed => trimmed
    | cons line lines ih =>
        intro preamble trimmed
        refine ih (preamble.add line) fun title named => ?_
        rcases Preamble.title_add preamble line with
          same | ⟨other, given, form⟩
        · exact trimmed title (same ▸ named)
        · cases given.symm.trans named
          exact form
  exact kept ⟨none, .empty⟩ (by simp) title named

/-- The title of a document is tidy. -/
theorem isTidy_title? (outlined : outline text = .ok (header, sections))
    (named : header.title? = some found) : found.IsTidy := by
  obtain ⟨entries, body, -, -, rfl, -⟩ := outline_eq_ok.mp outlined
  unfold Header.title? at named
  split at named
  next c title given =>
      cases named
      exact String.isTidy_ofList_iff.mpr ⟨Preamble.trim_title given, by simp⟩
  next => cases named

/-! ## Fallbacks -/

theorem isSlugChar_hexChar (n : Nat) : isSlugChar (hexChar (n % 16)) = true := by
  have all : ∀ digit < 16, isSlugChar (hexChar digit) = true := by decide
  exact all _ (Nat.mod_lt _ (by decide))

theorem isSlugChar_of_mem_hex {width n : Nat} {c : Char} (member : c ∈ hex width n) :
    isSlugChar c = true := by
  induction width generalizing n with
  | zero => cases member
  | succ width ih =>
      rcases List.mem_append.mp member with before | last
      · exact ih before
      · rw [List.mem_singleton.mp last]
        exact isSlugChar_hexChar n

/-- A digest is made of small letters and digits. -/
theorem isSlugChar_of_mem_digest {document : String} {c : Char}
    (member : c ∈ (Digest.ofText document).toList) : isSlugChar c = true := by
  rw [Digest.ofText, Digest.State.hex, String.toList_ofList, List.mem_flatMap] at member
  obtain ⟨word, -, inside⟩ := member
  exact isSlugChar_of_mem_hex inside

/-- No blank stands in a digest. -/
theorem isBlank_of_mem_digest {document : String} {c : Char}
    (member : c ∈ (Digest.ofText document).toList) : isBlank c = false :=
  isBlank_of_isSlugChar (isSlugChar_of_mem_digest member)

/-- An identifier made of a slug or of a digest is tidy. -/
theorem isTidy_fallbackIdentifier {named : Option String}
    (visible : ∀ c ∈ digest.toList, isBlank c = false) :
    (fallbackIdentifier named digest).IsTidy := by
  unfold fallbackIdentifier
  split
  next slug made =>
      obtain ⟨text, -, slugged⟩ := Option.bind_eq_some_iff.mp made
      obtain ⟨some, visible⟩ := visible_of_slug? slugged
      exact String.isTidy_ofList_iff.mpr ⟨trim_eq_self_of_forall visible, some⟩
  next =>
      have joined : "playbook-" ++ String.ofList (digest.toList.take digestPart) =
          String.ofList ("playbook-".toList ++ digest.toList.take digestPart) := by
        rw [String.ofList_append, String.ofList_toList]
      rw [joined]
      refine String.isTidy_ofList_iff.mpr ⟨trim_eq_self_of_forall ?_, by simp⟩
      intro c member
      rcases List.mem_append.mp member with mark | part
      · have visible : "playbook-".toList.all (!isBlank ·) = true := by decide
        simpa using List.all_eq_true.mp visible c mark
      · exact visible c (List.mem_of_mem_take part)

/-! ## What the document is called -/

/-- The identifier that a document gives itself is a tidy text. -/
theorem isTidy_identifierOf (visible : ∀ c ∈ digest.toList, isBlank c = false)
    (read : identifierOf .null header digest = .ok value) :
    ∃ identifier, value = .text identifier ∧ identifier.IsTidy := by
  rw [identifierOf, if_neg (by decide), bind_eq_ok] at read
  obtain ⟨slug, readSlug, read⟩ := read
  cases slug with
  | some slug =>
      cases read
      exact ⟨slug, rfl, Header.isTidy_of_text? readSlug⟩
  | none =>
      obtain ⟨named, -, made⟩ := bind_eq_ok.mp read
      cases made
      exact ⟨_, rfl, isTidy_fallbackIdentifier visible⟩

/-- The name that a document gives itself is a tidy text if its identifier is. -/
theorem isTidy_nameOf {identifier : String} (outlined : outline text = .ok (header, sections))
    (identified : identifier.IsTidy)
    (read : nameOf .null header (.text identifier) = .ok value) :
    ∃ name, value = .text name ∧ name.IsTidy := by
  rw [nameOf, if_neg (by decide), bind_eq_ok] at read
  obtain ⟨named, readName, read⟩ := read
  split at read
  next name chosen =>
      cases read
      refine ⟨name, rfl, ?_⟩
      rcases Option.or_eq_some_iff.mp chosen with given | ⟨-, titled⟩
      · exact Header.isTidy_of_text? (given ▸ readName)
      · exact isTidy_title? outlined titled
  next =>
      cases read
      exact ⟨identifier, rfl, identified⟩

/-- The category that a document gives itself is a tidy text. -/
theorem isTidy_categoryOf (read : categoryOf .null header = .ok value) :
    ∃ category, value = .text category ∧ category.IsTidy := by
  rw [categoryOf, if_neg (by decide), bind_eq_ok] at read
  obtain ⟨given, readCategory, made⟩ := read
  cases made
  refine ⟨_, rfl, ?_⟩
  cases given with
  | none => decide
  | some category => exact Header.isTidy_of_text? readCategory

end Interview.Document
