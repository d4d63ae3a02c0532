import Interview.Proofs.Document.Header
import Interview.Proofs.Text.Lower
import Mathlib.Computability.Language

/-!
# The form of slugs

The slugs are the texts of a regular language: words of small letters and digits, joined by single
hyphens. Each of them is its own slug. A document that names no slug of its own is called by a text
of this form, whichever fallback it comes from: `slugs_have_form`.
-/

namespace Interview

open Interview.Text
open scoped Computability

namespace Document

variable {c : Char} {text word slug : List Char} {words : List (List Char)}

/-! ## The language of slugs -/

/-- The texts of a single small letter or digit. -/
def slugLetter : Language Char :=
  {text | ∃ c, ('a' ≤ c ∧ c ≤ 'z' ∨ '0' ≤ c ∧ c ≤ '9') ∧ text = [c]}

/-- Words of small letters and digits, joined by single hyphens. -/
def slugForm : Language Char :=
  slugLetter * slugLetter∗ * ({['-']} * (slugLetter * slugLetter∗))∗

theorem mem_slugLetter : text ∈ slugLetter ↔ ∃ c, isSlugChar c = true ∧ text = [c] := by
  simp only [isSlugChar, Bool.or_eq_true, Bool.and_eq_true, decide_eq_true_eq]
  rfl

theorem mem_kstar_slugLetter : text ∈ slugLetter∗ ↔ ∀ c ∈ text, isSlugChar c = true := by
  rw [Language.mem_kstar]
  constructor
  · rintro ⟨letters, rfl, each⟩ c member
    obtain ⟨letter, among, inside⟩ := List.mem_flatten.mp member
    obtain ⟨other, isLetter, rfl⟩ := mem_slugLetter.mp (each letter among)
    rwa [List.mem_singleton.mp inside]
  · intro each
    refine ⟨text.map ([·]), ?_, ?_⟩
    · rw [← List.flatMap_def, List.flatMap_singleton']
    · intro letter member
      obtain ⟨c, inside, rfl⟩ := List.mem_map.mp member
      exact mem_slugLetter.mpr ⟨c, each c inside, rfl⟩

theorem mem_slugWord : word ∈ slugLetter * slugLetter∗ ↔ IsSlugWord word := by
  rw [Language.mem_mul]
  constructor
  · rintro ⟨first, isLetter, rest, areLetters, rfl⟩
    obtain ⟨c, here, rfl⟩ := mem_slugLetter.mp isLetter
    exact ⟨by simp, List.forall_mem_cons.mpr ⟨here, mem_kstar_slugLetter.mp areLetters⟩⟩
  · rintro ⟨some, letters⟩
    obtain ⟨c, rest, rfl⟩ := List.exists_cons_of_ne_nil some
    obtain ⟨here, there⟩ := List.forall_mem_cons.mp letters
    exact ⟨[c], mem_slugLetter.mpr ⟨c, here, rfl⟩, rest, mem_kstar_slugLetter.mpr there, rfl⟩

/-- Behind the first word, each word follows a hyphen. -/
theorem joinHyphens_cons (word : List Char) (words : List (List Char)) :
    joinHyphens (word :: words) = word ++ words.flatMap ('-' :: ·) := by
  induction words generalizing word with
  | nil => simp [joinHyphens]
  | cons next words ih => simp [joinHyphens, ih]

/-- A hyphen and a word behind it. -/
theorem mem_hyphened :
    text ∈ ({['-']} : Language Char) * (slugLetter * slugLetter∗) ↔
      ∃ word, IsSlugWord word ∧ text = '-' :: word := by
  rw [Language.mem_mul]
  constructor
  · rintro ⟨hyphen, isHyphen, word, isWord, rfl⟩
    rw [Set.mem_singleton_iff.mp isHyphen]
    exact ⟨word, mem_slugWord.mp isWord, rfl⟩
  · rintro ⟨word, isWord, rfl⟩
    exact ⟨['-'], Set.mem_singleton _, word, mem_slugWord.mpr isWord, rfl⟩

theorem mem_kstar_hyphened :
    text ∈ ({['-']} * (slugLetter * slugLetter∗))∗ ↔
      ∃ words : List (List Char),
        (∀ word ∈ words, IsSlugWord word) ∧ text = words.flatMap ('-' :: ·) := by
  rw [Language.mem_kstar]
  constructor
  · rintro ⟨pieces, rfl, each⟩
    induction pieces with
    | nil => exact ⟨[], by simp, rfl⟩
    | cons piece pieces ih =>
        obtain ⟨here, there⟩ := List.forall_mem_cons.mp each
        obtain ⟨word, isWord, rfl⟩ := mem_hyphened.mp here
        obtain ⟨words, areWords, whole⟩ := ih there
        exact ⟨word :: words, List.forall_mem_cons.mpr ⟨isWord, areWords⟩, by simp [whole]⟩
  · rintro ⟨words, areWords, rfl⟩
    refine ⟨words.map ('-' :: ·), List.flatMap_def, ?_⟩
    intro piece member
    obtain ⟨word, among, rfl⟩ := List.mem_map.mp member
    exact mem_hyphened.mpr ⟨word, areWords word among, rfl⟩

/-- The texts of the form are joined from one word or more. -/
theorem mem_slugForm :
    slug ∈ slugForm ↔
      ∃ words, words ≠ [] ∧ (∀ word ∈ words, IsSlugWord word) ∧ slug = joinHyphens words := by
  rw [slugForm, Language.mem_mul]
  constructor
  · rintro ⟨word, isWord, rest, hyphened, rfl⟩
    obtain ⟨words, areWords, rfl⟩ := mem_kstar_hyphened.mp hyphened
    have isWord := mem_slugWord.mp isWord
    exact ⟨word :: words, by simp, List.forall_mem_cons.mpr ⟨isWord, areWords⟩,
      (joinHyphens_cons word words).symm⟩
  · rintro ⟨words, some, areWords, rfl⟩
    obtain ⟨word, words, rfl⟩ := List.exists_cons_of_ne_nil some
    obtain ⟨isWord, areWords⟩ := List.forall_mem_cons.mp areWords
    exact ⟨word, mem_slugWord.mpr isWord, _, mem_kstar_hyphened.mpr ⟨words, areWords, rfl⟩,
      (joinHyphens_cons word words).symm⟩

/-! ## The slug of a slug -/

/-- The words of a slug stay together. -/
theorem slugRuns_append (letters : ∀ c ∈ word, isSlugChar c = true) (rest : List Char) :
    slugRuns (word ++ rest) = (word ++ (slugRuns rest).1, (slugRuns rest).2) := by
  induction word with
  | nil => rfl
  | cons c word ih =>
      obtain ⟨here, there⟩ := List.forall_mem_cons.mp letters
      rw [List.cons_append, slugRuns, ih there]
      simp [here]

theorem slugRuns_hyphen (rest : List Char) : slugRuns ('-' :: rest) = ([], slugWords rest) := by
  have noLetter : isSlugChar '-' = false := by decide
  simp [slugRuns, slugWords, noLetter]

/-- A word is found before a rest that begins with none. -/
theorem slugWords_append {rest : List Char} (isWord : IsSlugWord word)
    (split : slugRuns rest = ([], words)) : slugWords (word ++ rest) = word :: words := by
  obtain ⟨some, letters⟩ := isWord
  simp [slugWords, slugRuns_append letters, split, some]

theorem slugRuns_flatMap (areWords : ∀ word ∈ words, IsSlugWord word) :
    slugRuns (words.flatMap ('-' :: ·)) = ([], words) := by
  induction words with
  | nil => rfl
  | cons word words ih =>
      obtain ⟨isWord, areWords⟩ := List.forall_mem_cons.mp areWords
      rw [List.flatMap_cons, List.cons_append, slugRuns_hyphen,
        slugWords_append isWord (ih areWords)]

/-- The words that a slug is joined from are found in it again. -/
theorem slugWords_joinHyphens (some : words ≠ []) (areWords : ∀ word ∈ words, IsSlugWord word) :
    slugWords (joinHyphens words) = words := by
  obtain ⟨word, words, rfl⟩ := List.exists_cons_of_ne_nil some
  obtain ⟨isWord, areWords⟩ := List.forall_mem_cons.mp areWords
  rw [joinHyphens_cons, slugWords_append isWord (slugRuns_flatMap areWords)]

theorem lower_joinHyphens (areWords : ∀ word ∈ words, IsSlugWord word) :
    lower (joinHyphens words) = joinHyphens words := by
  apply lower_eq_self
  intro c member
  rcases mem_joinHyphens member with rfl | ⟨word, among, inside⟩
  · decide
  · have bounds := toNat_of_isSlugChar ((areWords word among).2 c inside)
    omega

/-- A text of the form is its own slug. -/
theorem slug?_eq_self (isForm : slug ∈ slugForm) : slug? slug = some slug := by
  obtain ⟨words, some, areWords, rfl⟩ := mem_slugForm.mp isForm
  rw [slug?, lower_joinHyphens areWords, slugWords_joinHyphens some areWords]
  obtain ⟨word, words, rfl⟩ := List.exists_cons_of_ne_nil some
  rfl

theorem mem_slugForm_of_slug? (found : slug? text = some slug) : slug ∈ slugForm :=
  mem_slugForm.mpr (exists_words_of_slug? found)

/-! ## What a document without a slug is called -/

theorem length_hex (width n : Nat) : (hex width n).length = width := by
  induction width generalizing n with
  | zero => rfl
  | succ width ih => rw [hex, List.length_append, ih, List.length_singleton]

theorem length_digest (document : String) : (Digest.ofText document).toList.length = 64 := by
  simp [Digest.ofText, Digest.State.hex, length_hex]

/-- The part of a digest that an identifier takes is a word. -/
theorem isSlugWord_take_digest (document : String) :
    IsSlugWord ((Digest.ofText document).toList.take digestPart) := by
  constructor
  · intro none
    have length := congrArg List.length none
    rw [List.length_take, length_digest] at length
    cases length
  · exact fun c member => isSlugChar_of_mem_digest (List.mem_of_mem_take member)

/-- What a document is called that names no slug has the form of one. -/
theorem fallbackIdentifier_mem_slugForm (named : Option String) (document : String) :
    (fallbackIdentifier named (Digest.ofText document)).toList ∈ slugForm := by
  unfold fallbackIdentifier
  split
  next slug made =>
      obtain ⟨text, -, slugged⟩ := Option.bind_eq_some_iff.mp made
      rw [String.toList_ofList]
      exact mem_slugForm_of_slug? slugged
  next =>
      have mark : IsSlugWord "playbook".toList :=
        ⟨by decide, List.all_eq_true.mp (by decide)⟩
      have isWord := isSlugWord_take_digest document
      -- The part of the digest is put aside, as it would be computed otherwise.
      generalize (Digest.ofText document).toList.take digestPart = part at isWord ⊢
      refine mem_slugForm.mpr ⟨["playbook".toList, part], by simp, ?_, ?_⟩
      · exact List.forall_mem_cons.mpr ⟨mark, List.forall_mem_singleton.mpr isWord⟩
      · simp [joinHyphens]

/-- A document that names no slug is called by a fallback if no identifier is known. -/
theorem exists_fallback_of_compile {document : String} {overrides : Overrides} {header : Header}
    {sections : List Section} {template : Template}
    (outlined : outline (dropReturns document.toList) = .ok (header, sections))
    (noSlug : header.text? "slug" = .ok none) (unknown : overrides.identifier.isTruthy = false)
    (compiled : compile document overrides = .ok template) :
    ∃ named, template.identifier = some (fallbackIdentifier named (Digest.ofText document)) := by
  obtain ⟨made, rfl⟩ := compile_eq_ok.mp compiled
  obtain ⟨rfl, rfl⟩ := Prod.mk.inj (Except.ok.inj (outlined.symm.trans made.outlined))
  have chosen := made.readIdentifier
  rw [identifierOf, if_neg (by simp [unknown]), bind_eq_ok] at chosen
  obtain ⟨slug, readSlug, chosen⟩ := chosen
  cases noSlug.symm.trans readSlug
  obtain ⟨named, -, isText⟩ := bind_eq_ok.mp chosen
  exact ⟨named.or made.header.title?,
    congrArg some (eq_of_readText (Except.ok.inj isText).symm made.identified)⟩

end Document

open Document

/-! ## Main result -/

/-- Every slug has the form of slugs and is its own slug, as is every text of that form. The
identifier of a document that names no slug has the form too, unless the caller knows another. -/
theorem slugs_have_form :
    (∀ text slug, slug? text = some slug → slug ∈ slugForm ∧ slug? slug = some slug) ∧
    (∀ slug ∈ slugForm, slug? slug = some slug) ∧
    ∀ text overrides header sections template,
      outline (dropReturns text.toList) = .ok (header, sections) →
      header.text? "slug" = .ok none → overrides.identifier.isTruthy = false →
      compile text overrides = .ok template →
      ∃ identifier, template.identifier = some identifier ∧ identifier.toList ∈ slugForm := by
  refine ⟨?_, fun slug => slug?_eq_self, ?_⟩
  · intro text slug found
    have isForm := mem_slugForm_of_slug? found
    exact ⟨isForm, slug?_eq_self isForm⟩
  · intro text overrides header sections template outlined noSlug unknown compiled
    obtain ⟨named, called⟩ := exists_fallback_of_compile outlined noSlug unknown compiled
    exact ⟨_, called, fallbackIdentifier_mem_slugForm named text⟩

namespace Document

/-- A document with a title in which a letter of another alphabet has one of this in lower case. -/
def costs : String :=
  "# Ärger & die \u212Aosten\n## Questions\n- \x7bid: 1, phase: greet_frame, text: Who\x7d\n"

end Document

theorem slugs_have_form_costs :
    ∃ slug, slug? "Ärger & die \u212Aosten".toList = some slug ∧
      slug = "rger-die-kosten".toList ∧ slug ∈ slugForm ∧ slug? slug = some slug ∧
      ∃ header sections template,
        outline (dropReturns costs.toList) = .ok (header, sections) ∧
        header.text? "slug" = .ok none ∧
        compile costs (Overrides.source "ask.md") = .ok template ∧
        template.identifier = some "rger-die-kosten" ∧
        ∃ identifier, template.identifier = some identifier ∧ identifier.toList ∈ slugForm := by
  obtain ⟨ofText, -, ofDocument⟩ := slugs_have_form
  have found : slug? "Ärger & die \u212Aosten".toList = some "rger-die-kosten".toList := by decide
  obtain ⟨isForm, same⟩ := ofText _ _ found
  have opens : (outline (dropReturns costs.toList)).toOption.any (fun outline =>
      outline.1.text? "slug" = .ok none) = true := by
    decide +kernel
  have compiles : (compile costs (Overrides.source "ask.md")).toOption.any (fun template =>
      template.identifier == some "rger-die-kosten") = true := by
    decide +kernel
  obtain ⟨⟨header, sections⟩, outlined, noSlug⟩ := exists_ok_of_any opens
  obtain ⟨template, compiled, identifier⟩ := exists_ok_of_any compiles
  have noSlug := of_decide_eq_true noSlug
  exact ⟨_, found, rfl, isForm, same, header, sections, template, outlined, noSlug, compiled,
    eq_of_beq identifier, ofDocument costs _ header sections template outlined noSlug rfl compiled⟩

end Interview
