import Interview.Document.Slug
import Interview.Text.Blank

/-!
# Slugs as words

The slug of a text is made of words over small letters and digits, joined by hyphens. The lemmas
here say so of the runs into which `slugRuns` divides a text, and read off that no blank stands in a
slug.
-/

namespace Interview.Document

variable {text word slug : List Char} {words : List (List Char)} {c : Char}

/-- A word of small letters and digits, with at least one of them. -/
def IsSlugWord (word : List Char) : Prop :=
  word ≠ [] ∧ ∀ c ∈ word, isSlugChar c = true

/-- A run before words is a word too, unless it is empty and left out. -/
theorem isSlugWord_of_mem_ite {first : List Char} (run : ∀ c ∈ first, isSlugChar c = true)
    (all : ∀ word ∈ words, IsSlugWord word)
    (member : word ∈ if first.isEmpty then words else first :: words) : IsSlugWord word := by
  cases first with
  | nil => exact all word member
  | cons c rest =>
      rcases List.mem_cons.mp member with rfl | among
      · exact ⟨by simp, run⟩
      · exact all word among

/-- The run at the start of a text may be empty, and the runs after it are words. -/
theorem slugRuns_words :
    (∀ c ∈ (slugRuns text).1, isSlugChar c = true) ∧
      ∀ word ∈ (slugRuns text).2, IsSlugWord word := by
  induction text with
  | nil => simp [slugRuns]
  | cons c rest ih =>
      obtain ⟨run, all⟩ := ih
      by_cases letter : isSlugChar c = true
      · simp only [slugRuns, letter, if_true, List.forall_mem_cons, true_and]
        exact ⟨run, all⟩
      · simp only [slugRuns, letter]
        exact ⟨by simp, fun word => isSlugWord_of_mem_ite run all⟩

theorem isSlugWord_of_mem_slugWords (member : word ∈ slugWords text) : IsSlugWord word :=
  isSlugWord_of_mem_ite slugRuns_words.1 slugRuns_words.2 member

/-- A slug is made of at least one word. -/
theorem exists_words_of_slug? (found : slug? text = some slug) :
    ∃ words, words ≠ [] ∧ (∀ word ∈ words, IsSlugWord word) ∧ slug = joinHyphens words := by
  unfold slug? at found
  split at found
  · cases found
  next some =>
      cases found
      exact ⟨_, some, fun word => isSlugWord_of_mem_slugWords, rfl⟩

theorem mem_joinHyphens (member : c ∈ joinHyphens words) : c = '-' ∨ ∃ word ∈ words, c ∈ word := by
  induction words using joinHyphens.induct with
  | case1 => cases member
  | case2 word => exact .inr ⟨word, List.mem_cons_self, member⟩
  | case3 word next words ih =>
      rw [joinHyphens, List.mem_append, List.mem_cons] at member
      rcases member with inside | rfl | later
      · exact .inr ⟨word, List.mem_cons_self, inside⟩
      · exact .inl rfl
      · rcases ih later with hyphen | ⟨other, among, inside⟩
        · exact .inl hyphen
        · exact .inr ⟨other, List.mem_cons_of_mem _ among, inside⟩

theorem joinHyphens_ne_nil (some : words ≠ []) (all : ∀ word ∈ words, IsSlugWord word) :
    joinHyphens words ≠ [] := by
  match words with
  | [word] => exact (all word List.mem_cons_self).1
  | word :: next :: words => simp [joinHyphens]

theorem toNat_of_isSlugChar (letter : isSlugChar c = true) :
    (97 ≤ c.toNat ∧ c.toNat ≤ 122) ∨ (48 ≤ c.toNat ∧ c.toNat ≤ 57) := by
  simpa [isSlugChar, Char.le_def, UInt32.le_iff_toNat_le] using letter

theorem isBlank_of_isSlugChar (letter : isSlugChar c = true) : Text.isBlank c = false := by
  have bounds := toNat_of_isSlugChar letter
  simp only [Text.isBlank, Text.isSpace, Bool.or_eq_false_iff, Bool.and_eq_false_iff,
    decide_eq_false_iff_not, beq_eq_false_iff_ne]
  omega

/-- A slug is not empty, and no blank stands in it. -/
theorem visible_of_slug? (found : slug? text = some slug) :
    slug ≠ [] ∧ ∀ c ∈ slug, Text.isBlank c = false := by
  obtain ⟨words, some, all, rfl⟩ := exists_words_of_slug? found
  refine ⟨joinHyphens_ne_nil some all, fun c member => ?_⟩
  rcases mem_joinHyphens member with rfl | ⟨word, among, inside⟩
  · decide
  · exact isBlank_of_isSlugChar ((all word among).2 c inside)

end Interview.Document
