import Interview.Text.Lower

/-!
# Slugs

A slug is a name made of small letters of the basic alphabet, digits and single hyphens. The slug
of a text is made of the runs of such letters and digits in its lower-case form.
-/

namespace Interview.Document

/-- Small letters of the basic alphabet, and digits. -/
def isSlugChar (c : Char) : Bool :=
  ('a' ≤ c && c ≤ 'z') || ('0' ≤ c && c ≤ '9')

/-- The run of slug characters that a text begins with, and the runs after it. -/
def slugRuns : List Char → List Char × List (List Char)
  | [] => ([], [])
  | c :: rest =>
    let (first, others) := slugRuns rest
    if isSlugChar c then (c :: first, others)
    else ([], if first.isEmpty then others else first :: others)

/-- The runs of slug characters in a text. -/
def slugWords (text : List Char) : List (List Char) :=
  let (first, others) := slugRuns text
  if first.isEmpty then others else first :: others

/-- Words joined by hyphens. -/
def joinHyphens : List (List Char) → List Char
  | [] => []
  | [word] => word
  | word :: next :: words => word ++ '-' :: joinHyphens (next :: words)

/-- The slug of a text, unless no character of it goes into a slug. -/
def slug? (text : List Char) : Option (List Char) :=
  match slugWords (Text.lower text) with
  | [] => none
  | words => some (joinHyphens words)

end Interview.Document
