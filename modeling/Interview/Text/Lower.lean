import Interview.Text.CaseTable

/-!
# Lower case

Section headings, header keys and rule keys are compared in lower case. The mapping is that of
Unicode: one character for one, but for the dotted capital I, which keeps its dot as a mark, and
for the capital sigma, which has a final form at the end of a word.
-/

namespace Interview.Text

/-- Whether a code point lies in one of the closed ranges. -/
def inRanges (ranges : List (Nat × Nat)) (n : Nat) : Bool :=
  ranges.any fun range => range.1 ≤ n && n ≤ range.2

/-- Whether a run gives the lower-case form of a code point. -/
def CaseRun.covers (run : CaseRun) (n : Nat) : Bool :=
  run.first ≤ n && n ≤ run.last && (n - run.first) % run.step == 0

/-- The lower-case form of a character on its own. -/
def lowerChar (c : Char) : Char :=
  let n := c.toNat
  if n < 128 then
    if 65 ≤ n ∧ n ≤ 90 then Char.ofNat (n + 32) else c
  else
    match lowerRuns.find? (·.covers n) with
    | some run => Char.ofNat (n + run.shift).toNat
    | none => c

def isCased (c : Char) : Bool :=
  inRanges casedRanges c.toNat

def isCaseIgnorable (c : Char) : Bool :=
  inRanges caseIgnorableRanges c.toNat

/-- Whether the first character that is not passed over is cased. -/
def meetsCased (text : List Char) : Bool :=
  ((text.dropWhile isCaseIgnorable).head?.map isCased).getD false

/-- Whether a capital sigma ends a word: a cased character stands before it and none after it. -/
def sigmaIsFinal (before after : List Char) : Bool :=
  meetsCased before && !meetsCased after

/-- Lower case of the text `after`, where `before` is what precedes it, nearest character first. -/
def lowerFrom (before : List Char) : (after : List Char) → List Char
  | [] => []
  | c :: after =>
    let lowered :=
      if c == 'Σ' then [if sigmaIsFinal before after then 'ς' else 'σ']
      else if c == 'İ' then ['i', '\u0307']
      else [lowerChar c]
    lowered ++ lowerFrom (c :: before) after

/-- The lower-case form of a text. -/
def lower (text : List Char) : List Char :=
  lowerFrom [] text

end Interview.Text
