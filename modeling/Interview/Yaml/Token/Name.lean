import Interview.Decimal.Numeral
import Interview.Yaml.Token.Basic
import Interview.Yaml.Token.Scalar

/-!
# Names in a document

Anchors, aliases, tags and directives are names with an indicator before them. Each function here
starts at the indicator and gives the name with the position behind it.
-/

namespace Interview.Yaml

open Interview.Text (hexDigit?)

/-- Whether a text has ended or goes on with a character that may follow an anchor. -/
def endsAnchor (text : List Char) : Bool :=
  startsOrEnds (fun c => isGap c || "?:,]\x7d%@\x60".toList.contains c) text

/-- The name of an anchor or alias. -/
def anchorName (cursor : Cursor) : Except Fault (List Char × Cursor) :=
  let (name, after) := cursor.step.span isNameChar
  if name.isEmpty || !endsAnchor after.rest then .error (.malformed .badAnchor)
  else .ok (name, after)

/-- Characters of a tag, beside the percent sign of an escaped octet. -/
def isTagChar (c : Char) : Bool :=
  isNameChar c || ";/?:@&=+$,.!~*'()[]".toList.contains c

/-- The octets of a run of escapes, each a percent sign and two hexadecimal digits. -/
def percentRun : (fuel : Nat) → Cursor → Except Fault (List UInt8 × Cursor)
  | 0, cursor => .ok ([], cursor)
  | fuel + 1, cursor =>
    if cursor.sees (· == '%') then
      match leadingHex? 2 0 cursor.step.rest with
      | none => .error (.malformed .badTag)
      | some octet => do
        let (octets, after) ← percentRun fuel (cursor.skip 3)
        .ok (UInt8.ofNat octet :: octets, after)
    else .ok ([], cursor)

/-- The characters of a tag, with escaped octets read as UTF-8. -/
def tagTextFrom : (fuel : Nat) → Cursor → Except Fault (List Char × Cursor)
  | 0, cursor => .ok ([], cursor)
  | fuel + 1, cursor =>
    match cursor.rest with
    | [] => .ok ([], cursor)
    | c :: _ =>
      if c == '%' then do
        let (octets, after) ← percentRun (fuel + 1) cursor
        match String.fromUTF8? ⟨octets.toArray⟩ with
        | none => .error (.malformed .badTag)
        | some decoded => do
          let (text, after) ← tagTextFrom fuel after
          .ok (decoded.toList ++ text, after)
      else if isTagChar c then do
        let (text, after) ← tagTextFrom fuel cursor.step
        .ok (c :: text, after)
      else .ok ([], cursor)

/-- The characters of a tag, of which there is at least one. -/
def tagText (cursor : Cursor) : Except Fault (List Char × Cursor) := do
  let (text, after) ← tagTextFrom (cursor.left + 1) cursor
  if text.isEmpty then .error (.malformed .badTag) else .ok (text, after)

/-- A handle: an exclamation mark alone before a space, or a name between two of them. -/
def tagHandle (cursor : Cursor) : Except Fault (List Char × Cursor) :=
  match cursor.rest with
  | '!' :: ' ' :: _ => .ok (['!'], cursor.step)
  | '!' :: _ =>
    let (name, after) := cursor.step.span isNameChar
    if after.sees (· == '!') then .ok ('!' :: name ++ ['!'], after.step)
    else .error (.malformed .badTag)
  | _ => .error (.malformed .badTag)

/-- A tag in full between angle brackets, an exclamation mark alone, or a handle and the rest. -/
def tagName (cursor : Cursor) : Except Fault (TagName × Cursor) := do
  let (name, after) ←
    match cursor.step.rest with
    | '<' :: _ => do
      let (text, after) ← tagText (cursor.skip 2)
      if after.sees (· == '>') then .ok (⟨none, text⟩, after.step)
      else .error (.malformed .badTag)
    | rest =>
      if startsOrEnds isGap rest then .ok (⟨none, ['!']⟩, cursor.step)
      else do
        let (handle, after) ←
          if (rest.takeWhile (!isBreakOrSpace ·)).contains '!' then tagHandle cursor
          else .ok (['!'], cursor.step)
        let (text, after) ← tagText after
        .ok (⟨some handle, text⟩, after)
  if after.seesOrEnds isBreakOrSpace then .ok (name, after) else .error (.malformed .badTag)

/-- A number of a version. -/
def versionNumber (cursor : Cursor) : Except Fault (Nat × Cursor) :=
  let (digits, after) := cursor.span Text.isAsciiDigit
  if digits.isEmpty then .error (.malformed .badDirective)
  else
    match Decimal.readWhole 10 digits with
    | .ok number => .ok (number.toNat, after)
    | .error _ => .error (.scalar .unreadable)

/-- A directive, with the rest of its line passed. -/
def directive (cursor : Cursor) : Except Fault (Directive × Cursor) := do
  let (name, after) := cursor.step.span isNameChar
  if name.isEmpty || !after.seesOrEnds isBreakOrSpace then .error (.malformed .badDirective)
  else
    let (declared, after) ←
      if name == "YAML".toList then do
        let (major, after) ← versionNumber (after.pass (· == ' '))
        if after.sees (· == '.') then do
          let (_, after) ← versionNumber after.step
          if after.seesOrEnds isBreakOrSpace then .ok (Directive.version major, after)
          else .error (.malformed .badDirective)
        else .error (.malformed .badDirective)
      else if name == "TAG".toList then do
        let (handle, after) ← tagHandle (after.pass (· == ' '))
        if after.sees (· == ' ') then do
          let (expansion, after) ← tagText (after.pass (· == ' '))
          if after.seesOrEnds isBreakOrSpace then .ok (Directive.handle handle expansion, after)
          else .error (.malformed .badDirective)
        else .error (.malformed .badDirective)
      else .ok (Directive.other, after.pass (!isBreak ·))
    let after ← passRestOfLine .badDirective after
    .ok (declared, after)

end Interview.Yaml
