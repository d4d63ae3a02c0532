import Interview.Yaml.Node.Basic
import Interview.Yaml.Token.Lexer

/-!
# The node that tokens form

A text holds at most one document, which is a node with directives and marks around it. Where an
entry, a key or a value is announced and nothing follows, the absent value stands. Each function
here reads from the start of a list of tokens and gives what is left of it.
-/

namespace Interview.Yaml

/-- What holds for a whole document: the expansions of tag handles, and what cut the tokens short
if something did. -/
structure Grammar where
  handles : List (List Char × List Char)
  cut : Option Fault

/-- Where a node stands: in a flow collection, in a block list or at the top, or in a block mapping,
where the entries of a list need not be indented. -/
inductive Place where
  | flow
  | list
  | mapping
deriving DecidableEq, Repr

/-- The anchor and tag before a node. A tag of an exclamation mark alone asks for the tag that a
plain scalar would have. -/
structure Properties where
  anchor : Option Name
  tag : Option (List Char)
deriving DecidableEq, Repr

namespace Grammar

/-- The fault of a text that does not go on as it should: what cut the tokens short, if they end
here. -/
def stop (g : Grammar) (tokens : List Token) : Fault :=
  match tokens, g.cut with
  | [], some fault => fault
  | _, _ => .malformed .unexpectedToken

/-- The full form of a written tag. -/
def expand (g : Grammar) (name : TagName) : Except Fault (List Char) :=
  match name.handle with
  | none => .ok name.rest
  | some handle =>
    match g.handles.lookup handle with
    | some expansion => .ok (expansion ++ name.rest)
    | none => .error (.malformed .unknownHandle)

/-- The properties at the start of a node, in either order. -/
def properties (g : Grammar) : List Token → Except Fault (Properties × List Token)
  | .anchor anchor :: .tag name :: rest => do .ok (⟨some anchor, some (← g.expand name)⟩, rest)
  | .anchor anchor :: rest => .ok (⟨some anchor, none⟩, rest)
  | .tag name :: .anchor anchor :: rest => do .ok (⟨some anchor, some (← g.expand name)⟩, rest)
  | .tag name :: rest => do .ok (⟨none, some (← g.expand name)⟩, rest)
  | tokens => .ok (⟨none, none⟩, tokens)

end Grammar

/-- The tag that the properties of a node name, or `inferred` if they leave it open. -/
def Properties.tagOr (p : Properties) (inferred : Tag) : Tag :=
  match p.tag with
  | none => inferred
  | some name => if name == ['!'] then inferred else Tag.ofName name

/-- A scalar with its properties. A quoted scalar without a tag is a text. -/
def Properties.scalar (p : Properties) (plain : Bool) (content : List Char) : Node :=
  .scalar p.anchor
    (p.tagOr (if plain || p.tag == some ['!'] then Tag.ofPlain content else .text)) content

/-- Whether the tokens start with the end of a block collection or with one of `marks`. -/
def startsWithAny (marks : List Token) : List Token → Bool
  | [] => false
  | token :: _ => marks.contains token

namespace Node

mutual

/-- The node at the start of the tokens. -/
def read (g : Grammar) (place : Place) : (fuel : Nat) → List Token →
    Except Fault (Node × List Token)
  | 0, tokens => .error (g.stop tokens)
  | _ + 1, .alias name :: rest => .ok (.alias name, rest)
  | fuel + 1, tokens => do
    let (p, tokens) ← g.properties tokens
    match tokens with
    | .scalar plain content :: rest => .ok (p.scalar plain content, rest)
    | .flowListStart :: rest => do
      let (items, rest) ← readFlowItems g fuel true rest
      .ok (.list p.anchor (p.tagOr .list) items, rest)
    | .flowMappingStart :: rest => do
      let (entries, rest) ← readFlowEntries g fuel true rest
      .ok (.mapping p.anchor (p.tagOr .mapping) entries, rest)
    | tokens =>
      match decide (place = .flow), decide (place = .mapping), tokens with
      | _, true, .entry :: _ => do
        let (items, rest) ← readIndentless g fuel tokens
        .ok (.list p.anchor (p.tagOr .list) items, rest)
      | false, _, .blockListStart :: rest => do
        let (items, rest) ← readItems g fuel rest
        .ok (.list p.anchor (p.tagOr .list) items, rest)
      | false, _, .blockMappingStart :: rest => do
        let (entries, rest) ← readEntries g fuel rest
        .ok (.mapping p.anchor (p.tagOr .mapping) entries, rest)
      | _, _, tokens =>
        if p.anchor.isSome || p.tag.isSome then .ok (p.scalar true [], tokens)
        else .error (g.stop tokens)

/-- The node at the start of the tokens, or nothing if one of `marks` comes first. -/
def readUnless (g : Grammar) (place : Place) (marks : List Token) : (fuel : Nat) → List Token →
    Except Fault (Node × List Token)
  | 0, tokens => .error (g.stop tokens)
  | fuel + 1, tokens =>
    if startsWithAny marks tokens then .ok (.nothing, tokens) else read g place fuel tokens

/-- The entries of a block list up to its end. -/
def readItems (g : Grammar) : (fuel : Nat) → List Token → Except Fault (List Node × List Token)
  | 0, tokens => .error (g.stop tokens)
  | fuel + 1, .entry :: rest => do
    let (item, rest) ← readUnless g .list [.entry, .blockEnd] fuel rest
    let (items, rest) ← readItems g fuel rest
    .ok (item :: items, rest)
  | _ + 1, .blockEnd :: rest => .ok ([], rest)
  | _ + 1, tokens => .error (g.stop tokens)

/-- The entries of a block list that is not indented beyond the mapping around it. -/
def readIndentless (g : Grammar) : (fuel : Nat) → List Token →
    Except Fault (List Node × List Token)
  | 0, tokens => .error (g.stop tokens)
  | fuel + 1, .entry :: rest => do
    let (item, rest) ← readUnless g .list [.entry, .key, .value, .blockEnd] fuel rest
    let (items, rest) ← readIndentless g fuel rest
    .ok (item :: items, rest)
  | _ + 1, tokens => .ok ([], tokens)

/-- The entries of a block mapping up to its end. -/
def readEntries (g : Grammar) : (fuel : Nat) → List Token →
    Except Fault (List (Node × Node) × List Token)
  | 0, tokens => .error (g.stop tokens)
  | fuel + 1, .key :: rest => do
    let (key, rest) ← readUnless g .mapping [.key, .value, .blockEnd] fuel rest
    let (value, rest) ← readValue g .mapping [.key, .value, .blockEnd] fuel rest
    let (entries, rest) ← readEntries g fuel rest
    .ok ((key, value) :: entries, rest)
  | _ + 1, .blockEnd :: rest => .ok ([], rest)
  | _ + 1, tokens => .error (g.stop tokens)

/-- The value after a colon, or nothing if there is no colon or one of `marks` follows it. -/
def readValue (g : Grammar) (place : Place) (marks : List Token) : (fuel : Nat) → List Token →
    Except Fault (Node × List Token)
  | 0, tokens => .error (g.stop tokens)
  | fuel + 1, .value :: rest => readUnless g place marks fuel rest
  | _ + 1, tokens => .ok (.nothing, tokens)

/-- The entries of a flow list up to its end. All but the `first` come after a comma. A key among
them makes a mapping of one entry. -/
def readFlowItems (g : Grammar) : (fuel : Nat) → (first : Bool) → List Token →
    Except Fault (List Node × List Token)
  | 0, _, tokens => .error (g.stop tokens)
  | _ + 1, _, .flowListEnd :: rest => .ok ([], rest)
  | fuel + 1, false, .comma :: rest => readFlowItems g fuel true rest
  | _ + 1, false, tokens => .error (g.stop tokens)
  | fuel + 1, true, .key :: rest => do
    let (key, rest) ← readUnless g .flow [.value, .comma, .flowListEnd] fuel rest
    let (value, rest) ← readValue g .flow [.comma, .flowListEnd] fuel rest
    let (items, rest) ← readFlowItems g fuel false rest
    .ok (.mapping none .mapping [(key, value)] :: items, rest)
  | fuel + 1, true, tokens => do
    let (item, rest) ← read g .flow fuel tokens
    let (items, rest) ← readFlowItems g fuel false rest
    .ok (item :: items, rest)

/-- The entries of a flow mapping up to its end. All but the `first` come after a comma. A node
without a colon is a key without a value. -/
def readFlowEntries (g : Grammar) : (fuel : Nat) → (first : Bool) → List Token →
    Except Fault (List (Node × Node) × List Token)
  | 0, _, tokens => .error (g.stop tokens)
  | _ + 1, _, .flowMappingEnd :: rest => .ok ([], rest)
  | fuel + 1, false, .comma :: rest => readFlowEntries g fuel true rest
  | _ + 1, false, tokens => .error (g.stop tokens)
  | fuel + 1, true, .key :: rest => do
    let (key, rest) ← readUnless g .flow [.value, .comma, .flowMappingEnd] fuel rest
    let (value, rest) ← readValue g .flow [.comma, .flowMappingEnd] fuel rest
    let (entries, rest) ← readFlowEntries g fuel false rest
    .ok ((key, value) :: entries, rest)
  | fuel + 1, true, tokens => do
    let (key, rest) ← read g .flow fuel tokens
    let (entries, rest) ← readFlowEntries g fuel false rest
    .ok ((key, .nothing) :: entries, rest)

end

end Node

/-- The handles that every document knows. -/
def standardHandles : List (List Char × List Char) :=
  [(['!'], ['!']), (['!', '!'], Tag.standard)]

/-- The handles that the directives at the start of the tokens declare. A handle is declared once,
and so is the version, whose first number is one. -/
def readDirectives : (versioned : Bool) → (handles : List (List Char × List Char)) → List Token →
    Except Fault (List (List Char × List Char) × List Token)
  | versioned, handles, .directive declared :: rest =>
    match declared with
    | .version major =>
      if versioned || major != 1 then .error (.malformed .badDirective)
      else readDirectives true handles rest
    | .handle name expansion =>
      if (handles.lookup name).isSome then .error (.malformed .badDirective)
      else readDirectives versioned ((name, expansion) :: handles) rest
    | .other => readDirectives versioned handles rest
  | _, handles, tokens => .ok (handles, tokens)

/-- What follows a document: nothing but marks of its end. -/
def readEnd (g : Grammar) (tokens : List Token) : Except Fault Unit :=
  let isEnd (token : Token) : Bool := token == .documentEnd
  match tokens.dropWhile isEnd with
  | [] =>
    match g.cut with
    | some fault => .error fault
    | none => .ok ()
  | .documentStart :: _ => .error (.malformed .secondDocument)
  | _ => .error (.malformed .unexpectedToken)

/-- The node of a document that starts with directives or with a mark. -/
def readMarked (cut : Option Fault) (fuel : Nat) (tokens : List Token) : Except Fault Node := do
  let (handles, tokens) ← readDirectives false [] tokens
  let g : Grammar := ⟨handles ++ standardHandles, cut⟩
  match tokens with
  | .documentStart :: rest =>
    let (node, rest) ←
      match rest with
      | [] =>
        match cut with
        | some fault => .error fault
        | none => .ok (.nothing, rest)
      | .documentStart :: _ | .documentEnd :: _ | .directive _ :: _ => .ok (.nothing, rest)
      | rest => Node.read g .list fuel rest
    readEnd g rest
    .ok node
  | tokens => .error (g.stop tokens)

/-- The node of the document that the tokens form, or none if there are no tokens. -/
def Node.ofTokens (tokens : Tokens) : Except Fault (Option Node) := do
  let fuel := 3 * tokens.tokens.length + 3
  match tokens.tokens with
  | [] =>
    match tokens.fault with
    | some fault => .error fault
    | none => .ok none
  | .documentStart :: _ | .directive _ :: _ =>
    let node ← readMarked tokens.fault fuel tokens.tokens
    .ok (some node)
  | all =>
    let g : Grammar := ⟨standardHandles, tokens.fault⟩
    let (node, rest) ← Node.read g .list fuel all
    readEnd g rest
    .ok (some node)

end Interview.Yaml
