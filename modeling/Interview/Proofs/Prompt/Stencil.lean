import Interview.Prompt.Context

/-!
# Stencils

A stencil is a text with places that are filled with values. Between `{{` and `}}` stands the name
of a value; between `{%` and `%}` stands a tag, which makes a part depend on a value, repeats it for
the items of a value, or names it as a block, so that another stencil can put its own part there.

A tag leaves no trace of the line that it stands on: blanks between the start of the line and the
tag are dropped, and so is the line feed right behind it. `Stencil.read?` takes a text apart that
way, and `Stencil.fill` fills what was read.
-/

namespace Interview.Prompt

/-- A value by a name and the names of fields inside it. -/
structure Place where
  name : String
  fields : List String
deriving DecidableEq, Repr

/-- What a part depends on: that a value counts as true, or that it is a certain text. -/
inductive Test where
  | holds (place : Place)
  | equals (place : Place) (text : String)
deriving DecidableEq, Repr

/-- A text with places for values. -/
inductive Stencil where
  | nothing
  | text (content : String)
  | hole (place : Place)
  | choice (test : Test) (yes no : Stencil)
  | each (name : String) (place : Place) (body : Stencil)
  | block (name : String) (body : Stencil)
  | join (first others : Stencil)
deriving DecidableEq, Repr

/-! ## Filling -/

/-- The values that names stand for. -/
abbrev Scope := String → Made Value

/-- One more name, which comes before one that is there already. -/
def Scope.bind (scope : Scope) (name : String) (value : Value) : Scope :=
  fun other => if other = name then .ok value else scope other

/-- The value at a place, which has to be there. -/
def Place.value (place : Place) (scope : Scope) : Made Value := do
  place.fields.foldlM get (← scope place.name)

/-- Whether a value is a certain text. -/
def isText (text : String) : Value → Bool
  | .text content => content == text
  | _ => false

/-- Whether a test is passed. -/
def Test.isPassed (scope : Scope) : Test → Made Bool
  | .holds place => do .ok (← place.value scope).isTruthy
  | .equals place text => do .ok (isText text (← place.value scope))

namespace Stencil

/-- The text of a stencil with its places filled, from the front to the end. -/
def fill (scope : Scope) : Stencil → Made String
  | .nothing => .ok ""
  | .text content => .ok content
  | .hole place => do show? (← place.value scope)
  | .choice test yes no => do if ← test.isPassed scope then yes.fill scope else no.fill scope
  | .each name place body => do
    let items ← itemsOf (← place.value scope)
    .ok (String.join (← items.mapM fun item => body.fill (scope.bind name item)))
  | .block _ body => body.fill scope
  | .join first others => do .ok ((← first.fill scope) ++ (← others.fill scope))

/-- Parts in a row. -/
def row (parts : List Stencil) : Stencil :=
  parts.foldr .join .nothing

/-- The blocks of a stencil that stand in no other part. -/
def blocks : Stencil → List (String × Stencil)
  | .block name body => [(name, body)]
  | .join first others => first.blocks ++ others.blocks
  | _ => []

/-- The stencil with other bodies for the blocks that are given. -/
def withBlocks (given : List (String × Stencil)) : Stencil → Stencil
  | .block name body => .block name ((given.lookup name).getD (body.withBlocks given))
  | .choice test yes no => .choice test (yes.withBlocks given) (no.withBlocks given)
  | .each name place body => .each name place (body.withBlocks given)
  | .join first others => .join (first.withBlocks given) (others.withBlocks given)
  | stencil => stencil

end Stencil

/-! ## Filling part by part -/

section Filling

variable {α β : Type} {scope : Scope} {name field : String} {value : Value}
variable {parts others : List Stencil}

@[simp] theorem ok_bind (value : α) (next : α → Made β) : (Except.ok value >>= next) = next value :=
  pure_bind value next

@[simp] theorem error_bind (fault : Fault) (next : α → Made β) :
    ((Except.error fault : Made α) >>= next) = .error fault :=
  rfl

@[simp] theorem bind_ok (made : Made α) : (made >>= .ok) = made := by
  cases made <;> rfl

@[simp] theorem Scope.bind_self : scope.bind name value name = .ok value :=
  if_pos rfl

@[simp] theorem Place.value_name : Place.value ⟨name, []⟩ scope = scope name :=
  bind_ok (scope name)

@[simp] theorem Place.value_field :
    Place.value ⟨name, [field]⟩ scope = scope name >>= fun value => get value field := by
  refine congrArg (scope name >>= ·) (funext fun value => ?_)
  exact bind_ok (get value field)

namespace Stencil

@[simp] theorem fill_row_nil : (row []).fill scope = .ok "" :=
  rfl

@[simp] theorem fill_row_cons {part : Stencil} :
    (row (part :: parts)).fill scope =
      (do .ok ((← part.fill scope) ++ (← (row parts).fill scope))) :=
  rfl

/-- What is behind in a row is filled after what is in front. -/
theorem fill_row_append :
    (row (parts ++ others)).fill scope =
      (do .ok ((← (row parts).fill scope) ++ (← (row others).fill scope))) := by
  induction parts with
  | nil => simp
  | cons part parts ih => simp [ih, String.append_assoc]

end Stencil

end Filling

/-! ## Pieces of a text -/

/-- A text outside of all marks, or what stands between two of them. -/
inductive Piece where
  | text (content : List Char)
  | hole (inside : List Char)
  | tag (inside : List Char)
deriving DecidableEq, Repr

/-- Where a reading stands. A text begins a line at the start of all and behind a line feed that was
dropped. -/
inductive Reading where
  | text (beginsLine : Bool)
  | hole
  | tag
deriving DecidableEq, Repr

/-- A text, last character first, without the blanks in front of a tag that has nothing else before
it on its line. -/
def dropMargin (beginsLine : Bool) (held : List Char) : List Char :=
  let margin := held.takeWhile (· != '\n')
  if margin.all Text.isBlank && (beginsLine || margin.length < held.length) then
    held.dropWhile (· != '\n')
  else held

/-- The pieces of a text. What is read of the current piece is held, last character first. -/
def piecesFrom : Reading → List Char → (text : List Char) → Option (List Piece)
  | .text _, held, [] => some [.text held.reverse]
  | _, _, [] => none
  | .text _, held, '{' :: '{' :: rest => (.text held.reverse :: ·) <$> piecesFrom .hole [] rest
  | .text beginsLine, held, '{' :: '%' :: rest =>
    (.text (dropMargin beginsLine held).reverse :: ·) <$> piecesFrom .tag [] rest
  | .hole, held, '}' :: '}' :: rest =>
    (.hole held.reverse :: ·) <$> piecesFrom (.text false) [] rest
  | .tag, held, '%' :: '}' :: '\n' :: rest =>
    (.tag held.reverse :: ·) <$> piecesFrom (.text true) [] rest
  | .tag, held, '%' :: '}' :: rest => (.tag held.reverse :: ·) <$> piecesFrom (.text false) [] rest
  | reading, held, c :: rest => piecesFrom reading (c :: held) rest

/-- A text without the line feed at its end. -/
def dropFinalFeed (text : List Char) : List Char :=
  if text.getLast? = some '\n' then text.dropLast else text

/-! ## Stencils from pieces -/

/-- What a tag says. -/
inductive Tag where
  | when (test : Test)
  | orWhen (test : Test)
  | otherwise
  | endWhen
  | each (name : String) (place : Place)
  | endEach
  | block (name : String)
  | endBlock
  | basedOn (name : String)
deriving DecidableEq, Repr

/-- Words between blanks. -/
def wordsOf (inside : List Char) : List String :=
  ((inside.splitOn ' ').filter (!·.isEmpty)).map String.ofList

/-- A name and fields, divided by points. -/
def Place.ofWord? (word : String) : Option Place :=
  match word.toList.splitOn '.' with
  | [] => none
  | name :: fields => some ⟨.ofList name, fields.map .ofList⟩

/-- A text between quotes. -/
def quoted? (word : String) : Option String :=
  match word.toList with
  | '"' :: rest => if rest.getLast? = some '"' then some (.ofList rest.dropLast) else none
  | _ => none

/-- A test in words. -/
def Test.ofWords? : List String → Option Test
  | [place] => Test.holds <$> Place.ofWord? place
  | [place, "==", text] => Test.equals <$> Place.ofWord? place <*> quoted? text
  | _ => none

/-- A tag in words. -/
def Tag.ofWords? : List String → Option Tag
  | "if" :: test => Tag.when <$> Test.ofWords? test
  | "elif" :: test => Tag.orWhen <$> Test.ofWords? test
  | ["else"] => some .otherwise
  | ["endif"] => some .endWhen
  | ["for", name, "in", place] => Tag.each name <$> Place.ofWord? place
  | ["endfor"] => some .endEach
  | ["block", name] => some (.block name)
  | ["endblock"] => some .endBlock
  | ["extends", name] => Tag.basedOn <$> quoted? name
  | _ => none

/-- A part whose end is read and whose beginning is not, with what comes behind it. -/
inductive Pending where
  | choice (no behind : Stencil)
  | each (behind : Stencil)
  | block (behind : Stencil)
deriving DecidableEq, Repr

/-- What is read of a text from its end on. -/
structure Gathered where
  stencil : Stencil
  pending : List Pending
  base : Option String
deriving DecidableEq, Repr

namespace Gathered

/-- A part is put in front. -/
def put (gathered : Gathered) (part : Stencil) : Gathered :=
  { gathered with stencil := .join part gathered.stencil }

/-- A part of its own begins. -/
def opened (gathered : Gathered) (pending : Pending) : Gathered :=
  { gathered with stencil := .nothing, pending := pending :: gathered.pending }

/-- A tag is put in front. Every beginning needs its end. -/
def addTag (gathered : Gathered) : Tag → Option Gathered
  | .endWhen => some (gathered.opened (.choice .nothing gathered.stencil))
  | .endEach => some (gathered.opened (.each gathered.stencil))
  | .endBlock => some (gathered.opened (.block gathered.stencil))
  | .otherwise =>
    match gathered.pending with
    | .choice _ behind :: pending =>
      some
        { gathered with
          stencil := .nothing
          pending := .choice gathered.stencil behind :: pending }
    | _ => none
  | .orWhen test =>
    match gathered.pending with
    | .choice no behind :: pending =>
      some
        { gathered with
          stencil := .nothing
          pending := .choice (.choice test gathered.stencil no) behind :: pending }
    | _ => none
  | .when test =>
    match gathered.pending with
    | .choice no behind :: pending =>
      some { gathered with stencil := .join (.choice test gathered.stencil no) behind, pending }
    | _ => none
  | .each name place =>
    match gathered.pending with
    | .each behind :: pending =>
      some { gathered with stencil := .join (.each name place gathered.stencil) behind, pending }
    | _ => none
  | .block name =>
    match gathered.pending with
    | .block behind :: pending =>
      some { gathered with stencil := .join (.block name gathered.stencil) behind, pending }
    | _ => none
  | .basedOn name => some { gathered with base := some name }

/-- A piece is put in front. -/
def add (piece : Piece) (gathered : Gathered) : Option Gathered :=
  match piece with
  | .text [] => some gathered
  | .text content => some (gathered.put (.text (.ofList content)))
  | .hole inside =>
    match wordsOf inside with
    | [place] => (fun place => gathered.put (.hole place)) <$> Place.ofWord? place
    | _ => none
  | .tag inside => Tag.ofWords? (wordsOf inside) >>= gathered.addTag

end Gathered

namespace Stencil

/-- A text as a stencil, with the name of the stencil that it is based on. -/
def read? (text : String) : Option (Stencil × Option String) := do
  let pieces ← piecesFrom (.text true) [] (dropFinalFeed text.toList)
  let gathered ← pieces.foldrM Gathered.add ⟨.nothing, [], none⟩
  if gathered.pending.isEmpty then some (gathered.stencil, gathered.base) else none

/-- The stencil of a name among texts with names. One that is based on another one is that with its
own blocks. -/
def open? (texts : List (String × String)) (name : String) : Option Stencil :=
  match (texts.lookup name).bind read? with
  | some (stencil, none) => some stencil
  | some (stencil, some base) =>
    match (texts.lookup base).bind read? with
    | some (below, none) => some (below.withBlocks stencil.blocks)
    | _ => none
  | none => none

section Opening

variable {texts : List (String × String)} {name base text below : String}
variable {stencil whole : Stencil}

theorem open?_of_whole (there : texts.lookup name = some text)
    (read : read? text = some (stencil, none)) : open? texts name = some stencil := by
  rw [open?, there, Option.bind_some, read]

/-- A stencil that is based on another one gives its blocks to it. -/
theorem open?_of_base (there : texts.lookup name = some text)
    (read : read? text = some (stencil, some base)) (baseThere : texts.lookup base = some below)
    (readBase : read? below = some (whole, none)) :
    open? texts name = some (whole.withBlocks stencil.blocks) := by
  simp only [open?, there, Option.bind_some, read, baseThere, readBase]

end Opening

end Stencil

end Interview.Prompt
