import Interview.Entries
import Interview.Record.Scalar

/-!
# Fields and collections of records

A field is looked up under one or more names, of which the first that is present counts. An absent
field has its default or is a fault. Unknown fields are passed over.
-/

namespace Interview.Record

/-- How a value is read. -/
abbrev Reader (α : Type) := Value → Checked α

/-- An absent value, or one that is read. -/
def readOptional {α : Type} (reader : Reader α) : Reader (Option α)
  | .null => .ok none
  | value => some <$> reader value

/-- The items of a value that counts as a list. -/
def items? : Value → Option (List Value)
  | .list items => some items
  | .set members => some members
  | .pair first second => some [first, second]
  | _ => none

/-- Each item, read at its position. -/
def readEach {α : Type} (reader : Reader α) : (position : Nat) → List Value → List (Checked α)
  | _, [] => []
  | position, item :: items =>
    (reader item).under (.position position) :: readEach reader (position + 1) items

/-- A list. -/
def readList {α : Type} (reader : Reader α) (value : Value) : Checked (List α) :=
  match items? value with
  | some items => .collect (readEach reader 0 items)
  | none => .fail .notList

/-- The members of a list without repetitions, each where it stands first. -/
def distinct (members : List String) : List String :=
  members.foldl (fun kept member => if kept.contains member then kept else kept ++ [member]) []

/-- A set of texts. -/
def readTextSet (value : Value) : Checked (List String) :=
  match items? value with
  | some items => distinct <$> Checked.collect (readEach readText 0 items)
  | none => .fail .notSet

/-- A mapping from texts to any values. -/
def readEntries : Reader (Entries Value)
  | .mapping entries =>
    Entries.ofList <$> Checked.collect (entries.map fun (key, value) =>
      (fun key => (key, value)) <$> readText key)
  | _ => .fail .notMapping

/-- The first of the names that a mapping holds, with its value. -/
def firstPresent (entries : List (Value × Value)) : (names : List String) → Option (String × Value)
  | [] => none
  | name :: names =>
    match Value.lookup (.text name) entries with
    | some value => some (name, value)
    | none => firstPresent entries names

/-- A field of a record: the value under the first of its names that is present, or its default. A
required field that is absent is a fault under its first name. -/
def field {α : Type} (entries : List (Value × Value)) (name : String) (others : List String)
    (default : Option α) (reader : Reader α) : Checked α :=
  match firstPresent entries (name :: others) with
  | some (name, value) => (reader value).under (.key name)
  | none =>
    match default with
    | some value => .ok value
    | none => Checked.under (.key name) (.fail .missing)

/-- The entries of a value that counts as a record. -/
def recordEntries (name : String) : Reader (List (Value × Value))
  | .mapping entries => .ok entries
  | _ => .fail (.notRecord name)

/-- A record whose parts are sound is refused if it breaks a rule as a whole. -/
def guarded {α : Type} (rule? : α → Option String) (result : Checked α) : Checked α :=
  result.andThen fun value =>
    match rule? value with
    | some rule => .fail (.broken rule)
    | none => .ok value

end Interview.Record
