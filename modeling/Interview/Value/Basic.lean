import Interview.Calendar
import Interview.Decimal.Magnitude

/-!
# Dynamic values

Rules, answers and the content of configuration files are values whose shape is known only when
they are read. A `Value` is a scalar or a collection of values. A configuration file can name a
collection inside itself; such a place is `again`, which tells how many collections up the named one
stands.
-/

namespace Interview

open Calendar

/-- The two kinds of collection that can stand inside themselves. -/
inductive Shape where
  | list
  | mapping
deriving DecidableEq, Repr

/-- A dynamic value. -/
inductive Value where
  | null
  | bool (truth : Bool)
  | int (whole : Int)
  | float (number : Float)
  | text (content : String)
  | bytes (octets : List UInt8)
  | date (day : Day)
  | moment (instant : Moment)
  | list (items : List Value)
  | pair (first second : Value)
  | set (members : List Value)
  | mapping (entries : List (Value × Value))
  | again (shape : Shape) (levels : Nat)

namespace Value

instance : Inhabited Value := ⟨.null⟩

/-- What counts as true where a value is asked for its truth: all but the absent value, zero, and
what is empty. -/
def isTruthy : Value → Bool
  | .null => false
  | .bool truth => truth
  | .int whole => whole != 0
  | .float number => number != 0
  | .text content => !content.isEmpty
  | .bytes octets => !octets.isEmpty
  | .list items => !items.isEmpty
  | .set members => !members.isEmpty
  | .mapping entries => !entries.isEmpty
  | .date _ | .moment _ | .pair _ _ | .again _ _ => true

def isNull : Value → Bool
  | .null => true
  | _ => false

/-- A number as it is compared: integers and truth values are whole, and so is a double without a
fraction. Any other double is known by its bits. -/
inductive Quantity where
  | whole (n : Int)
  | fractional (bits : UInt64)
deriving DecidableEq, Repr

/-- The quantity of a number. -/
def quantity? : Value → Option Quantity
  | .bool truth => some (.whole (if truth then 1 else 0))
  | .int n => some (.whole n)
  | .float x =>
    match Decimal.wholeValue? x with
    | some n => some (.whole n)
    | none => some (.fractional x.toBits)
  | _ => none

/-- Whether two scalars are one and the same key: numbers by their quantity, moments by their
instant, and everything else by its kind and content. -/
def sameKey : Value → Value → Bool
  | .null, .null => true
  | .text a, .text b => a == b
  | .bytes a, .bytes b => a == b
  | .date a, .date b => a == b
  | .moment a, .moment b => a.same b
  | a, b =>
    match a.quantity?, b.quantity? with
    | some a, some b => a == b
    | _, _ => false

/-- The value at a key of a list of entries: the first one. -/
def lookup (key : Value) : List (Value × Value) → Option Value
  | [] => none
  | entry :: rest => if entry.1.sameKey key then some entry.2 else lookup key rest

/-- The entries with the value at a key replaced in place, or with a new entry at their end. -/
def write (key value : Value) : List (Value × Value) → List (Value × Value)
  | [] => [(key, value)]
  | entry :: rest =>
    if entry.1.sameKey key then (entry.1, value) :: rest else entry :: write key value rest

/-- The value at a text key of a mapping. -/
def field? (key : String) : Value → Option Value
  | .mapping entries => lookup (.text key) entries
  | _ => none

/-- The mapping with the given text keys. -/
def ofEntries (entries : List (String × Value)) : Value :=
  .mapping (entries.map fun (key, value) => (.text key, value))

end Value

end Interview
