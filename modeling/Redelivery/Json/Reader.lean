import Redelivery.Json.Value
/-!
# Typed reading of JSON

A `Reader` turns a document into a value of one type and refuses every other
shape: it converts nothing. A record is read from an object, whose unknown members
are ignored and whose known ones stand at most once, or from an array of its
members in order; `slots?` brings both to one form in which `required`,
`defaulted` and `optional` members are then looked up.
-/

namespace Redelivery.Json

set_option autoImplicit false

/-- Reads a document whose containers may nest a given number deep. -/
abbrev Reader (α : Type) := Nat → Raw → Option α

namespace Reader

variable {α : Type}

def any : Reader Value := Value.ofRaw?

def unit : Reader Unit
  | _, .null => some ()
  | _, _ => none

def boolean : Reader Bool
  | _, .boolean value => some value
  | _, _ => none

def text : Reader String
  | _, .text content => Text.decode? content
  | _, _ => none

/-- An integer within bounds, written without point and exponent. -/
def integer (low high : Int) : Reader Int
  | _, .number numeral =>
      match numeral.toInt? with
      | some value => if low ≤ value ∧ value ≤ high then some value else none
      | none => none
  | _, _ => none

def int64 : Reader Int := integer (-(Int.pow 2 63)) (Int.pow 2 63 - 1)

/-- A natural number of a given width in bits. -/
def natural (bits : Nat) : Reader Nat := fun depth raw =>
  (integer 0 (Int.pow 2 bits - 1) depth raw).map Int.toNat

def list (item : Reader α) : Reader (List α)
  | depth + 1, .array items => items.mapM (item depth)
  | _, _ => none

/-- Null, or what the reader reads. -/
def nullable (reader : Reader α) : Reader (Option α)
  | _, .null => some none
  | depth, raw => (reader depth raw).map some

/-- One of a list of names, alone or as the one member of an object, then with null. -/
def choice (names : List (String × α)) : Reader α
  | _, .text content => (Text.decode? content).bind fun name => SortedTable.find? name names
  | _ + 1, .object [(name, .null)] =>
      (Text.decode? name).bind fun name => SortedTable.find? name names
  | _, _ => none

/-- What a document holds for one member of a record. -/
inductive Slot where
  | given (raw : Raw)
  /-- An object without the member. -/
  | unnamed
  /-- An array too short for the member. -/
  | beyond

/-- The members of a record by name, and how deep each may nest. -/
structure Slots where
  depth : Nat
  entries : List (String × Slot)

/-- Files the members of an object under the names that are known. -/
def file? (names : List String) :
    List (Octets × Raw) → List (String × Raw) → Option (List (String × Raw))
  | [], found => some found
  | (name, raw) :: rest, found => do
      let name ← Text.decode? name
      if names.contains name then
        if found.any (·.1 = name) then none else file? names rest ((name, raw) :: found)
      else file? names rest found

/-- The slots of a record with these member names. -/
def slots? (names : List String) : Reader Slots
  | depth + 1, .object members => do
      let found ← file? names members []
      return ⟨depth, names.map fun name =>
        (name, ((SortedTable.find? name found).map Slot.given).getD .unnamed)⟩
  | depth + 1, .array items =>
      if items.length ≤ names.length then
        some ⟨depth, names.zip (items.map Slot.given
          ++ List.replicate (names.length - items.length) .beyond)⟩
      else none
  | _, _ => none

namespace Slots

/-- A member that must be given. -/
def required (slots : Slots) (name : String) (reader : Reader α) : Option α :=
  match SortedTable.find? name slots.entries with
  | some (.given raw) => reader slots.depth raw
  | _ => none

/-- A member that has a value of its own when it is not given. -/
def defaulted (slots : Slots) (name : String) (reader : Reader α) (value : α) : Option α :=
  match SortedTable.find? name slots.entries with
  | some (.given raw) => reader slots.depth raw
  | _ => some value

/-- A member that may be null, and missing from an object but not from an array. -/
def optional (slots : Slots) (name : String) (reader : Reader α) : Option (Option α) :=
  match SortedTable.find? name slots.entries with
  | some (.given raw) => nullable reader slots.depth raw
  | some .unnamed => some none
  | _ => none

end Slots

end Reader

/-- Reads a whole document. -/
def Reader.read? {α : Type} (reader : Reader α) (octets : Octets) : Option α :=
  (Raw.read? octets).bind (reader depthLimit)

end Redelivery.Json
