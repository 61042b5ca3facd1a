import Redelivery.Json.Numeral
import Redelivery.Json.Text
import Redelivery.Number.Shortest
import Redelivery.SortedTable
/-!
# JSON values

A `Value` is what a document means: texts decoded, numbers evaluated, members of an
object sorted by name with the last of a repeated name kept. `Value.ofRaw?` reads
one from a document, no deeper than a given number of containers, and
`Value.compact` writes one without blanks.
-/

namespace Redelivery.Json

set_option autoImplicit false

/-- What a document means. -/
inductive Value where
  | null
  | boolean (value : Bool)
  | integer (value : Int)
  | real (value : Binary64)
  | text (value : String)
  | array (items : List Value)
  | object (members : List (String × Value))

namespace Value

/-- What a number means. -/
def ofNumeral? (numeral : Numeral) : Option Value :=
  match numeral.toInt? with
  | some value => some (integer value)
  | none => numeral.toBinary64?.map real

mutual

/-- Reads a document whose containers nest at most `depth` deep. -/
def ofRaw? (depth : Nat) : Raw → Option Value
  | .null => some null
  | .boolean value => some (boolean value)
  | .number numeral => ofNumeral? numeral
  | .text content => (Text.decode? content).map text
  | .array items =>
      match depth with
      | 0 => none
      | depth + 1 => (itemsOfRaw? depth items).map array
  | .object members =>
      match depth with
      | 0 => none
      | depth + 1 => (membersOfRaw? depth members).map fun found =>
          object (SortedTable.ofPairs found)

def itemsOfRaw? (depth : Nat) : List Raw → Option (List Value)
  | [] => some []
  | item :: rest => do
      let value ← ofRaw? depth item
      let values ← itemsOfRaw? depth rest
      return value :: values

def membersOfRaw? (depth : Nat) : List (Octets × Raw) → Option (List (String × Value))
  | [] => some []
  | (name, member) :: rest => do
      let name ← Text.decode? name
      let value ← ofRaw? depth member
      let values ← membersOfRaw? depth rest
      return (name, value) :: values

end

mutual

/-- The text of a value, without blanks. A number that is not finite is written as `null`. -/
def compact : Value → String
  | null => "null"
  | boolean value => if value then "true" else "false"
  | integer value => toString value
  | real value => value.scientific?.getD "null"
  | text value => Text.quote value
  | array items => "[" ++ ",".intercalate (compactItems items) ++ "]"
  | object members => "\x7b" ++ ",".intercalate (compactMembers members) ++ "\x7d"

def compactItems : List Value → List String
  | [] => []
  | item :: rest => compact item :: compactItems rest

def compactMembers : List (String × Value) → List String
  | [] => []
  | (name, value) :: rest => (Text.quote name ++ ":" ++ compact value) :: compactMembers rest

end

/-- The value under a name. -/
def member? (name : String) : Value → Option Value
  | object members => SortedTable.find? name members
  | _ => none

end Value

/-- How deep the containers of a document may nest where its meaning is read. -/
def depthLimit : Nat := 127

/-- Reads the meaning of a whole document. -/
def Value.read? (octets : Octets) : Option Value :=
  (Raw.read? octets).bind (Value.ofRaw? depthLimit)

end Redelivery.Json
