import Redelivery.Number.Shortest
import Redelivery.SortedTable
import Redelivery.Text.Lowercase
import Redelivery.Text.Quoted
/-!
# Configuration documents

A configuration document is a tree of nodes. A node that is asked for a value of
another type is converted where that makes sense: words stand for truth values,
digits for numbers, and any scalar for its text. What cannot be converted is a
`Fault`, which collects the path to the node on its way to the root.
-/

namespace Redelivery.Settings

set_option autoImplicit false

/-- A configuration document. -/
inductive Node where
  | absent
  | boolean (value : Bool)
  | integer (value : Int)
  | real (value : Binary64)
  /-- A text, and whether an environment variable set it. -/
  | text (value : String) (fromEnvironment : Bool)
  | list (items : List Node)
  | group (entries : List (String × Node))

/-- Why a document is refused. -/
inductive Fault where
  | missing (path : String)
  /-- The node is of another type; an environment variable may have set it. -/
  | mismatch (found expected : String) (path : Option String) (fromEnvironment : Bool)
  /-- The node has the right type but not the right content. -/
  | refused (reason : String) (path : Option String)
  deriving DecidableEq

namespace Fault

/-- A path with a segment put before it; a point comes between two names. -/
def joined (segment : String) (point : Bool) (path : String) : String :=
  match path.toList with
  | [] => segment
  | first :: _ => if point && first ≠ '[' then segment ++ "." ++ path else segment ++ path

/-- The fault seen from the node above it. -/
def under (segment : String) (point : Bool) : Fault → Fault
  | missing path => missing (joined segment point path)
  | mismatch found expected path fromEnvironment =>
      mismatch found expected (some (joined segment point (path.getD ""))) fromEnvironment
  | refused reason path => refused reason (some (joined segment point (path.getD "")))

/-- The fault of a named entry. -/
def underName (name : String) (fault : Fault) : Fault := fault.under name true

/-- The fault of a numbered item. -/
def underIndex (index : Nat) (fault : Fault) : Fault :=
  fault.under ("[" ++ toString index ++ "]") false

/-- Where a fault was met. -/
def place : Option String → String
  | some path => " for key `" ++ path ++ "`"
  | none => ""

/-- The wording of a fault. -/
def message : Fault → String
  | missing path => "missing configuration field " ++ Text.debugQuoted path
  | mismatch found expected path fromEnvironment =>
      "invalid type: " ++ found ++ ", expected " ++ expected ++ place path
        ++ (if fromEnvironment then " in the environment" else "")
  | refused reason path => reason ++ place path

end Fault

namespace Node

/-- Whether an environment variable set a node. -/
def fromEnvironment : Node → Bool
  | text _ fromEnvironment => fromEnvironment
  | _ => false

/-- A text as it is named in a fault. -/
def foundText (value : String) : String := "string " ++ Text.debugQuoted value

/-- What a node is called when a scalar is expected in its place. -/
def found : Node → String
  | absent => "unit value"
  | boolean value => "boolean `" ++ (if value then "true" else "false") ++ "`"
  | integer value => "integer `" ++ toString value ++ "`"
  | real value => "floating point `" ++ value.plainPointed ++ "`"
  | text value _ => foundText value
  | list _ => "sequence"
  | group _ => "map"

def mismatch (node : Node) (found expected : String) : Fault :=
  .mismatch found expected none node.fromEnvironment

/-- The words that stand for true and for false. -/
def affirmations : List String := ["true", "on", "yes"]

def negations : List String := ["false", "off", "no"]

/-- A truth value: a number is true unless it is zero. -/
def toBool? (node : Node) : Except Fault Bool :=
  match node with
  | boolean value => .ok value
  | integer value => .ok (value ≠ 0)
  | real value => .ok (!value.isZero)
  | text value _ =>
      let lowered := Letters.lowercase value
      if lowered = "1" ∨ lowered ∈ affirmations then .ok true
      else if lowered = "0" ∨ lowered ∈ negations then .ok false
      else .error (mismatch node (foundText lowered) "a boolean")
  | _ => .error (mismatch node node.found "a boolean")

/-- The number of a run of decimal digits. -/
def digitsValue? (digits : List Char) : Option Nat :=
  if digits.isEmpty || !digits.all Char.isDigit then none
  else some (digits.foldl (fun value c => value * 10 + (c.toNat - 0x30)) 0)

/-- A whole number in decimal digits with an optional sign. -/
def wholeText? (signed : Bool) (text : String) : Option Int :=
  match text.toList with
  | '+' :: digits => (digitsValue? digits).map fun value => (value : Int)
  | '-' :: digits => if signed then (digitsValue? digits).map fun value => -(value : Int) else none
  | digits => (digitsValue? digits).map fun value => (value : Int)

/-- A whole number within bounds, of a node that is no integer. -/
def toWhole? (signed : Bool) (low high : Int) (node : Node) : Except Fault Int :=
  match node with
  | boolean value => .ok (if value then 1 else 0)
  | real value => .ok (value.roundWithin low high)
  | text value _ =>
      let lowered := Letters.lowercase value
      if lowered ∈ affirmations then .ok 1
      else if lowered ∈ negations then .ok 0
      else
        match wholeText? signed value with
        | some number =>
            if low ≤ number ∧ number ≤ high then .ok number
            else .error (mismatch node node.found "an integer")
        | none => .error (mismatch node node.found "an integer")
  | _ => .error (mismatch node node.found "an integer")

/-- A signed 64-bit number. -/
def toInt64? (node : Node) : Except Fault Int :=
  match node with
  | integer value => .ok value
  | _ => toWhole? true (-(Int.pow 2 63)) (Int.pow 2 63 - 1) node

/-- A natural 64-bit number. -/
def toNat64? (node : Node) : Except Fault Nat :=
  match node with
  | integer value =>
      if 0 ≤ value then .ok value.toNat
      else .error (mismatch node ("64-bit integer `" ++ toString value ++ "`")
        "an unsigned 64 bit or less integer")
  | _ => (toWhole? false 0 (Int.pow 2 64 - 1) node).map Int.toNat

/-- A natural 16-bit number. -/
def toNat16? (node : Node) : Except Fault Nat := do
  let value ← node.toNat64?
  if value < Nat.pow 2 16 then .ok value
  else .error (.mismatch ("64-bit unsigned integer `" ++ toString value ++ "`")
    "an unsigned 16 bit integer" none false)

/-- The text of a scalar. -/
def toText? (node : Node) : Except Fault String :=
  match node with
  | boolean value => .ok (if value then "true" else "false")
  | integer value => .ok (toString value)
  | real value => .ok value.plain
  | text value _ => .ok value
  | _ => .error (mismatch node node.found "a string")

end Node

end Redelivery.Settings
