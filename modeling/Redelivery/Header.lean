import Redelivery.SortedTable
import Redelivery.Text.Utf8
/-!
# Message headers

A header is a value of one of the broker's field types under a name; the headers of
a message are a sorted table. `Header.count?` and `Header.text?` are the two ways
in which this library reads one: as a whole number, and as text.
-/

namespace Redelivery

set_option autoImplicit false

/-- The widths of a whole-number field. -/
inductive IntegerWidth where
  | int8
  | uint8
  | int16
  | uint16
  | int32
  | uint32
  | int64
  deriving DecidableEq

namespace IntegerWidth

def low : IntegerWidth → Int
  | int8 => -(Int.pow 2 7)
  | int16 => -(Int.pow 2 15)
  | int32 => -(Int.pow 2 31)
  | int64 => -(Int.pow 2 63)
  | _ => 0

def high : IntegerWidth → Int
  | int8 => Int.pow 2 7 - 1
  | uint8 => Int.pow 2 8 - 1
  | int16 => Int.pow 2 15 - 1
  | uint16 => Int.pow 2 16 - 1
  | int32 => Int.pow 2 31 - 1
  | uint32 => Int.pow 2 32 - 1
  | int64 => Int.pow 2 63 - 1

/-- Whether a number fits a width. -/
def holds (width : IntegerWidth) (value : Int) : Bool := width.low ≤ value && value ≤ width.high

end IntegerWidth

/-- The value of a header. -/
inductive Header where
  | boolean (value : Bool)
  | integer (width : IntegerWidth) (value : Int)
  | float32 (bits : UInt32)
  | float64 (bits : UInt64)
  | decimal (scale : Nat) (value : Nat)
  | shortText (value : String)
  | longText (octets : Octets)
  | array (items : List Header)
  | timestamp (seconds : Nat)
  | table (entries : List (String × Header))
  | blob (content : Octets)
  | void

/-- The headers of a message. -/
abbrev Headers := SortedTable Header

namespace Header

/-- A long text. -/
def ofText (text : String) : Header := longText (Utf8.encode text)

/-- A signed 64-bit number. -/
def ofInt (value : Int) : Header := integer .int64 value

/-- The whole number that a header holds: any integer field, or a timestamp that fits
a signed 64-bit number. -/
def count? : Header → Option Int
  | integer _ value => some value
  | timestamp seconds => if seconds < Nat.pow 2 63 then some seconds else none
  | _ => none

/-- The text that a header holds: a short text, or a long one that is UTF-8. -/
def text? : Header → Option String
  | shortText value => some value
  | longText octets => Utf8.decode? octets
  | _ => none

/-- The name that a header holds: a text in which ill-formed octets read as U+FFFD. -/
def name? : Header → Option String
  | shortText value => some value
  | longText octets => some (Utf8.decodeLossy octets)
  | _ => none

end Header

end Redelivery
