import Redelivery.Header
import Redelivery.Json.Value
/-!
# Headers in transcripts

The JSON form in which octets and headers are written down and read back. Octets are a
text where they are UTF-8 and hexadecimal digits elsewhere; a header is an object with
one member, named for the type of the header. Floats are given by their bits.
-/

namespace Redelivery.Transcript

set_option autoImplicit false

open Json (Value)

def ofNat (value : Nat) : Value := .integer value

/-- A value that may be missing, which is null. -/
def optional {α : Type} (form : α → Value) : Option α → Value
  | some value => form value
  | none => .null

/-- At least `width` hexadecimal digits. -/
def hexadecimal (width value : Nat) : String :=
  let digits := Nat.toDigits 16 value
  String.ofList (List.replicate (width - digits.length) '0' ++ digits)

/-- The number that hexadecimal digits stand for. -/
def hexadecimal? (text : List Char) : Option Nat :=
  text.foldlM (fun value c =>
    if c.isDigit then some (value * 16 + (c.toNat - 48))
    else if 'a' ≤ c ∧ c ≤ 'f' then some (value * 16 + (c.toNat - 87))
    else if 'A' ≤ c ∧ c ≤ 'F' then some (value * 16 + (c.toNat - 55))
    else none) 0

def ofOctets (octets : Octets) : Value :=
  match Utf8.decode? octets with
  | some text => .text text
  | none =>
      .object [("hex", .text (String.join (octets.map fun octet => hexadecimal 2 octet.toNat)))]

/-- Octets of which each stands as two hexadecimal digits. -/
def hexOctets? : List Char → Option Octets
  | [] => some []
  | high :: low :: rest => do
      let value ← hexadecimal? [high, low]
      return UInt8.ofNat value :: (← hexOctets? rest)
  | _ => none

/-- Octets, which may also be given as a text and how often it is repeated. -/
def octets? : Value → Option Octets
  | .null => some []
  | .text text => some (Utf8.encode text)
  | .object [("hex", .text digits)] => hexOctets? digits.toList
  | value =>
      match value.member? "repeat", value.member? "times" with
      | some (.text text), some (.integer times) =>
          if 0 ≤ times then some (List.replicate times.toNat (Utf8.encode text)).flatten else none
      | _, _ => none

def widthWord : IntegerWidth → String
  | .int8 => "i8"
  | .uint8 => "u8"
  | .int16 => "i16"
  | .uint16 => "u16"
  | .int32 => "i32"
  | .uint32 => "u32"
  | .int64 => "i64"

def widths : List (String × IntegerWidth) :=
  [IntegerWidth.int8, .uint8, .int16, .uint16, .int32, .uint32, .int64].map fun width =>
    (widthWord width, width)

mutual

def ofHeader : Header → Value
  | .boolean value => .object [("bool", .boolean value)]
  | .integer width value => .object [(widthWord width, .integer value)]
  | .float32 bits => .object [("f32", .text (hexadecimal 8 bits.toNat))]
  | .float64 bits => .object [("f64", .text (hexadecimal 16 bits.toNat))]
  | .decimal scale value => .object [("decimal", .array [ofNat scale, ofNat value])]
  | .shortText value => .object [("short", .text value)]
  | .longText octets => .object [("long", ofOctets octets)]
  | .array items => .object [("array", .array (ofItems items))]
  | .timestamp seconds => .object [("ts", ofNat seconds)]
  | .table entries => .object [("table", .object (ofEntries entries))]
  | .blob octets => .object [("bytes", ofOctets octets)]
  | .void => .object [("void", .null)]

def ofItems : List Header → List Value
  | [] => []
  | header :: rest => ofHeader header :: ofItems rest

def ofEntries : List (String × Header) → List (String × Value)
  | [] => []
  | (name, header) :: rest => (name, ofHeader header) :: ofEntries rest

end

def ofHeaders (headers : Headers) : Value := .object (ofEntries headers)

/-- A header that holds no other: the name of its type, and its content. -/
def plainHeader? : String → Value → Option Header
  | "bool", .boolean value => some (.boolean value)
  | "f32", .text bits => (hexadecimal? bits.toList).map fun value => .float32 (UInt32.ofNat value)
  | "f64", .text bits => (hexadecimal? bits.toList).map fun value => .float64 (UInt64.ofNat value)
  | "decimal", .array [.integer scale, .integer value] =>
      if 0 ≤ scale ∧ scale < 256 ∧ 0 ≤ value ∧ value < Int.pow 2 32 then
        some (.decimal scale.toNat value.toNat)
      else none
  | "short", .text value => some (.shortText value)
  | "long", content => (octets? content).map .longText
  | "ts", .integer value =>
      if 0 ≤ value ∧ value < Int.pow 2 64 then some (.timestamp value.toNat) else none
  | "bytes", content => (octets? content).map .blob
  | "void", .null => some .void
  | word, .integer value =>
      (widths.lookup word).bind fun width =>
        if width.holds value then some (.integer width value) else none
  | _, _ => none

mutual

def header? : Value → Option Header
  | .object [("array", .array items)] => (items? items).map .array
  | .object [("table", .object entries)] => (entries? entries).map .table
  | .object [(word, content)] => plainHeader? word content
  | _ => none

def items? : List Value → Option (List Header)
  | [] => some []
  | item :: rest => do return (← header? item) :: (← items? rest)

def entries? : List (String × Value) → Option (List (String × Header))
  | [] => some []
  | (name, value) :: rest => do return (name, ← header? value) :: (← entries? rest)

end

/-- Headers; null stands for none. -/
def headers? : Value → Option Headers
  | .null => some []
  | .object entries => entries? entries
  | _ => none

end Redelivery.Transcript
