import Redelivery.Json.Raw
/-!
# JSON texts

`decode?` reads the content of a quoted text: escapes become characters, a pair of
surrogates one character, and a surrogate on its own is refused, as is content that
is not UTF-8. `quote` writes a text with only the quote, the backslash and the
controls below 0x20 escaped; `asciiOnly` also escapes what is not ASCII.
-/

namespace Redelivery.Json.Text

set_option autoImplicit false

def hexValue (octet : UInt8) : Nat :=
  let o := octet.toNat
  if o ≤ 0x39 then o - 0x30 else if o ≤ 0x46 then o - 0x37 else o - 0x57

/-- The unit of four hexadecimal digits. -/
def unitOf (a b c d : UInt8) : Nat :=
  ((hexValue a * 16 + hexValue b) * 16 + hexValue c) * 16 + hexValue d

def isHigh (unit : Nat) : Bool := 0xD800 ≤ unit && unit < 0xDC00

def isLow (unit : Nat) : Bool := 0xDC00 ≤ unit && unit < 0xE000

/-- The octet that a one-letter escape stands for. -/
def shortEscape (escape : UInt8) : UInt8 :=
  if escape = 0x62 then 0x08 else if escape = 0x66 then 0x0C else if escape = 0x6E then 0x0A
  else if escape = 0x72 then 0x0D else if escape = 0x74 then 0x09 else escape

/-- The content with its escapes replaced. -/
def unescape? : Octets → Option Octets
  | [] => some []
  | 0x5C :: 0x75 :: a :: b :: c :: d :: rest =>
      let unit := unitOf a b c d
      if isHigh unit then
        match rest with
        | 0x5C :: 0x75 :: e :: f :: g :: h :: rest =>
            let low := unitOf e f g h
            if isLow low then
              let code := 0x10000 + (unit - 0xD800) * 0x400 + (low - 0xDC00)
              (unescape? rest).map (String.utf8EncodeChar (Char.ofNat code) ++ ·)
            else none
        | _ => none
      else if isLow unit then none
      else (unescape? rest).map (String.utf8EncodeChar (Char.ofNat unit) ++ ·)
  | 0x5C :: escape :: rest => (unescape? rest).map (shortEscape escape :: ·)
  | octet :: rest => (unescape? rest).map (octet :: ·)

/-- The text of a quoted content. -/
def decode? (content : Octets) : Option String := (unescape? content).bind Utf8.decode?

/-- A lower-case hexadecimal digit. -/
def hexDigit (value : Nat) : Char :=
  Char.ofNat (if value < 10 then 0x30 + value else 0x57 + value)

/-- One character inside quotes. -/
def escape (c : Char) : List Char :=
  if c = Char.ofNat 0x22 then ['\\', c]
  else if c = '\\' then ['\\', '\\']
  else if c.toNat = 0x08 then ['\\', 'b']
  else if c.toNat = 0x09 then ['\\', 't']
  else if c.toNat = 0x0A then ['\\', 'n']
  else if c.toNat = 0x0C then ['\\', 'f']
  else if c.toNat = 0x0D then ['\\', 'r']
  else if c.toNat < 0x20 then
    ['\\', 'u', '0', '0', hexDigit (c.toNat / 16), hexDigit (c.toNat % 16)]
  else [c]

/-- A text in quotes. -/
def quote (text : String) : String :=
  "\"" ++ String.ofList (text.toList.flatMap escape) ++ "\""

/-- A unit as an escape of four digits. -/
def unitEscape (unit : Nat) : List Char :=
  ['\\', 'u', hexDigit (unit / 4096 % 16), hexDigit (unit / 256 % 16), hexDigit (unit / 16 % 16),
    hexDigit (unit % 16)]

/-- A character of a JSON document in ASCII: one beyond it is escaped as its unit, or as
the two surrogates that stand for it. -/
def asciiEscape (c : Char) : List Char :=
  if c.toNat < 0x7F then [c]
  else if c.toNat < 0x10000 then unitEscape c.toNat
  else
    let rest := c.toNat - 0x10000
    unitEscape (0xD800 + rest / 0x400) ++ unitEscape (0xDC00 + rest % 0x400)

/-- A JSON document written in ASCII only. -/
def asciiOnly (document : String) : String :=
  String.ofList (document.toList.flatMap asciiEscape)

end Redelivery.Json.Text
