import Redelivery.Text.Printable
/-!
# Quoted text

A text in quotes as it stands in a message for a reader: the quote and the backslash
are escaped, and so is every character that would not show.
-/

namespace Redelivery.Text

set_option autoImplicit false

/-- The lower-case hexadecimal digits of a number. -/
def hexText (value : Nat) : List Char := Nat.toDigits 16 value

/-- One character inside quotes. -/
def debugEscape (c : Char) : List Char :=
  if c.toNat = 0x22 then ['\\', c]
  else if c = '\\' then ['\\', '\\']
  else if c.toNat = 0 then ['\\', '0']
  else if c.toNat = 0x09 then ['\\', 't']
  else if c.toNat = 0x0A then ['\\', 'n']
  else if c.toNat = 0x0D then ['\\', 'r']
  else if isPrintable c then [c]
  else ['\\', 'u', Char.ofNat 0x7B] ++ hexText c.toNat ++ [Char.ofNat 0x7D]

/-- A text in quotes. -/
def debugQuoted (text : String) : String :=
  "\"" ++ String.ofList (text.toList.flatMap debugEscape) ++ "\""

end Redelivery.Text
