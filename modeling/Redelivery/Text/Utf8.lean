/-!
# UTF-8

Octets and their text. `encode` writes a text; `scan` reads octets as a list of
characters in which every maximal ill-formed run is one gap, so that reading
strictly (`decode?`) refuses any gap and reading leniently (`decodeLossy`) writes
U+FFFD for each.
-/

namespace Redelivery

set_option autoImplicit false

/-- Raw octets: a message body, or a header that need not be text. -/
abbrev Octets := List UInt8

namespace Utf8

/-- The octets of a text. -/
def encode (text : String) : Octets := text.toList.flatMap String.utf8EncodeChar

/-- A character under way: the bits read so far, the octets still owed, and the
bounds of the next one, which the lead octet narrows once to keep out overlong
forms, surrogates and values past U+10FFFF. -/
structure Pending where
  bits : Nat
  owed : Nat
  low : Nat
  high : Nat
  deriving DecidableEq

/-- What one octet outside any character begins. -/
inductive Opening where
  | character (c : Char)
  | pending (p : Pending)
  | illFormed

/-- Reads a lead octet. -/
def opening (octet : UInt8) : Opening :=
  let o := octet.toNat
  if o < 0x80 then .character (Char.ofNat o)
  else if o < 0xC2 then .illFormed
  else if o < 0xE0 then .pending ⟨o - 0xC0, 1, 0x80, 0xBF⟩
  else if o = 0xE0 then .pending ⟨0, 2, 0xA0, 0xBF⟩
  else if o = 0xED then .pending ⟨0xD, 2, 0x80, 0x9F⟩
  else if o < 0xF0 then .pending ⟨o - 0xE0, 2, 0x80, 0xBF⟩
  else if o = 0xF0 then .pending ⟨0, 3, 0x90, 0xBF⟩
  else if o < 0xF4 then .pending ⟨o - 0xF0, 3, 0x80, 0xBF⟩
  else if o = 0xF4 then .pending ⟨4, 3, 0x80, 0x8F⟩
  else .illFormed

/-- Reads a lead octet into what it completes and what it leaves under way. -/
def start (octet : UInt8) : List (Option Char) × Option Pending :=
  match opening octet with
  | .character c => ([some c], none)
  | .pending p => ([], some p)
  | .illFormed => ([none], none)

/-- Reads one octet. One that cannot continue the character under way ends it as
a gap and is then read as a lead octet of its own. -/
def advance (state : Option Pending) (octet : UInt8) : List (Option Char) × Option Pending :=
  match state with
  | none => start octet
  | some p =>
      let o := octet.toNat
      if p.low ≤ o ∧ o ≤ p.high then
        let bits := p.bits * 64 + (o - 0x80)
        if p.owed ≤ 1 then ([some (Char.ofNat bits)], none)
        else ([], some ⟨bits, p.owed - 1, 0x80, 0xBF⟩)
      else
        let (characters, next) := start octet
        (none :: characters, next)

/-- The characters of octets, read from a state; `none` is a gap. -/
def scanFrom : Option Pending → Octets → List (Option Char)
  | none, [] => []
  | some _, [] => [none]
  | state, octet :: rest =>
      let (characters, next) := advance state octet
      characters ++ scanFrom next rest

/-- The characters of octets; `none` is a maximal ill-formed run. -/
def scan (octets : Octets) : List (Option Char) := scanFrom none octets

/-- The text of octets that are well-formed throughout. -/
def decode? (octets : Octets) : Option String :=
  ((scan octets).mapM id).map String.ofList

/-- The text of any octets, with U+FFFD in the place of each gap. -/
def decodeLossy (octets : Octets) : String :=
  String.ofList ((scan octets).map (·.getD (Char.ofNat 0xFFFD)))

end Utf8

end Redelivery
