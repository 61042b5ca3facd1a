import Redelivery.Text.Letters
/-!
# Lower case

The full lower-case form of a text. Each letter maps on its own, with two
exceptions: capital I with a dot becomes two characters, and a capital sigma that
ends a word becomes the final sigma. A sigma ends a word when a cased letter stands
before it and none after it, ignorable characters between being passed over.
-/

namespace Redelivery.Letters

set_option autoImplicit false

def inRanges (ranges : List (Nat × Nat)) (c : Char) : Bool :=
  ranges.any fun range => range.1 ≤ c.toNat && c.toNat ≤ range.2

def isCased (c : Char) : Bool := inRanges casedRanges c

def isIgnorable (c : Char) : Bool := inRanges ignorableRanges c

/-- Whether the first character that is not ignorable has a case. -/
def meetsCased (characters : List Char) : Bool :=
  match characters.dropWhile isIgnorable with
  | [] => false
  | c :: _ => isCased c

/-- Whether a case mapping lies in a range. -/
def CaseRange.covers (range : CaseRange) (code : Nat) : Bool :=
  range.first ≤ code && code ≤ range.last && (code - range.first) % range.stride = 0

/-- The lower-case letter of a character. -/
def lower (c : Char) : Char :=
  if c.toNat < 0x80 then c.toLower
  else
    match lowerRanges.find? (·.covers c.toNat) with
    | some range => Char.ofNat ((c.toNat : Int) + range.offset).toNat
    | none => c

/-- The lower-case form of a character between what stands before it, nearest
first, and what stands after it. -/
def lowerBetween (before : List Char) (c : Char) (after : List Char) : List Char :=
  if c.toNat = 0x130 then ['i', Char.ofNat 0x307]
  else if c.toNat = 0x3A3 then
    [if meetsCased before && !meetsCased after then Char.ofNat 0x3C2 else Char.ofNat 0x3C3]
  else [lower c]

/-- Lowers characters, given those before them, nearest first. -/
def lowerFrom (before : List Char) : List Char → List Char
  | [] => []
  | c :: rest => lowerBetween before c rest ++ lowerFrom (c :: before) rest

/-- The lower-case form of a text. -/
def lowercase (text : String) : String := String.ofList (lowerFrom [] text.toList)

end Redelivery.Letters
