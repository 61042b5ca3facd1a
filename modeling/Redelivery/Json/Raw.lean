import Redelivery.Text.Utf8
/-!
# Raw JSON

A document as written: texts keep their escapes, numbers their digits, objects
every member in order. `Raw.read?` accepts exactly the grammar, to any depth, and
leaves to the readers what a text or a number means, so that a member nobody asks
for is held to the grammar only.

Octets become tokens, and tokens drive a stack of open containers: `State.step`
consumes one token, so reading ends with its input.
-/

namespace Redelivery.Json

set_option autoImplicit false

/-- A number as written. -/
structure Numeral where
  negative : Bool
  whole : List Nat
  fraction : List Nat
  /-- Whether a fraction or an exponent is written. -/
  pointed : Bool
  exponentNegative : Bool
  exponent : List Nat
  deriving DecidableEq

/-- A document as written. -/
inductive Raw where
  | null
  | boolean (value : Bool)
  | number (numeral : Numeral)
  | text (content : Octets)
  | array (items : List Raw)
  | object (members : List (Octets × Raw))

inductive Token where
  | openArray
  | closeArray
  | openObject
  | closeObject
  | comma
  | colon
  | null
  | boolean (value : Bool)
  | number (numeral : Numeral)
  | text (content : Octets)

namespace Token

def isBlank (octet : UInt8) : Bool :=
  octet = 0x20 || octet = 0x09 || octet = 0x0A || octet = 0x0D

def isDigit (octet : UInt8) : Bool := 0x30 ≤ octet && octet ≤ 0x39

def isHexDigit (octet : UInt8) : Bool :=
  isDigit octet || (0x41 ≤ octet && octet ≤ 0x46) || (0x61 ≤ octet && octet ≤ 0x66)

/-- The digits at the head of octets, and what follows them. -/
def digits (octets : Octets) : List Nat × Octets :=
  ((octets.takeWhile isDigit).map fun octet => octet.toNat - 0x30, octets.dropWhile isDigit)

/-- The digits of a whole part: no zero leads another digit. -/
def whole? (octets : Octets) : Option (List Nat × Octets) :=
  match digits octets with
  | ([], _) => none
  | (0 :: _ :: _, _) => none
  | (found, rest) => some (found, rest)

/-- The fraction at the head of octets, with at least one digit after its point. -/
def fraction? : Octets → Option (Option (List Nat) × Octets)
  | 0x2E :: rest =>
      match digits rest with
      | ([], _) => none
      | (found, rest) => some (some found, rest)
  | octets => some (none, octets)

/-- The sign of an exponent. -/
def exponentSign : Octets → Bool × Octets
  | 0x2B :: rest => (false, rest)
  | 0x2D :: rest => (true, rest)
  | octets => (false, octets)

/-- The exponent at the head of octets, with at least one digit. -/
def exponent? : Octets → Option (Option (Bool × List Nat) × Octets)
  | [] => some (none, [])
  | octet :: rest =>
      if octet = 0x65 || octet = 0x45 then
        let (negative, rest) := exponentSign rest
        match digits rest with
        | ([], _) => none
        | (found, rest) => some (some (negative, found), rest)
      else some (none, octet :: rest)

/-- The number after its sign. -/
def number? (negative : Bool) (octets : Octets) : Option (Token × Octets) := do
  let (whole, rest) ← whole? octets
  let (fraction, rest) ← fraction? rest
  let (exponent, rest) ← exponent? rest
  return (.number
    { negative, whole
      fraction := fraction.getD []
      pointed := fraction.isSome || exponent.isSome
      exponentNegative := (exponent.getD (false, [])).1
      exponent := (exponent.getD (false, [])).2 }, rest)

/-- The content of a text after its opening quote: no octet below 0x20, and every
escape complete. -/
def content? : Octets → Option (Octets × Octets)
  | [] => none
  | 0x22 :: rest => some ([], rest)
  | 0x5C :: 0x75 :: a :: b :: c :: d :: rest =>
      if [a, b, c, d].all isHexDigit then
        (content? rest).map fun (found, rest) => (0x5C :: 0x75 :: a :: b :: c :: d :: found, rest)
      else none
  | 0x5C :: escape :: rest =>
      if [0x22, 0x5C, 0x2F, 0x62, 0x66, 0x6E, 0x72, 0x74].contains escape then
        (content? rest).map fun (found, rest) => (0x5C :: escape :: found, rest)
      else none
  | octet :: rest =>
      if octet < 0x20 || octet = 0x5C then none
      else (content? rest).map fun (found, rest) => (octet :: found, rest)

/-- What follows a word, if octets begin with it. -/
def afterWord? (word : String) (octets : Octets) : Option Octets :=
  let expected := Utf8.encode word
  if octets.take expected.length = expected then some (octets.drop expected.length) else none

/-- The token at the head of octets that begin with no blank. -/
def next? : Octets → Option (Token × Octets)
  | [] => none
  | octet :: rest =>
      if octet = 0x5B then some (.openArray, rest)
      else if octet = 0x5D then some (.closeArray, rest)
      else if octet = 0x7B then some (.openObject, rest)
      else if octet = 0x7D then some (.closeObject, rest)
      else if octet = 0x2C then some (.comma, rest)
      else if octet = 0x3A then some (.colon, rest)
      else if octet = 0x22 then (content? rest).map fun (found, rest) => (.text found, rest)
      else if octet = 0x2D then number? true rest
      else if isDigit octet then number? false (octet :: rest)
      else if octet = 0x6E then (afterWord? "ull" rest).map (Token.null, ·)
      else if octet = 0x74 then (afterWord? "rue" rest).map (Token.boolean true, ·)
      else if octet = 0x66 then (afterWord? "alse" rest).map (Token.boolean false, ·)
      else none

/-- The tokens of octets. -/
def all? (octets : Octets) : Option (List Token) :=
  match octets with
  | [] => some []
  | octet :: rest =>
      if isBlank octet then all? rest
      else
        match next? (octet :: rest) with
        | none => none
        | some (token, after) =>
            if after.length < (octet :: rest).length then
              (all? after).map (token :: ·)
            else none
termination_by octets.length
decreasing_by
  · exact Nat.lt_succ_self _
  · assumption

end Token

namespace Raw

/-- A container that is still open; what it holds is kept in reverse. -/
inductive Frame where
  | array (items : List Raw)
  | object (members : List (Octets × Raw)) (key : Octets)

/-- What may come next. -/
inductive Phase where
  | value
  | valueOrClose
  | keyOrClose (members : List (Octets × Raw))
  | key (members : List (Octets × Raw))
  | colon (members : List (Octets × Raw)) (key : Octets)
  /-- A value is complete; a comma or the end of its container follows. -/
  | completed (value : Raw)

/-- A document under way. -/
structure State where
  phase : Phase
  stack : List Frame

namespace State

def initial : State := ⟨.value, []⟩

/-- Begins a value. -/
def begin? (stack : List Frame) : Token → Option State
  | .null => some ⟨.completed .null, stack⟩
  | .boolean value => some ⟨.completed (.boolean value), stack⟩
  | .number numeral => some ⟨.completed (.number numeral), stack⟩
  | .text content => some ⟨.completed (.text content), stack⟩
  | .openArray => some ⟨.valueOrClose, .array [] :: stack⟩
  | .openObject => some ⟨.keyOrClose [], stack⟩
  | _ => none

/-- Goes on after a complete value. -/
def continue? (value : Raw) : List Frame → Token → Option State
  | .array items :: stack, .comma => some ⟨.value, .array (value :: items) :: stack⟩
  | .array items :: stack, .closeArray =>
      some ⟨.completed (.array (value :: items).reverse), stack⟩
  | .object members key :: stack, .comma => some ⟨.key ((key, value) :: members), stack⟩
  | .object members key :: stack, .closeObject =>
      some ⟨.completed (.object ((key, value) :: members).reverse), stack⟩
  | _, _ => none

/-- Consumes one token. -/
def step? (state : State) (token : Token) : Option State :=
  match state.phase, token with
  | .value, token => begin? state.stack token
  | .valueOrClose, .closeArray =>
      match state.stack with
      | .array _ :: stack => some ⟨.completed (.array []), stack⟩
      | _ => none
  | .valueOrClose, token => begin? state.stack token
  | .keyOrClose _, .closeObject => some ⟨.completed (.object []), state.stack⟩
  | .keyOrClose members, .text key => some ⟨.colon members key, state.stack⟩
  | .key members, .text key => some ⟨.colon members key, state.stack⟩
  | .colon members key, .colon => some ⟨.value, .object members key :: state.stack⟩
  | .completed value, token => continue? value state.stack token
  | _, _ => none

/-- The document, once it is complete. -/
def finished? (state : State) : Option Raw :=
  match state.phase, state.stack with
  | .completed value, [] => some value
  | _, _ => none

end State

/-- Reads a whole document. -/
def read? (octets : Octets) : Option Raw := do
  let tokens ← Token.all? octets
  let state ← tokens.foldlM State.step? State.initial
  state.finished?

end Raw

end Redelivery.Json
