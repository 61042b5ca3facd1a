import Redelivery.Settings.Node
/-!
# TOML scalars

The values of one line or one text: texts in either kind of quotes, on one line or
several, and the bare words that are truth values, numbers or moments. Every function
reads at the head of its input and returns what follows.
-/

namespace Redelivery.Toml

set_option autoImplicit false

open Redelivery.Settings (Node)

/-- The double quote, which opens texts with escapes. -/
def quote : Char := Char.ofNat 0x22

/-- The single quote, which opens texts without escapes. -/
def apostrophe : Char := Char.ofNat 0x27

/-- Whether a character may stand in a text or a comment on one line. -/
def isLineCharacter (c : Char) : Bool :=
  c.toNat = 0x09 || (0x20 ≤ c.toNat && c.toNat ≠ 0x7F)

/-- The character of an escape with a fixed number of hexadecimal digits. -/
def codeEscape? (count : Nat) (input : List Char) : Option (Char × List Char) :=
  let digits := input.take count
  if digits.length = count && digits.all (fun c => c.isDigit || ('a' ≤ c.toLower && c.toLower ≤ 'f'))
  then
    let code := digits.foldl (fun value c =>
      value * 16 + (if c.isDigit then c.toNat - 0x30 else c.toLower.toNat - 0x57)) 0
    if code.isValidChar then some (Char.ofNat code, input.drop count) else none
  else none

/-- The character of an escape after its backslash. -/
def escape? : List Char → Option (Char × List Char)
  | 'b' :: rest => some (Char.ofNat 0x08, rest)
  | 't' :: rest => some (Char.ofNat 0x09, rest)
  | 'n' :: rest => some (Char.ofNat 0x0A, rest)
  | 'f' :: rest => some (Char.ofNat 0x0C, rest)
  | 'r' :: rest => some (Char.ofNat 0x0D, rest)
  | 'u' :: rest => codeEscape? 4 rest
  | 'U' :: rest => codeEscape? 8 rest
  | c :: rest => if c = quote || c = '\\' then some (c, rest) else none
  | [] => none

/-- The rest of a text with escapes on one line. -/
def basic? : Nat → List Char → Option (List Char × List Char)
  | 0, _ => none
  | _ + 1, [] => none
  | fuel + 1, c :: rest =>
      if c = quote then some ([], rest)
      else if c = '\\' then do
        let (c, rest) ← escape? rest
        let (found, rest) ← basic? fuel rest
        return (c :: found, rest)
      else if isLineCharacter c then do
        let (found, rest) ← basic? fuel rest
        return (c :: found, rest)
      else none

/-- The rest of a text without escapes on one line. -/
def literal? : List Char → Option (List Char × List Char)
  | [] => none
  | c :: rest =>
      if c = apostrophe then some ([], rest)
      else if isLineCharacter c then (literal? rest).map fun (found, rest) => (c :: found, rest)
      else none

/-- What follows a line break. -/
def afterBreak? : List Char → Option (List Char)
  | '\n' :: rest => some rest
  | '\r' :: '\n' :: rest => some rest
  | _ => none

/-- What follows blanks and line breaks, of which there is at least one. -/
def afterFold? (input : List Char) : Option (List Char) :=
  let blank (c : Char) : Bool := c = ' ' || c = '\t'
  match afterBreak? (input.dropWhile blank) with
  | some rest => some (rest.dropWhile fun c => blank c || c = '\n' || c = '\r')
  | none => none

/-- The number of a given character at the head, no more than five. -/
def leading (c : Char) (input : List Char) : Nat := ((input.take 5).takeWhile (· = c)).length

/-- The rest of a text on several lines. -/
def multiline? (mark : Char) (escapes : Bool) : Nat → List Char → Option (List Char × List Char)
  | 0, _ => none
  | _ + 1, [] => none
  | fuel + 1, c :: rest =>
      let marks := leading mark (c :: rest)
      if 3 ≤ marks then some (List.replicate (marks - 3) mark, (c :: rest).drop marks)
      else if escapes && c = '\\' then
        match afterFold? rest with
        | some rest => multiline? mark escapes fuel rest
        | none => do
            let (c, rest) ← escape? rest
            let (found, rest) ← multiline? mark escapes fuel rest
            return (c :: found, rest)
      else
        match afterBreak? (c :: rest) with
        | some rest =>
            (multiline? mark escapes fuel rest).map fun (found, rest) => ('\n' :: found, rest)
        | none =>
            if isLineCharacter c then
              (multiline? mark escapes fuel rest).map fun (found, rest) => (c :: found, rest)
            else none

/-- The text that opens at the head, if one does. -/
def text? (input : List Char) : Option (List Char × List Char) :=
  match input with
  | [] => none
  | c :: rest =>
      if c = quote || c = apostrophe then
        if leading c input = 2 || leading c input < 2 then
          if c = quote then basic? (rest.length + 1) rest else literal? rest
        else
          let content := input.drop 3
          multiline? c (c = quote) (content.length + 1) ((afterBreak? content).getD content)
      else none

/-- Digits between which single underscores may stand, without them. -/
def digitRun? (isDigit : Char → Bool) (input : List Char) : Option (List Char) :=
  let separated : List (List Char) := input.foldr (fun c pieces =>
    match pieces with
    | [] => [[c]]
    | piece :: rest => if c = '_' then [] :: piece :: rest else (c :: piece) :: rest) [[]]
  if separated.all fun piece => !piece.isEmpty && piece.all isDigit then some separated.flatten
  else none

/-- The number of digits in a base. -/
def inBase (base : Nat) (digits : List Char) : Nat :=
  digits.foldl (fun value c =>
    value * base + (if c.isDigit then c.toNat - 0x30 else c.toLower.toNat - 0x57)) 0

/-- A signed 64-bit integer. -/
def bounded? (value : Int) : Option Node :=
  if -(Int.pow 2 63) ≤ value ∧ value < Int.pow 2 63 then some (.integer value) else none

/-- A whole part without a leading zero. -/
def wholeDigits? (input : List Char) : Option (List Char) := do
  let digits ← digitRun? Char.isDigit input
  match digits with
  | '0' :: _ :: _ => none
  | _ => some digits

/-- A number in decimal notation after its sign. -/
def decimal? (negative : Bool) (input : List Char) : Option Node := do
  let isMark (c : Char) : Bool := c = '.' || c = 'e' || c = 'E'
  let whole ← wholeDigits? (input.takeWhile fun c => !isMark c)
  let rest := input.dropWhile fun c => !isMark c
  if rest.isEmpty then
    let value : Int := inBase 10 whole
    bounded? (if negative then -value else value)
  else
    let (fraction, rest) ← (match rest with
      | '.' :: rest => do
          let digits ← digitRun? Char.isDigit (rest.takeWhile fun c => !isMark c)
          return (digits, rest.dropWhile fun c => !isMark c)
      | rest => some ([], rest) : Option (List Char × List Char))
    let exponent ← (match rest with
      | [] => some 0
      | c :: rest =>
          if c = '.' then none
          else match rest with
            | '-' :: digits => (digitRun? Char.isDigit digits).map fun d => -(inBase 10 d : Int)
            | '+' :: digits => (digitRun? Char.isDigit digits).map fun d => (inBase 10 d : Int)
            | digits => (digitRun? Char.isDigit digits).map fun d => (inBase 10 d : Int)
      : Option Int)
    let magnitude :=
      Binary64.nearestDecimal (inBase 10 (whole ++ fraction)) (exponent - fraction.length)
    if magnitude < Binary64.infinite then some (.real ⟨negative, magnitude⟩) else none

/-- A number after its sign, if it has one. -/
def number? (negative : Bool) (input : List Char) : Option Node :=
  match input with
  | ['i', 'n', 'f'] => some (.real ⟨negative, Binary64.infinite⟩)
  | ['n', 'a', 'n'] => some (.real ⟨negative, Binary64.infinite + Nat.pow 2 51⟩)
  | _ => decimal? negative input

/-- Whether a word begins like a date or a time of day. -/
def isMoment (word : List Char) : Bool :=
  let digits := (word.takeWhile Char.isDigit).length
  (digits = 4 && (word.drop 4).head? = some '-') || (digits = 2 && (word.drop 2).head? = some ':')

/-- The written form of a moment. -/
def momentText (word : List Char) : String :=
  String.ofList (word.map fun c => if c = ' ' || c = 't' then 'T' else if c = 'z' then 'Z' else c)

/-- The value of a bare word. -/
def word? (word : List Char) : Option Node :=
  if isMoment word then some (.text (momentText word) false)
  else
    match word with
    | ['t', 'r', 'u', 'e'] => some (.boolean true)
    | ['f', 'a', 'l', 's', 'e'] => some (.boolean false)
    | '0' :: 'x' :: digits => do
        let isHex (c : Char) : Bool := c.isDigit || ('a' ≤ c.toLower && c.toLower ≤ 'f')
        bounded? (inBase 16 (← digitRun? isHex digits))
    | '0' :: 'o' :: digits => do bounded? (inBase 8 (← digitRun? (fun c => '0' ≤ c && c ≤ '7') digits))
    | '0' :: 'b' :: digits => do bounded? (inBase 2 (← digitRun? (fun c => c = '0' || c = '1') digits))
    | '+' :: rest => number? false rest
    | '-' :: rest => number? true rest
    | rest => number? false rest

/-- Whether a character belongs to a bare word. -/
def isWordCharacter (c : Char) : Bool :=
  c.isAlphanum || c = '_' || c = '-' || c = '+' || c = '.' || c = ':'

/-- The bare word at the head; a date takes in the time of day after a space. -/
def bareWord (input : List Char) : List Char × List Char :=
  let word := input.takeWhile isWordCharacter
  match input.dropWhile isWordCharacter with
  | ' ' :: rest =>
      let time := rest.takeWhile isWordCharacter
      if word.length = 10 && isMoment word && isMoment time then
        (word ++ ' ' :: time, rest.dropWhile isWordCharacter)
      else (word, ' ' :: rest)
  | rest => (word, rest)

end Redelivery.Toml
