import Redelivery.Toml.Document
import Redelivery.Toml.Scalar
/-!
# Reading TOML

`read?` reads a whole document: lines that are blank, open a table, or set a key.
Every function takes as fuel the length of its input, which none of them exceeds.
-/

namespace Redelivery.Toml

set_option autoImplicit false

open Redelivery.Settings (Node)

def isBlank (c : Char) : Bool := c = ' ' || c = '\t'

def skipBlanks (input : List Char) : List Char := input.dropWhile isBlank

/-- What follows a comment, if one begins here; a control character in it is refused. -/
def afterComment? (input : List Char) : Option (List Char) :=
  match input with
  | '#' :: rest =>
      let after := rest.dropWhile isLineCharacter
      if after.isEmpty || (afterBreak? after).isSome then some after else none
  | _ => some input

/-- What follows blanks, comments and line breaks. -/
def skipLines? : Nat → List Char → Option (List Char)
  | 0, _ => none
  | fuel + 1, input => do
      let rest ← afterComment? (skipBlanks input)
      match afterBreak? rest with
      | some rest => skipLines? fuel rest
      | none => some rest

/-- What follows the end of a line. -/
def endLine? (input : List Char) : Option (List Char) := do
  let rest ← afterComment? (skipBlanks input)
  if rest.isEmpty then some [] else afterBreak? rest

/-- Whether a character belongs to a key without quotes. -/
def isKeyCharacter (c : Char) : Bool := c.isAlphanum || c = '_' || c = '-'

/-- One part of a key. -/
def keyPart? (input : List Char) : Option (String × List Char) :=
  match input with
  | [] => none
  | c :: rest =>
      if c = quote then
        (basic? (rest.length + 1) rest).map fun (found, rest) => (String.ofList found, rest)
      else if c = apostrophe then
        (literal? rest).map fun (found, rest) => (String.ofList found, rest)
      else
        let found := input.takeWhile isKeyCharacter
        if found.isEmpty then none
        else some (String.ofList found, input.dropWhile isKeyCharacter)

/-- A key: parts joined by points. -/
def key? : Nat → List Char → Option (List String × List Char)
  | 0, _ => none
  | fuel + 1, input => do
      let (part, rest) ← keyPart? (skipBlanks input)
      match skipBlanks rest with
      | '.' :: rest => do
          let (parts, rest) ← key? fuel rest
          return (part :: parts, rest)
      | rest => return ([part], rest)

mutual

/-- The value at the head of its input. -/
def value? : Nat → List Char → Option (Node × List Char)
  | 0, _ => none
  | fuel + 1, input =>
      match text? input with
      | some (found, rest) => some (.text (String.ofList found) false, rest)
      | none =>
          match input with
          | '[' :: rest => (items? fuel rest).map fun (found, rest) => (.list found, rest)
          | c :: rest =>
              if c = Char.ofNat 0x7B then
                match skipBlanks rest with
                | d :: after =>
                    if d = Char.ofNat 0x7D then some (.group [], after)
                    else (members? fuel [] (d :: after)).map fun (found, rest) =>
                      (.group (entryNodes found), rest)
                | [] => none
              else
                let (word, rest) := bareWord input
                (word? word).map (·, rest)
          | [] => none

/-- The rest of an array. -/
def items? : Nat → List Char → Option (List Node × List Char)
  | 0, _ => none
  | fuel + 1, input => do
      match ← skipLines? (input.length + 1) input with
      | ']' :: rest => return ([], rest)
      | input =>
          let (item, rest) ← value? fuel input
          match ← skipLines? (rest.length + 1) rest with
          | ',' :: rest => do
              let (found, rest) ← items? fuel rest
              return (item :: found, rest)
          | ']' :: rest => return ([item], rest)
          | _ => none

/-- The rest of a table on one line. -/
def members? : Nat → Entries → List Char → Option (Entries × List Char)
  | 0, _, _ => none
  | fuel + 1, entries, input => do
      let (path, rest) ← key? (input.length + 1) input
      match skipBlanks rest with
      | '=' :: rest => do
          let (found, rest) ← value? fuel (skipBlanks rest)
          let entries ← entries.set (.value found) path
          match skipBlanks rest with
          | ',' :: rest => members? fuel entries rest
          | c :: rest => if c = Char.ofNat 0x7D then return (entries, rest) else none
          | [] => none
      | _ => none

end

/-- A document under way: what was read, and the header that is open. -/
structure Reading where
  root : Entries
  header : List String

/-- Opens a header. -/
def Reading.open? (reading : Reading) (path : List String) (repeated : Bool) :
    Option Reading := do
  let name ← path.getLast?
  let change := if repeated then Entries.appendTable name else Entries.openTable name
  let root ← Entries.descend change path.dropLast reading.root
  return ⟨root, path⟩

/-- Reads one line that is not blank. -/
def line? (reading : Reading) (input : List Char) : Option (Reading × List Char) :=
  match input with
  | '[' :: '[' :: rest => do
      let (path, rest) ← key? (rest.length + 1) rest
      match skipBlanks rest with
      | ']' :: ']' :: rest => do return (← reading.open? path true, ← endLine? rest)
      | _ => none
  | '[' :: rest => do
      let (path, rest) ← key? (rest.length + 1) rest
      match skipBlanks rest with
      | ']' :: rest => do return (← reading.open? path false, ← endLine? rest)
      | _ => none
  | _ => do
      let (path, rest) ← key? (input.length + 1) input
      match skipBlanks rest with
      | '=' :: rest => do
          let rest := skipBlanks rest
          let (found, rest) ← value? (rest.length + 1) rest
          let root ← Entries.descend (Entries.set (.value found) path) reading.header reading.root
          return (⟨root, reading.header⟩, ← endLine? rest)
      | _ => none

/-- Reads line after line. -/
def lines? : Nat → Reading → List Char → Option Reading
  | 0, _, _ => none
  | fuel + 1, reading, input => do
      let input ← skipLines? (input.length + 1) input
      if input.isEmpty then return reading
      else
        let (reading, rest) ← line? reading input
        lines? fuel reading rest

/-- Reads a whole document. -/
def read? (text : String) : Option Node := do
  let input := text.toList
  let reading ← lines? (input.length + 1) ⟨[], []⟩ input
  return .group (entryNodes reading.root)

end Redelivery.Toml
