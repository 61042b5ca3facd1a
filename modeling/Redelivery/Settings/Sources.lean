import Redelivery.Json.Value
import Redelivery.Settings.Overlay
import Redelivery.Settings.Reading
import Redelivery.Toml.Reader
/-!
# Sources of settings

Settings come from one document, which need not exist, and from the environment,
which is laid over it. `Settings.load` looks the document up by name among files: a
file of that very name, else the name with an extension added.
-/

namespace Redelivery.Settings

set_option autoImplicit false

/-- The formats of documents. -/
inductive Format where
  | toml
  | json
  deriving DecidableEq

namespace Format

/-- The extension of the files of a format. -/
def suffix : Format → String
  | toml => "toml"
  | json => "json"

/-- The formats in the order in which a document is looked for. -/
def all : List Format := [toml, json]

end Format

mutual

/-- A document that was written as JSON. An integer past the signed 64 bits is kept as a
double. -/
def ofJson : Json.Value → Node
  | .null => .absent
  | .boolean value => .boolean value
  | .integer value =>
      if value < Int.pow 2 63 then .integer value
      else .real ⟨false, Binary64.ofRatio value.toNat 1⟩
  | .real value => .real value
  | .text value => .text value false
  | .array items => .list (itemsOfJson items)
  | .object members => .group (entriesOfJson members)

def itemsOfJson : List Json.Value → List Node
  | [] => []
  | item :: rest => ofJson item :: itemsOfJson rest

def entriesOfJson : List (String × Json.Value) → List (String × Node)
  | [] => []
  | (name, member) :: rest => (name, ofJson member) :: entriesOfJson rest

end

/-- The entries at the root of a document. -/
def document? (format : Format) (text : String) : Except Failure (List (String × Node)) :=
  let node := match format with
    | .toml => Toml.read? text
    | .json => (Json.Value.read? (Utf8.encode text)).map ofJson
  match node with
  | some (.group entries) => .ok entries
  | some _ => .error (.configuration "the root of the document is not a table")
  | none => .error (.configuration "the document is malformed")

/-- Settings from a document under the environment. -/
def build (document : List (String × Node)) (assignments : List (String × String)) :
    Except Failure Settings :=
  let node := layer (layer (.group []) document) (environment assignments)
  (read node).mapError fun fault => .configuration fault.message

/-- Settings from the text of a document under the environment. -/
def parse (format : Format) (text : String) (assignments : List (String × String)) :
    Except Failure Settings := do build (← document? format text) assignments

/-- The extension of a file name: what follows the last point, unless the name begins
with it. -/
def extension? (path : String) : Option String :=
  let name := (path.toList.reverse.takeWhile (· ≠ '/')).reverse
  let stem := (name.reverse.dropWhile (· ≠ '.')).drop 1
  if stem.isEmpty then none
  else some (String.ofList (name.reverse.takeWhile (· ≠ '.')).reverse)

/-- The format and the text of a document among files. -/
def locate? (files : List (String × String)) (path : String) : Option (Format × String) :=
  match SortedTable.find? path files with
  | some text =>
      (Format.all.find? fun format => extension? path = some format.suffix).map (·, text)
  | none => Format.all.findSome? fun format =>
      (SortedTable.find? (path ++ "." ++ format.suffix) files).map (format, ·)

/-- Settings from the document of a name among files, if it is there, under the
environment. -/
def load (files : List (String × String)) (path : String) (assignments : List (String × String)) :
    Except Failure Settings :=
  match locate? files path with
  | some (format, text) => parse format text assignments
  | none => build [] assignments

end Redelivery.Settings
