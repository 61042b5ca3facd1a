import Redelivery.Settings.Node
/-!
# Overlays

A document is laid over another one: sections are merged entry by entry, anything
else replaces what was there. A name at the root of a layer may be a path of names
joined by points, and the sections on its way are made as needed. Environment
variables form a layer whose paths are their lowered names, two underscores standing
for a point.
-/

namespace Redelivery.Settings

set_option autoImplicit false

namespace Node

/-- The entries of a node taken as a section. -/
def entries : Node → List (String × Node)
  | .group entries => entries
  | _ => []

mutual

/-- Lays a node over another. -/
def overlay (below : Node) : Node → Node
  | .group above => .group (overlayEntries below.entries above)
  | above => above

def overlayEntries (below : List (String × Node)) : List (String × Node) → List (String × Node)
  | [] => below
  | (name, above) :: rest =>
      let under := (SortedTable.find? name below).getD .absent
      overlayEntries (SortedTable.insert name (overlay under above) below) rest

end

/-- Lays a node over the one at a path. -/
def overlayAt (below above : Node) : List String → Node
  | [] => overlay below above
  | name :: rest =>
      let under := (SortedTable.find? name below.entries).getD .absent
      .group (SortedTable.insert name (overlayAt under above rest) below.entries)

end Node

/-- The characters of a name within a path. -/
def isPathCharacter (c : Char) : Bool := c.isAlphanum || c = '_' || c = '-'

/-- A text cut at its points. -/
def cutAtPoints (characters : List Char) : List (List Char) :=
  characters.foldr (fun c pieces =>
    match pieces with
    | [] => [[c]]
    | piece :: rest => if c = '.' then [] :: piece :: rest else (c :: piece) :: rest) [[]]

/-- The path that a name at the root stands for; a name that is no path stands for
itself. -/
def pathOf (name : String) : List String :=
  let pieces := cutAtPoints name.toList
  if pieces.all fun piece => !piece.isEmpty && piece.all isPathCharacter then
    pieces.map String.ofList
  else [name]

/-- Lays a layer over a document, name by name. -/
def layer (document : Node) (entries : List (String × Node)) : Node :=
  entries.foldl (fun document entry => document.overlayAt entry.2 (pathOf entry.1)) document

/-- Two underscores become a point. -/
def pointed : List Char → List Char
  | '_' :: '_' :: rest => '.' :: pointed rest
  | c :: rest => c :: pointed rest
  | [] => []

/-- The entry that an environment variable makes, if it is meant for the application. -/
def entryOf? (name value : String) : Option (String × Node) :=
  match (Letters.lowercase name).toList with
  | 'a' :: 'p' :: 'p' :: '_' :: '_' :: rest =>
      some (String.ofList (pointed rest), .text value true)
  | _ => none

/-- The layer of environment variables. -/
def environment (assignments : List (String × String)) : List (String × Node) :=
  assignments.filterMap fun entry => entryOf? entry.1 entry.2

end Redelivery.Settings
