import Redelivery.Settings.Node
/-!
# TOML documents under way

A document is built line by line. A table remembers how it came about, since a table
may be opened by a header once, and only tables made by the keys of the same header
may be extended by further keys.
-/

namespace Redelivery.Toml

set_option autoImplicit false

open Redelivery.Settings (Node)

/-- How a table came about. -/
inductive Origin where
  /-- On the way to a deeper header. -/
  | passage
  | header
  /-- On the way to a key. -/
  | key
  deriving DecidableEq

/-- What stands under a name. -/
inductive Item where
  | value (node : Node)
  | table (origin : Origin) (entries : List (String × Item))
  /-- Tables under one name, the last of which is open. -/
  | tables (closed : List (List (String × Item))) (last : List (String × Item))

/-- The named items of a table. -/
abbrev Entries := SortedTable Item

namespace Entries

/-- Changes what a header on its way down stands for. -/
def descend (change : Entries → Option Entries) : List String → Entries → Option Entries
  | [], entries => change entries
  | name :: rest, entries =>
      match SortedTable.find? name entries with
      | none => do
          let below ← descend change rest []
          return SortedTable.insert name (.table .passage below) entries
      | some (.table origin below) => do
          let below ← descend change rest below
          return SortedTable.insert name (.table origin below) entries
      | some (.tables closed last) => do
          let last ← descend change rest last
          return SortedTable.insert name (.tables closed last) entries
      | some (.value _) => none

/-- Opens the table of a header. -/
def openTable (name : String) (entries : Entries) : Option Entries :=
  match SortedTable.find? name entries with
  | none => some (SortedTable.insert name (.table .header []) entries)
  | some (.table .passage below) => some (SortedTable.insert name (.table .header below) entries)
  | _ => none

/-- Opens one more table of a repeated header. -/
def appendTable (name : String) (entries : Entries) : Option Entries :=
  match SortedTable.find? name entries with
  | none => some (SortedTable.insert name (.tables [] []) entries)
  | some (.tables closed last) =>
      some (SortedTable.insert name (.tables (closed ++ [last]) []) entries)
  | _ => none

/-- Sets a value under a path of keys. -/
def set (value : Item) : List String → Entries → Option Entries
  | [], _ => none
  | [name], entries =>
      match SortedTable.find? name entries with
      | none => some (SortedTable.insert name value entries)
      | some _ => none
  | name :: rest, entries =>
      match SortedTable.find? name entries with
      | none => do
          let below ← set value rest []
          return SortedTable.insert name (.table .key below) entries
      | some (.table .key below) => do
          let below ← set value rest below
          return SortedTable.insert name (.table .key below) entries
      | _ => none

end Entries

mutual

/-- The finished document of an item. -/
def Item.node : Item → Node
  | .value node => node
  | .table _ entries => .group (entryNodes entries)
  | .tables closed last => .list (tableNodes closed ++ [.group (entryNodes last)])

def entryNodes : List (String × Item) → List (String × Node)
  | [] => []
  | (name, item) :: rest => (name, item.node) :: entryNodes rest

def tableNodes : List (List (String × Item)) → List Node
  | [] => []
  | entries :: rest => .group (entryNodes entries) :: tableNodes rest

end

end Redelivery.Toml
