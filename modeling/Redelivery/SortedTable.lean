/-!
# Sorted tables

An association list in strictly increasing order of its names. Names compare by
code point, which is also the order of their UTF-8 octets. `insert` keeps the
order and replaces; `find?` reads the entry that the last insert under a name left.
-/

namespace Redelivery

set_option autoImplicit false

/-- Entries under names; tables built by `insert` are sorted and free of repetition. -/
abbrev SortedTable (α : Type) := List (String × α)

namespace SortedTable

variable {α : Type}

/-- Sets the entry under a name. -/
def insert (name : String) (value : α) : SortedTable α → SortedTable α
  | [] => [(name, value)]
  | (other, old) :: rest =>
      if name < other then (name, value) :: (other, old) :: rest
      else if name = other then (name, value) :: rest
      else (other, old) :: insert name value rest

/-- The entry under a name. -/
def find? (name : String) : SortedTable α → Option α
  | [] => none
  | (other, value) :: rest => if name = other then some value else find? name rest

/-- The table of a list of pairs, of which a later one replaces an earlier one. -/
def ofPairs (pairs : List (String × α)) : SortedTable α :=
  pairs.foldl (fun table pair => table.insert pair.1 pair.2) []

/-- The names of a table, in order. -/
def names (table : SortedTable α) : List String := table.map Prod.fst

theorem find?_insert_self (name : String) (value : α) (table : SortedTable α) :
    find? name (insert name value table) = some value := by
  induction table with
  | nil => simp [insert, find?]
  | cons entry rest ih =>
      simp only [insert]
      split
      · simp [find?]
      · split
        · simp [find?]
        · rename_i different; simp [find?, different, ih]

theorem find?_insert_of_ne {name other : String} (different : other ≠ name) (value : α)
    (table : SortedTable α) : find? other (insert name value table) = find? other table := by
  induction table with
  | nil => simp [insert, find?, different]
  | cons entry rest ih =>
      simp only [insert]
      split
      · simp [find?, different]
      · split
        · rename_i same; subst same; simp [find?, different]
        · simp only [find?, ih]

/-- The names of a table increase strictly. -/
def Sorted (table : SortedTable α) : Prop := (names table).Pairwise (· < ·)

instance (table : SortedTable α) : Decidable (Sorted table) :=
  inferInstanceAs (Decidable ((names table).Pairwise (· < ·)))

theorem mem_of_mem_insert {name : String} {value : α} {table : SortedTable α} {entry : String × α}
    (member : entry ∈ insert name value table) : entry = (name, value) ∨ entry ∈ table := by
  induction table with
  | nil => exact .inl (List.mem_singleton.mp member)
  | cons first rest ih =>
      rw [insert] at member
      split at member
      · exact List.mem_cons.mp member
      · split at member
        · exact (List.mem_cons.mp member).imp_right (List.mem_cons_of_mem first)
        · rcases List.mem_cons.mp member with rfl | later
          · exact .inr List.mem_cons_self
          · exact (ih later).imp_right (List.mem_cons_of_mem first)

/-- An entry is set in its place. -/
theorem sorted_insert {table : SortedTable α} (sorted : Sorted table) (name : String) (value : α) :
    Sorted (insert name value table) := by
  induction table with
  | nil => exact List.pairwise_singleton _ _
  | cons first rest ih =>
      obtain ⟨least, later⟩ := List.pairwise_cons.mp sorted
      rw [insert]
      split
      · rename_i less
        apply List.pairwise_cons.mpr
        refine ⟨?_, sorted⟩
        intro other member
        rcases List.mem_cons.mp member with rfl | behind
        · exact less
        · exact String.lt_trans less (least other behind)
      · rename_i notLess
        split
        · rename_i same
          exact List.pairwise_cons.mpr ⟨same ▸ least, later⟩
        · rename_i different
          apply List.pairwise_cons.mpr
          refine ⟨?_, ih later⟩
          intro other member
          obtain ⟨entry, inserted, rfl⟩ := List.mem_map.mp member
          rcases mem_of_mem_insert inserted with rfl | behind
          · exact Std.lt_of_le_of_ne (String.not_lt.mp notLess) (Ne.symm different)
          · exact least entry.1 (List.mem_map_of_mem behind)

theorem mem_of_find? {name : String} {value : α} {table : SortedTable α}
    (found : find? name table = some value) : (name, value) ∈ table := by
  induction table with
  | nil => cases found
  | cons first rest ih =>
      rw [find?] at found
      split at found
      · rename_i same
        cases found
        rw [same]
        exact List.mem_cons_self
      · exact List.mem_cons_of_mem first (ih found)

/-- In a sorted table every entry is found under its name. -/
theorem find?_of_mem {table : SortedTable α} (sorted : Sorted table) {entry : String × α}
    (member : entry ∈ table) : find? entry.1 table = some entry.2 := by
  induction table with
  | nil => cases member
  | cons first rest ih =>
      obtain ⟨least, later⟩ := List.pairwise_cons.mp sorted
      rcases List.mem_cons.mp member with rfl | behind
      · exact if_pos rfl
      · have less := least entry.1 (List.mem_map_of_mem behind)
        have different : entry.1 ≠ first.1 := by
          intro same
          rw [same] at less
          exact String.lt_irrefl first.1 less
        rw [find?, if_neg different, ih later behind]

end SortedTable

end Redelivery
