import Redelivery.Settings.Sources
/-!
# The table of message classes

Settings that are read list their classes in the order of their names, each name once, whatever
document and environment they come from: a document is laid down section by section, and within a
section every entry is set in its place (`Node.Ordered`). Lists are not sections, and nothing is
asked of what is inside them.

In such a table the classes under their full names are what is found under the names, one after
the other: `Settings.classes_eq`.
-/

namespace Redelivery.Settings

set_option autoImplicit false

/-! ## Documents in order -/

/-- Every section of a document is sorted, down to the first list. -/
inductive Node.Ordered : Node → Prop where
  | group {entries : List (String × Node)} (sorted : SortedTable.Sorted entries)
      (below : ∀ entry ∈ entries, Ordered entry.2) : Ordered (.group entries)
  | plain {node : Node} (other : ∀ entries, node ≠ .group entries) : Ordered node

/-- The entries of a section that is sorted all the way down. -/
structure InOrder (entries : List (String × Node)) : Prop where
  sorted : SortedTable.Sorted entries
  below : ∀ entry ∈ entries, entry.2.Ordered

theorem Node.Ordered.entries {node : Node} (ordered : node.Ordered) : InOrder node.entries := by
  cases ordered with
  | group sorted below => exact ⟨sorted, below⟩
  | plain other =>
      cases node with
      | group entries => exact absurd rfl (other entries)
      | _ => exact ⟨.nil, fun _ member => nomatch member⟩

namespace InOrder

variable {entries : List (String × Node)} {node : Node}

theorem group (inOrder : InOrder entries) : (Node.group entries).Ordered :=
  .group inOrder.sorted inOrder.below

theorem insert (inOrder : InOrder entries) (ordered : node.Ordered) (name : String) :
    InOrder (SortedTable.insert name node entries) where
  sorted := SortedTable.sorted_insert inOrder.sorted name node
  below entry member := by
    rcases SortedTable.mem_of_mem_insert member with rfl | old
    · exact ordered
    · exact inOrder.below entry old

theorem under (inOrder : InOrder entries) (name : String) :
    ((SortedTable.find? name entries).getD .absent).Ordered := by
  cases found : SortedTable.find? name entries with
  | none => exact .plain nofun
  | some node => exact inOrder.below _ (SortedTable.mem_of_find? found)

end InOrder

/-! ### Layers -/

namespace Node

mutual

/-- What is laid over a document is laid down in order, whatever order it came in. -/
theorem ordered_overlay {below : Node} (ordered : below.Ordered) :
    (above : Node) → (overlay below above).Ordered
  | .group above => by
      rw [overlay]
      exact (inOrder_overlayEntries ordered.entries above).group
  | .absent => .plain nofun
  | .boolean _ => .plain nofun
  | .integer _ => .plain nofun
  | .real _ => .plain nofun
  | .text _ _ => .plain nofun
  | .list _ => .plain nofun

theorem inOrder_overlayEntries {below : List (String × Node)} (inOrder : InOrder below) :
    (above : List (String × Node)) → InOrder (overlayEntries below above)
  | [] => inOrder
  | (name, above) :: rest => by
      rw [overlayEntries]
      have laid := ordered_overlay (inOrder.under name) above
      exact inOrder_overlayEntries (inOrder.insert laid name) rest

end

theorem ordered_overlayAt {below : Node} (ordered : below.Ordered) (above : Node)
    (path : List String) : (overlayAt below above path).Ordered := by
  induction path generalizing below with
  | nil => exact ordered_overlay ordered above
  | cons name rest ih =>
      rw [overlayAt]
      exact (ordered.entries.insert (ih (ordered.entries.under name)) name).group

end Node

theorem cutAtPoints_ne_nil (characters : List Char) : cutAtPoints characters ≠ [] := by
  cases characters with
  | nil => exact nofun
  | cons c rest =>
      rw [cutAtPoints, List.foldr_cons]
      split
      · exact nofun
      · split <;> exact nofun

theorem pathOf_eq_cons (name : String) : ∃ first rest, pathOf name = first :: rest := by
  rw [pathOf]
  split
  · obtain ⟨piece, pieces, cut⟩ := List.exists_cons_of_ne_nil (cutAtPoints_ne_nil name.toList)
    rw [cut]
    exact ⟨_, _, rfl⟩
  · exact ⟨name, [], rfl⟩

theorem inOrder_layer {document : List (String × Node)} (inOrder : InOrder document)
    (entries : List (String × Node)) :
    ∃ laid, layer (.group document) entries = .group laid ∧ InOrder laid := by
  induction entries generalizing document with
  | nil => exact ⟨document, rfl, inOrder⟩
  | cons entry entries ih =>
      obtain ⟨first, rest, path⟩ := pathOf_eq_cons entry.1
      have laid := inOrder.insert
        (Node.ordered_overlayAt (inOrder.under first) entry.2 rest) first
      obtain ⟨final, eq, whole⟩ := ih laid
      refine ⟨final, ?_, whole⟩
      rw [← eq, layer, List.foldl_cons, path]
      rfl

/-! ## Settings that are read -/

theorem ok_of_bind {ε α β : Type} {first : Except ε α} {then' : α → Except ε β} {result : β}
    (went : (first >>= then') = .ok result) : ∃ value, first = .ok value ∧ then' value = .ok result := by
  cases first with
  | error fault => cases went
  | ok value => exact ⟨value, rfl, went⟩

/-- Classes are read in the order of their section, each under its name. -/
theorem names_readClasses {entries : List (String × Node)} {classes : SortedTable MessageClass}
    (went : readClasses (.group entries) = .ok classes) : classes.names = SortedTable.names entries := by
  rw [readClasses] at went
  induction entries generalizing classes with
  | nil =>
      cases went
      rfl
  | cons entry entries ih =>
      rw [List.mapM_cons] at went
      obtain ⟨first, read, went⟩ := ok_of_bind went
      obtain ⟨others, later, went⟩ := ok_of_bind went
      cases went
      have named : first.1 = entry.1 := by
        cases told : readClass entry.2 with
        | error fault =>
            rw [told] at read
            cases read
        | ok cls =>
            rw [told] at read
            cases read
            rfl
      rw [SortedTable.names, List.map_cons, named, SortedTable.names, List.map_cons]
      exact congrArg (entry.1 :: ·) (ih later)

/-- The classes of a section that is in order are sorted; if there is no section, there are none. -/
theorem sorted_of_member {entries : List (String × Node)} (inOrder : InOrder entries) {name : String}
    {classes? : Option (SortedTable MessageClass)}
    (went : (Members.named entries).read? name readClasses = .ok classes?) :
    SortedTable.Sorted (classes?.getD []) := by
  rw [Members.read?, Members.find?] at went
  cases found : SortedTable.find? name entries with
  | none =>
      rw [found] at went
      cases went
      exact .nil
  | some node =>
      cases told : readClasses node with
      | error fault =>
          simp only [found, told, Option.map_some] at went
          cases went
      | ok classes =>
          simp only [found, told, Option.map_some] at went
          cases went
          have ordered := inOrder.below _ (SortedTable.mem_of_find? found)
          cases ordered with
          | group sorted below =>
              show SortedTable.Sorted classes
              rw [SortedTable.Sorted, names_readClasses told]
              exact sorted
          | plain other =>
              cases node with
              | group entries => exact absurd rfl (other entries)
              | _ => cases told

/-- Settings that are read have their classes in order. -/
theorem sorted_of_read {entries : List (String × Node)} {settings : Settings}
    (inOrder : InOrder entries) (went : read (.group entries) = .ok settings) :
    settings.messageClasses.Sorted := by
  obtain ⟨members, named, went⟩ := ok_of_bind went
  cases named
  obtain ⟨application, -, went⟩ := ok_of_bind went
  obtain ⟨broker, -, went⟩ := ok_of_bind went
  obtain ⟨consumer, -, went⟩ := ok_of_bind went
  obtain ⟨classes?, read, went⟩ := ok_of_bind went
  obtain ⟨application, -, went⟩ := ok_of_bind went
  obtain ⟨broker, -, went⟩ := ok_of_bind went
  cases went
  exact sorted_of_member inOrder read

/-- So have settings from any document under any environment. -/
theorem sorted_of_build {document : List (String × Node)} {assignments : List (String × String)}
    {settings : Settings} (went : build document assignments = .ok settings) :
    settings.messageClasses.Sorted := by
  have nothing : InOrder [] := ⟨.nil, fun _ member => nomatch member⟩
  obtain ⟨first, laid, inOrder⟩ := inOrder_layer nothing document
  obtain ⟨whole, laid', inOrder'⟩ := inOrder_layer inOrder (environment assignments)
  rw [build, laid, laid'] at went
  cases told : read (.group whole) with
  | error fault =>
      rw [told] at went
      cases went
  | ok settings' =>
      rw [told] at went
      cases went
      exact sorted_of_read inOrder' told

/-! ## Classes under their full names -/

variable {settings : Settings}

theorem map_class?_eq {names : List String} {chosen : List MessageClass}
    (found : names.map (fun name => SortedTable.find? name settings.messageClasses) =
      chosen.map some) :
    names.map settings.class? =
      (chosen.map (MessageClass.withPrefix settings.namePrefix)).map .ok := by
  induction names generalizing chosen with
  | nil =>
      obtain rfl := List.map_eq_nil_iff.mp found.symm
      rfl
  | cons name names ih =>
      cases chosen with
      | nil => cases found
      | cons cls chosen =>
          obtain ⟨first, rest⟩ := List.cons.inj found
          have own : settings.class? name = .ok (cls.withPrefix settings.namePrefix) := by
            simp only [class?, first]
          rw [List.map_cons, ih rest, own, List.map_cons, List.map_cons]

/-- All classes are what is found under the names, in the order of the names. -/
theorem classes_eq (sorted : settings.messageClasses.Sorted) :
    settings.classes.map .ok = settings.messageClasses.names.map settings.class? := by
  have found : settings.messageClasses.names.map
      (fun name => SortedTable.find? name settings.messageClasses) =
        (settings.messageClasses.map Prod.snd).map some := by
    rw [SortedTable.names, List.map_map, List.map_map]
    apply List.map_congr_left
    intro entry member
    exact SortedTable.find?_of_mem sorted member
  rw [map_class?_eq found, classes, List.map_map, List.map_map, List.map_map]
  rfl

end Redelivery.Settings
