import CueFront.Proofs.Diagnostics.Blocks
import CueFront.Proofs.Diagnostics.Flat

/-!
# Blocks are the one partition

A list is cut in front of its headers in one way (`isPartition_iff`).  `IsPartition` says what such
a cut is, for lists of lists and with no mention of how it is found.  The first item is at the start
of the first group whatever the predicate says of it, so only the later groups have to start with a
header.

`prependItem` keeps what the definition asks for (`isPartition_prependItem`), so the blocks are a
partition.  Another partition has the same first group, because the group goes on as long as no item
is a header, and behind it a partition of the other items.
-/

namespace CueFront

namespace Diagnostics

variable {α : Type} {opens : α → Bool} {item : α} {items rest : List α}

/-- The groups are the list, cut in front of every item that opens a group. -/
structure IsPartition (opens : α → Bool) (items : List α) (groups : List (List α)) : Prop where
  /-- The groups hold the items, in order. -/
  flatten : groups.flatten = items
  /-- No group is empty. -/
  nonempty : ∀ group ∈ groups, group ≠ []
  /-- Every group but the first starts with an item that opens one. -/
  opened : ∀ group ∈ groups.tail, ∃ item, group.head? = some item ∧ opens item = true
  /-- No item behind the first of its group opens one. -/
  inside : ∀ group ∈ groups, ∀ item ∈ group.tail, opens item = false

namespace IsPartition

variable {group : List α} {groups : List (List α)}

/-- The groups behind the first are a partition of the other items. -/
theorem later (partition : IsPartition opens items (group :: groups)) :
    IsPartition opens groups.flatten groups where
  flatten := rfl
  nonempty := List.forall_mem_of_forall_mem_cons partition.nonempty
  opened group inside := partition.opened group (List.mem_of_mem_tail inside)
  inside := List.forall_mem_of_forall_mem_cons partition.inside

/-- The first item behind the first group opens one. -/
theorem opens_next (partition : IsPartition opens items (group :: groups))
    (next : groups.flatten.head? = some item) : opens item = true := by
  cases groups with
  | nil => cases next
  | cons second groups =>
    obtain ⟨header, starts, opening⟩ := partition.opened second List.mem_cons_self
    rw [List.flatten_cons, List.head?_append, starts] at next
    cases next
    exact opening

end IsPartition

/-! ## The blocks are a partition -/

/-- An item in front of the list is put into its partition. -/
theorem isPartition_prependItem {blocks : List (Block α)}
    (partition : IsPartition opens rest (blocks.map Block.items)) (item : α) :
    IsPartition opens (item :: rest) ((prependItem opens item blocks).map Block.items) where
  flatten := by
    rw [← List.flatMap_def, items_prependItem, List.flatMap_def, partition.flatten]
  nonempty := by
    intro group isBlock
    obtain ⟨block, -, rfl⟩ := List.mem_map.mp isBlock
    exact List.cons_ne_nil block.header block.body
  opened := by
    cases blocks with
    | nil => exact List.forall_mem_nil _
    | cons next later =>
      rw [prependItem]
      split
      · next opening =>
        exact List.forall_mem_cons.mpr ⟨⟨next.header, rfl, opening⟩, partition.opened⟩
      · exact partition.opened
  inside := by
    cases blocks with
    | nil => exact List.forall_mem_cons.mpr ⟨List.forall_mem_nil _, List.forall_mem_nil _⟩
    | cons next later =>
      rw [prependItem]
      split
      · exact List.forall_mem_cons.mpr ⟨List.forall_mem_nil _, partition.inside⟩
      · next continuing =>
        obtain ⟨ofNext, ofLater⟩ := List.forall_mem_cons.mp partition.inside
        have ofHeader : opens next.header = false := Bool.eq_false_iff.mpr continuing
        exact List.forall_mem_cons.mpr ⟨List.forall_mem_cons.mpr ⟨ofHeader, ofNext⟩, ofLater⟩

theorem isPartition_groupOrdered (opens : α → Bool) (items : List α) :
    IsPartition opens items ((groupOrdered opens items).map Block.items) := by
  induction items with
  | nil => exact ⟨rfl, List.forall_mem_nil _, List.forall_mem_nil _, List.forall_mem_nil _⟩
  | cons item rest ih => exact isPartition_prependItem ih item

/-! ## There is no other -/

/-- A group goes up to the next item that opens one. -/
theorem groupOrdered_append {body : List α} (inside : ∀ item ∈ body, opens item = false)
    (next : ∀ item, rest.head? = some item → opens item = true) (header : α) :
    groupOrdered opens (header :: (body ++ rest)) =
      ⟨header, body⟩ :: groupOrdered opens rest := by
  have continuing : ∀ item ∈ body, (!opens item) = true := fun item here => by
    rw [inside item here, Bool.not_false]
  rw [groupOrdered_cons, List.takeWhile_append_of_pos continuing,
    List.dropWhile_append_of_pos continuing]
  cases rest with
  | nil => rw [List.takeWhile_nil, List.dropWhile_nil, List.append_nil]
  | cons item rest =>
    rw [List.takeWhile_cons_of_neg (by simp [next item rfl]),
      List.dropWhile_cons_of_neg (by simp [next item rfl]), List.append_nil]

theorem IsPartition.eq_groupOrdered {groups : List (List α)}
    (partition : IsPartition opens items groups) :
    groups = (groupOrdered opens items).map Block.items := by
  induction groups generalizing items with
  | nil =>
    obtain rfl : [] = items := partition.flatten
    rfl
  | cons group groups ih =>
    obtain ⟨header, body, rfl⟩ :=
      List.exists_cons_of_ne_nil (partition.nonempty group List.mem_cons_self)
    obtain rfl : header :: (body ++ groups.flatten) = items := partition.flatten
    have cut := groupOrdered_append (partition.inside _ List.mem_cons_self)
      (fun _ => partition.opens_next) header
    rw [List.tail_cons] at cut
    rw [cut, List.map_cons, ← ih partition.later]
    rfl

/-- The blocks of a list are its groups, and it has no other groups. -/
theorem isPartition_iff (opens : α → Bool) (items : List α) (groups : List (List α)) :
    IsPartition opens items groups ↔ groups = (groupOrdered opens items).map Block.items := by
  constructor
  · exact IsPartition.eq_groupOrdered
  · rintro rfl
    exact isPartition_groupOrdered opens items

/-- The first item does not have to open the first group. -/
example : (groupOrdered (· == 1) [2, 3, 1, 4, 1]).map Block.items = [[2, 3], [1, 4], [1]] := rfl

end Diagnostics

end CueFront
