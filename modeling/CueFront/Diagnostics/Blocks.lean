import CueFront.Diagnostics.Lines

/-!
# Blocks

The tool reports in blocks: a header line, then indented lines that belong to it.
`groupOrdered` cuts any list into such blocks by a predicate that recognises headers.  The
first item opens a block whatever the predicate says, so a block always has a header and
none is empty.
-/

namespace CueFront

namespace Diagnostics

/-- A header and the items below it. -/
structure Block (α : Type) where
  /-- The item that opens the block. -/
  header : α
  /-- The other items, in order. -/
  body : List α
deriving DecidableEq, Repr

namespace Block

/-- The items of a block, the header first. -/
def items {α : Type} (block : Block α) : List α := block.header :: block.body

end Block

/-- Puts an item in front of the blocks of what follows it.  The next block stays apart if its
header opens a block; otherwise its items continue the item's own block. -/
def prependItem {α : Type} (opens : α → Bool) (item : α) (blocks : List (Block α)) :
    List (Block α) :=
  match blocks with
  | [] => [⟨item, []⟩]
  | next :: later =>
    if opens next.header then ⟨item, []⟩ :: next :: later else ⟨item, next.items⟩ :: later

/-- Cuts a list into blocks in front of every item that opens one. -/
def groupOrdered {α : Type} (opens : α → Bool) (items : List α) : List (Block α) :=
  items.foldr (prependItem opens) []

/-- The indentation that keeps a line in the block above it. -/
def blockIndent : Bytes := List.replicate 3 Byte.space

/-- The blocks of a text: a line without the indentation is a header. -/
def groupLines (indent text : Bytes) : List (Block Bytes) :=
  groupOrdered (fun line => !indent.isPrefixOf line) (splitLines text)

end Diagnostics

end CueFront
