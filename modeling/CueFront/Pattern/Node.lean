import CueFront.Pattern.Reader

/-!
# Nodes

A pattern ready for matching.  Counted repetitions are unfolded into copies, and every
place where a pass may be repeated or skipped has a number of its own, so a matcher can
count its visits.  One or more passes share their body with the passes that follow.
-/

namespace CueFront

namespace Pattern

/-- A pattern with its repetitions unfolded. -/
inductive Node where
  /-- Nothing is consumed. -/
  | empty
  /-- One byte of a class. -/
  | one (accepts : ByteClass)
  /-- A place in the line. -/
  | anchor (place : Anchor)
  /-- The text of a group once more. -/
  | backref (index : Nat)
  /-- One after the other. -/
  | seq (first second : Node)
  /-- The first, or else the second. -/
  | alt (first second : Node)
  /-- A group that keeps its text. -/
  | group (index : Nat) (body : Node)
  /-- A look ahead. -/
  | look (negated : Bool) (body : Node)
  /-- Any number of passes. -/
  | loop (number : Nat) (lazily : Bool) (body : Node)
  /-- One pass, or none. -/
  | skip (number : Nat) (lazily : Bool) (body : Node)
deriving DecidableEq, Repr

/-- Builds a node, given the next free number, and says which is free after it. -/
abbrev Numbered := Nat → Node × Nat

/-- A number of copies, one after the other, each with its own numbers. -/
def copies (body : Numbered) : Nat → Numbered
  | 0, n => (.empty, n)
  | 1, n => body n
  | count + 1, n =>
    let (first, n) := body n
    let (others, n) := copies body count n
    (.seq first others, n)

/-- At most a number of copies: each is skipped together with those behind it. -/
def upTo (body : Numbered) (lazily : Bool) : Nat → Numbered
  | 0, n => (.empty, n)
  | count + 1, n =>
    let (first, next) := body (n + 1)
    let (others, next) := upTo body lazily count next
    (.skip n lazily (.seq first others), next)

/-- One sequence of two builders. -/
def inSequence (first second : Numbered) : Numbered := fun n =>
  let (a, n) := first n
  let (b, n) := second n
  (.seq a b, n)

/-- The passes of a repetition. -/
def repetition (times : Times) (lazily : Bool) (body : Numbered) : Numbered := fun n =>
  match times with
  | .star =>
    let (pass, next) := body (n + 1)
    (.loop n lazily pass, next)
  | .plus =>
    let (pass, next) := body (n + 1)
    (.seq pass (.loop n lazily pass), next)
  | .optional =>
    let (pass, next) := body (n + 1)
    (.skip n lazily pass, next)
  | .between least none =>
    inSequence (copies body least)
      (fun n =>
        let (pass, next) := body (n + 1)
        (.loop n lazily pass, next)) n
  | .between least (some most) => inSequence (copies body least) (upTo body lazily (most - least)) n

/-- Unfolds an expression. -/
def Expr.unfold : Expr → Numbered
  | .empty, n => (.empty, n)
  | .one accepts, n => (.one accepts, n)
  | .anchor place, n => (.anchor place, n)
  | .backref index, n => (.backref index, n)
  | .seq first second, n => inSequence first.unfold second.unfold n
  | .alt first second, n =>
    let (a, n) := first.unfold n
    let (b, n) := second.unfold n
    (.alt a b, n)
  | .group index body, n =>
    let (body, n) := body.unfold n
    (.group index body, n)
  | .look negated body, n =>
    let (body, n) := body.unfold n
    (.look negated body, n)
  | .rep times lazily body, n => repetition times lazily body.unfold n

end Pattern

end CueFront
