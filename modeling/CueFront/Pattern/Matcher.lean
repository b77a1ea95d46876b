import CueFront.Pattern.Node

/-!
# Matching

`Node.run` tries the ways a pattern can match in order of preference and stops at the first
that its continuation accepts: the left branch of an alternation before the right one, one
more pass before none, or none before one more when the repetition is lazy.

Three rules go beyond the usual ones.

* A place that repeats may be entered at one position twice, and no more.  So a body that
  matches the empty text ends its loop.
* A group keeps its last capture through later passes, and a back reference to a group that
  has none fails.
* Lookahead matches on its own: its start counts as the start of a line and of the text.
  What it captured stays captured, also when the match goes on to fail and another way is
  tried.

The last rule is why a failed attempt returns its captures too.
-/

namespace CueFront

namespace Pattern

/-! ## Captures -/

/-- The texts captured so far, by group. -/
abbrev Captures := List (Nat × Bytes)

namespace Captures

/-- The text a group captured. -/
def get? (captures : Captures) (index : Nat) : Option Bytes := captures.lookup index

/-- The captures without those of one group. -/
def forget (captures : Captures) (index : Nat) : Captures := captures.filter (·.1 != index)

/-- The captures with a new text for one group. -/
def put (captures : Captures) (index : Nat) (text : Bytes) : Captures :=
  (index, text) :: captures.forget index

/-- The captures with one group as it was before. -/
def restore (captures : Captures) (index : Nat) (before : Captures) : Captures :=
  match before.get? index with
  | some text => captures.put index text
  | none => captures.forget index

end Captures

/-! ## States of a match -/

/-- Where a place that repeats was entered last, and how often at that position. -/
structure Visit where
  /-- The number of the place. -/
  number : Nat
  /-- The position. -/
  position : Nat
  /-- How often. -/
  count : Nat
deriving DecidableEq, Repr

/-- A match in progress. -/
structure Thread where
  /-- The byte in front of the position, unless it is the start. -/
  previous : Option UInt8 := none
  /-- The text from the position on. -/
  rest : Bytes
  /-- The number of bytes in front of the position. -/
  position : Nat := 0
  /-- What the groups have captured. -/
  captures : Captures := []
  /-- The visits that led here. -/
  visits : List Visit := []

/-- The captures of a match, or those an attempt left behind when it failed. -/
abbrev Outcome := Except Captures Captures

/-- What remains to be matched. -/
abbrev Continuation := Thread → Outcome

namespace Thread

/-- A failed attempt at this point. -/
def fail (thread : Thread) : Outcome := .error thread.captures

/-- The thread behind the next byte, if there is one and the class accepts it. -/
def advance? (thread : Thread) (accepts : ByteClass) : Option Thread :=
  match thread.rest with
  | [] => none
  | b :: rest =>
    if accepts.has b then
      some { thread with previous := some b, rest, position := thread.position + 1 }
    else none

/-- The thread behind a given text, if it comes next. -/
def advanceOver? (thread : Thread) (text : Bytes) : Option Thread :=
  if text.isPrefixOf thread.rest then
    some { thread with
      previous := text.getLast?.or thread.previous
      rest := thread.rest.drop text.length
      position := thread.position + text.length }
  else none

/-- Whether a condition holds at this point. -/
def isAt (thread : Thread) : Anchor → Bool
  | .lineStart => thread.previous.isNone
  | .lineEnd => thread.rest.isEmpty
  | .wordEdge negated =>
    (thread.previous.any Byte.isWord != thread.rest.head?.any Byte.isWord) != negated

/-- The thread inside a place that repeats, unless it was entered here twice already. -/
def enter? (thread : Thread) (number : Nat) : Option Thread :=
  let others := thread.visits.filter (·.number != number)
  match thread.visits.find? (·.number == number) with
  | some visit =>
    if visit.position != thread.position then
      some { thread with visits := ⟨number, thread.position, 1⟩ :: others }
    else if visit.count < 2 then
      some { thread with visits := { visit with count := visit.count + 1 } :: others }
    else none
  | none => some { thread with visits := ⟨number, thread.position, 1⟩ :: others }

/-- More entries than one place can see from here on: two at each position. -/
def entryBound (thread : Thread) : Nat := 2 * (thread.rest.length + 1) + 1

end Thread

/-! ## Trying the ways to match -/

/-- Tries the first way, and the second with what the first left behind. -/
def preferring (thread : Thread) (first second : Continuation) : Outcome :=
  match first thread with
  | .ok captures => .ok captures
  | .error captures => second { thread with captures }

/-- Another pass through a body, or what follows, in order of preference. -/
def passOrLeave (number : Nat) (lazily : Bool) (pass leave : Continuation) (thread : Thread) :
    Outcome :=
  let again : Continuation := fun thread =>
    match thread.enter? number with
    | some thread => pass thread
    | none => thread.fail
  if lazily then preferring thread leave again else preferring thread again leave

/-- Passes through a body, given at least as many as can be entered. -/
def passes (number : Nat) (lazily : Bool) (body : Thread → Continuation → Outcome)
    (leave : Continuation) : Nat → Continuation
  | 0 => leave
  | bound + 1 =>
    passOrLeave number lazily (fun thread => body thread (passes number lazily body leave bound))
      leave

/-- Matches a node and then what follows. -/
def Node.run : Node → Thread → Continuation → Outcome
  | .empty, thread, next => next thread
  | .one accepts, thread, next =>
    match thread.advance? accepts with
    | some thread => next thread
    | none => thread.fail
  | .anchor place, thread, next => if thread.isAt place then next thread else thread.fail
  | .backref index, thread, next =>
    match (thread.captures.get? index).bind thread.advanceOver? with
    | some thread => next thread
    | none => thread.fail
  | .seq first second, thread, next => first.run thread fun thread => second.run thread next
  | .alt first second, thread, next =>
    preferring thread (fun thread => first.run thread next) fun thread => second.run thread next
  | .group index body, thread, next =>
    let outcome := body.run thread fun inner =>
      let text := thread.rest.take (inner.position - thread.position)
      next { inner with captures := inner.captures.put index text }
    outcome.mapError (·.restore index thread.captures)
  | .look negated body, thread, next =>
    match body.run { rest := thread.rest, captures := thread.captures }
        fun inner => .ok inner.captures with
    | .ok captures => if negated then .error captures else next { thread with captures }
    | .error _ => if negated then next thread else thread.fail
  | .loop number lazily body, thread, next =>
    passes number lazily body.run next thread.entryBound thread
  | .skip number lazily body, thread, next =>
    passOrLeave number lazily (fun thread => body.run thread next) next thread

/-- Accepts a match that has reached the end of the line. -/
def accept : Continuation := fun thread =>
  if thread.rest.isEmpty then .ok thread.captures else thread.fail

/-- The captures of a match of the whole line. -/
def Node.matchLine? (node : Node) (line : Bytes) : Option Captures :=
  (node.run { rest := line } accept).toOption

end Pattern

end CueFront
