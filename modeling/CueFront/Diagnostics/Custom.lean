import CueFront.Diagnostics.Parser
import CueFront.Fault
import CueFront.Pattern.Matcher

/-!
# Positions by pattern

A caller may describe position lines by a pattern of its own.  The first group must capture
the line and the second the column, as plain numerals.  Lines beyond a length are refused
without being matched.
-/

namespace CueFront

namespace Diagnostics

/-- The longest line a pattern is tried on. -/
def longestLine : Nat := 4096

/-- Reads the captures of a match as a position. -/
def positionOfCaptures? (captures : Pattern.Captures) : Option Position := do
  some ⟨← Position.readOrdinal? (← captures.get? 1), ← Position.readOrdinal? (← captures.get? 2)⟩

/-- The position lines a pattern describes.  A pattern with fewer than two groups names no
position. -/
def matcherOf (pattern : Pattern.Readable) : Matcher :=
  let (node, _) := pattern.expr.unfold 0
  fun line =>
    if line.length ≤ longestLine && 2 ≤ pattern.groups then
      (node.matchLine? line).bind positionOfCaptures?
    else none

/-- The fault of a pattern that breaks the rules of the syntax. -/
def invalidPattern (pattern : Bytes) : Fault where
  category := .input
  message := utf8 "Invalid position pattern: " ++ pattern
  code := utf8 "invalid_position_pattern"
  cause := utf8 "malformed pattern"

/-- The position lines a written pattern describes. -/
def readMatcher (pattern : Bytes) : Except Fault Matcher :=
  match Pattern.read pattern with
  | .ok readable => .ok (matcherOf readable)
  | .error _ => .error (invalidPattern pattern)

end Diagnostics

end CueFront
