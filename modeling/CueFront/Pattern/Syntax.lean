import CueFront.Bytes

/-!
# Patterns

The syntax of the patterns a caller may supply in place of the built-in position lines.
They are regular expressions over bytes, with captures, back references and lookahead.
`ByteClass` says which bytes an item accepts.  The order of bytes in a range is that of
signed bytes, so a range never runs from ASCII into the upper half.
-/

namespace CueFront

namespace Pattern

/-! ## Classes of bytes -/

/-- The classes that have a name in brackets. -/
inductive ClassName where
  /-- Digits. -/
  | digit
  /-- Letters, digits and the underscore. -/
  | word
  /-- Blanks and ends of lines. -/
  | space
  /-- Letters and digits. -/
  | alnum
  /-- Letters. -/
  | alpha
  /-- The space and the tab. -/
  | blank
  /-- Bytes that control. -/
  | cntrl
  /-- Bytes that are seen. -/
  | graph
  /-- Small letters. -/
  | lower
  /-- Bytes that are seen, and the space. -/
  | print
  /-- Bytes that are seen and are no letters or digits. -/
  | punct
  /-- Capital letters. -/
  | upper
  /-- Hexadecimal digits. -/
  | xdigit
deriving DecidableEq, Repr

namespace ClassName

/-- Whether a byte belongs to the class.  Only ASCII bytes belong to any. -/
def has : ClassName → UInt8 → Bool
  | .digit, b => Byte.isDigit b
  | .word, b => Byte.isWord b
  | .space, b => Byte.isSpace b
  | .alnum, b => Byte.isAlphanumeric b
  | .alpha, b => Byte.isAlpha b
  | .blank, b => b == Byte.space || b == Byte.tab
  | .cntrl, b => b < 32 || b == Byte.delete
  | .graph, b => 33 ≤ b && b ≤ 126
  | .lower, b => Byte.isLower b
  | .print, b => 32 ≤ b && b ≤ 126
  | .punct, b => 33 ≤ b && b ≤ 126 && !Byte.isAlphanumeric b
  | .upper, b => Byte.isUpper b
  | .xdigit, b => (Byte.hexValue? b).isSome

/-- The class a bracketed name stands for.  Letters count as lower case. -/
def ofName? (name : Bytes) : Option ClassName :=
  let table : List (Bytes × ClassName) :=
    [(utf8 "d", .digit), (utf8 "w", .word), (utf8 "s", .space), (utf8 "alnum", .alnum),
      (utf8 "alpha", .alpha), (utf8 "blank", .blank), (utf8 "cntrl", .cntrl),
      (utf8 "digit", .digit), (utf8 "graph", .graph), (utf8 "lower", .lower),
      (utf8 "print", .print), (utf8 "punct", .punct), (utf8 "space", .space),
      (utf8 "upper", .upper), (utf8 "xdigit", .xdigit)]
  table.lookup (name.map Byte.toLower)

end ClassName

/-- One member of a bracket expression. -/
inductive BracketItem where
  /-- A single byte. -/
  | byte (b : UInt8)
  /-- The bytes from one to another, both included. -/
  | range (first last : UInt8)
  /-- A named class, or what is outside it. -/
  | named (name : ClassName) (negated : Bool)
  /-- A letter in either case, or another byte as it is. -/
  | alike (b : UInt8)
deriving DecidableEq, Repr

/-- Whether a byte is one of those a member stands for. -/
def BracketItem.has : BracketItem → UInt8 → Bool
  | .byte c, b => b == c
  | .range first last, b => first.toInt8 ≤ b.toInt8 && b.toInt8 ≤ last.toInt8
  | .named name negated, b => name.has b != negated
  | .alike c, b => Byte.toLower b == Byte.toLower c

/-- The bytes one item of a pattern accepts. -/
inductive ByteClass where
  /-- A single byte. -/
  | byte (b : UInt8)
  /-- Every byte that does not end a line. -/
  | any
  /-- A named class, or what is outside it. -/
  | named (name : ClassName) (negated : Bool)
  /-- A bracket expression, or what is outside it. -/
  | bracket (negated : Bool) (items : List BracketItem)
deriving DecidableEq, Repr

/-- Whether a class accepts a byte. -/
def ByteClass.has : ByteClass → UInt8 → Bool
  | .byte c, b => b == c
  | .any, b => b != Byte.lineFeed && b != Byte.carriageReturn
  | .named name negated, b => name.has b != negated
  | .bracket negated items, b => items.any (·.has b) != negated

/-! ## Expressions -/

/-- A condition on a place in the line. -/
inductive Anchor where
  /-- The start of the line. -/
  | lineStart
  /-- The end of the line. -/
  | lineEnd
  /-- The edge of a word, or a place that is none. -/
  | wordEdge (negated : Bool)
deriving DecidableEq, Repr

/-- How often an expression is repeated. -/
inductive Times where
  /-- Any number of times. -/
  | star
  /-- At least once. -/
  | plus
  /-- Once or not at all. -/
  | optional
  /-- At least `least` times, and at most `most` times if that is given. -/
  | between (least : Nat) (most : Option Nat)
deriving DecidableEq, Repr

/-- A pattern. -/
inductive Expr where
  /-- Nothing is consumed. -/
  | empty
  /-- One byte of a class. -/
  | one (accepts : ByteClass)
  /-- A place in the line. -/
  | anchor (place : Anchor)
  /-- The text of a group once more. -/
  | backref (index : Nat)
  /-- One after the other. -/
  | seq (first second : Expr)
  /-- The first, or else the second. -/
  | alt (first second : Expr)
  /-- A group that keeps its text. -/
  | group (index : Nat) (body : Expr)
  /-- A look ahead. -/
  | look (negated : Bool) (body : Expr)
  /-- A repetition.  A lazy one prefers fewer passes. -/
  | rep (times : Times) (lazily : Bool) (body : Expr)
deriving DecidableEq, Repr

end Pattern

end CueFront
