import CueFront.Pattern.Syntax
import CueFront.Decimal

/-!
# Tokens of a pattern

`next?` takes one token off the front of a pattern.  The same byte means different things
in a bracket expression, in a repeat count and elsewhere, so the scanner has a mode and a
token may change it.  A pattern that cannot be cut into tokens is malformed.
-/

namespace CueFront

namespace Pattern

/-- A pattern breaks the rules of the syntax. -/
inductive Malformed where
  /-- The pattern breaks a rule. -/
  | malformed
deriving DecidableEq, Repr

/-- Where the scanner is. -/
inductive Mode where
  /-- Outside of brackets and braces. -/
  | plain
  /-- In brackets. -/
  | bracket
  /-- In braces. -/
  | brace
deriving DecidableEq, Repr

/-- How a parenthesis opens. -/
inductive Opening where
  /-- A group that captures. -/
  | capture
  /-- A group that does not. -/
  | plain
  /-- Text that must follow, or must not. -/
  | look (negated : Bool)
deriving DecidableEq, Repr

/-- A token. -/
inductive Token where
  /-- A byte that stands for itself. -/
  | byte (b : UInt8)
  /-- Any byte but an end of line. -/
  | any
  /-- A class by a letter behind a backslash. -/
  | quotedClass (name : ClassName) (negated : Bool)
  /-- A back reference. -/
  | backref (index : Nat)
  /-- A place in the line. -/
  | anchor (place : Anchor)
  /-- The start of a group. -/
  | opening (kind : Opening)
  /-- The end of a group. -/
  | closing
  /-- The sign between alternatives. -/
  | bar
  /-- Any number of times. -/
  | star
  /-- At least once. -/
  | plus
  /-- At most once, or the lazy mark. -/
  | question
  /-- The start of a count. -/
  | braceOpen
  /-- The end of a count. -/
  | braceClose
  /-- A number in a count. -/
  | count (n : Nat)
  /-- The comma in a count. -/
  | comma
  /-- The start of a class. -/
  | bracketOpen (negated : Bool)
  /-- The end of a class. -/
  | bracketClose
  /-- The sign of a range. -/
  | dash
  /-- A class by its name. -/
  | className (name : Bytes)
  /-- A byte by its name. -/
  | collating (name : Bytes)
  /-- The bytes that are equal to one. -/
  | equivalence (name : Bytes)
deriving DecidableEq, Repr

/-- A token, the mode after it and the rest of the pattern. -/
abbrev Scanned := Token × Mode × Bytes

/-- The largest number a count or a back reference may name. -/
def largestNumber : Nat := 2147483647

/-- The number at the front of a text that starts with the digit `d`. -/
def scanNumber (d : UInt8) (rest : Bytes) : Except Malformed (Nat × Bytes) :=
  match Decimal.readUpTo? largestNumber (d :: rest.takeWhile Byte.isDigit) with
  | some n => .ok (n, rest.dropWhile Byte.isDigit)
  | none => .error .malformed

/-- The byte a hexadecimal number names.  Longer numbers keep their low eight bits. -/
def scanHex : Nat → Nat → Bytes → Except Malformed (UInt8 × Bytes)
  | 0, n, rest => .ok (UInt8.ofNat n, rest)
  | _ + 1, _, [] => .error .malformed
  | k + 1, n, b :: rest =>
    match Byte.hexValue? b with
    | some d => scanHex k (16 * n + d) rest
    | none => .error .malformed

/-- The control byte a letter behind a backslash stands for. -/
def controlByte? (b : UInt8) : Option UInt8 :=
  ([('0', 0), ('b', 8), ('f', 12), ('n', 10), ('r', 13), ('t', 9), ('v', 11)].map
    fun entry => (Byte.of entry.1, entry.2)).lookup b

/-- The class a letter behind a backslash stands for: an upper case letter negates it. -/
def quotedClass? (b : UInt8) : Option Token :=
  ([(Byte.of 'd', .digit), (Byte.of 's', .space), (Byte.of 'w', .word)].lookup
    (Byte.toLower b)).map
    (.quotedClass · (Byte.isUpper b))

/-- The token behind a backslash. -/
def scanEscape (mode : Mode) : Bytes → Except Malformed Scanned
  | [] => .error .malformed
  | b :: rest =>
    match controlByte? b, quotedClass? b with
    | some c, _ =>
      if b == Byte.of 'b' && mode != .bracket then .ok (.anchor (.wordEdge false), mode, rest)
      else .ok (.byte c, mode, rest)
    | none, some token => .ok (token, mode, rest)
    | none, none =>
      if b == Byte.of 'B' then .ok (.anchor (.wordEdge true), mode, rest)
      else if b == Byte.of 'c' then
        match rest with
        | [] => .error .malformed
        | c :: rest => .ok (.byte c, mode, rest)
      else if b == Byte.of 'x' || b == Byte.of 'u' then do
        let (c, rest) ← scanHex (if b == Byte.of 'x' then 2 else 4) 0 rest
        .ok (.byte c, mode, rest)
      else if Byte.isDigit b then do
        let (n, rest) ← scanNumber b rest
        .ok (.backref n, mode, rest)
      else .ok (.byte b, mode, rest)

/-- The token of an opening parenthesis. -/
def scanOpening : Bytes → Except Malformed Scanned
  | Byte.question :: Byte.colon :: rest => .ok (.opening .plain, .plain, rest)
  | Byte.question :: Byte.equals :: rest => .ok (.opening (.look false), .plain, rest)
  | Byte.question :: Byte.bang :: rest => .ok (.opening (.look true), .plain, rest)
  | Byte.question :: _ => .error .malformed
  | rest => .ok (.opening .capture, .plain, rest)

/-- The token outside brackets and braces that starts with `b`. -/
def scanPlain (b : UInt8) (rest : Bytes) : Except Malformed Scanned :=
  match b with
  | Byte.backslash => scanEscape .plain rest
  | Byte.openParen => scanOpening rest
  | Byte.closeParen => .ok (.closing, .plain, rest)
  | Byte.openBracket =>
    match rest with
    | Byte.caret :: rest => .ok (.bracketOpen true, .bracket, rest)
    | rest => .ok (.bracketOpen false, .bracket, rest)
  | Byte.openBrace => .ok (.braceOpen, .brace, rest)
  | Byte.caret => .ok (.anchor .lineStart, .plain, rest)
  | Byte.dollar => .ok (.anchor .lineEnd, .plain, rest)
  | Byte.dot => .ok (.any, .plain, rest)
  | Byte.star => .ok (.star, .plain, rest)
  | Byte.plus => .ok (.plus, .plain, rest)
  | Byte.question => .ok (.question, .plain, rest)
  | Byte.bar => .ok (.bar, .plain, rest)
  | b => .ok (.byte b, .plain, rest)

/-- The name between a bracket with a mark and the same mark with a bracket. -/
def scanName (mark : UInt8) (token : Bytes → Token) (rest : Bytes) : Except Malformed Scanned :=
  match rest.dropWhile (· != mark) with
  | _ :: Byte.closeBracket :: after => .ok (token (rest.takeWhile (· != mark)), .bracket, after)
  | _ => .error .malformed

/-- The token inside brackets that starts with `b`. -/
def scanBracket (b : UInt8) (rest : Bytes) : Except Malformed Scanned :=
  match b with
  | Byte.hyphen => .ok (.dash, .bracket, rest)
  | Byte.openBracket =>
    match rest with
    | [] => .error .malformed
    | Byte.dot :: rest => scanName Byte.dot .collating rest
    | Byte.colon :: rest => scanName Byte.colon .className rest
    | Byte.equals :: rest => scanName Byte.equals .equivalence rest
    | rest => .ok (.byte b, .bracket, rest)
  | Byte.closeBracket => .ok (.bracketClose, .plain, rest)
  | Byte.backslash => scanEscape .bracket rest
  | b => .ok (.byte b, .bracket, rest)

/-- The token inside a repeat count that starts with `b`. -/
def scanBrace (b : UInt8) (rest : Bytes) : Except Malformed Scanned :=
  if Byte.isDigit b then do
    let (n, rest) ← scanNumber b rest
    .ok (.count n, .brace, rest)
  else
    match b with
    | Byte.comma => .ok (.comma, .brace, rest)
    | Byte.closeBrace => .ok (.braceClose, .plain, rest)
    | _ => .error .malformed

/-- The first token of a pattern, if any is left. -/
def next? (mode : Mode) : Bytes → Option (Except Malformed Scanned)
  | [] => none
  | b :: rest =>
    some <| match mode with
      | .plain => scanPlain b rest
      | .bracket => scanBracket b rest
      | .brace => scanBrace b rest

/-- The tokens of a pattern, given at least as many steps as it has bytes. -/
def tokensWithin : Nat → Mode → Bytes → Except Malformed (List Token)
  | 0, _, _ => .ok []
  | steps + 1, mode, text =>
    match next? mode text with
    | none => .ok []
    | some scanned => do
      let (token, mode, rest) ← scanned
      return token :: (← tokensWithin steps mode rest)

/-- The tokens of a pattern.  Every token takes at least one byte. -/
def tokens (pattern : Bytes) : Except Malformed (List Token) :=
  tokensWithin pattern.length .plain pattern

end Pattern

end CueFront
