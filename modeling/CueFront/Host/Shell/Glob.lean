import CueFront.Bytes

/-!
# Shell patterns

A pattern is a list of glyphs: bytes that know whether they stood in quotes.  A quoted byte
matches itself.  Unquoted, a star matches any text, a question mark any byte, and a bracket
opens a set of bytes.
-/

namespace CueFront

namespace Host

namespace Shell

/-- A byte, and whether it stood in quotes. -/
abbrev Glyph := UInt8 × Bool

/-- Bytes that all stood in quotes, or all did not. -/
def glyphs (quoted : Bool) (bytes : Bytes) : List Glyph := bytes.map (·, quoted)

namespace Glob

/-- Whether a byte is in a named class. -/
def inClass (name : Bytes) (b : UInt8) : Bool :=
  let isPrint := 32 ≤ b && b < 127
  let tests : List (String × Bool) :=
    [("alpha", Byte.isAlpha b), ("digit", Byte.isDigit b), ("alnum", Byte.isAlphanumeric b),
      ("upper", Byte.isUpper b), ("lower", Byte.isLower b), ("space", Byte.isSpace b),
      ("blank", b == Byte.space || b == Byte.tab), ("cntrl", b < 32 || b == Byte.delete),
      ("print", isPrint), ("graph", isPrint && b != Byte.space),
      ("punct", isPrint && b != Byte.space && !Byte.isAlphanumeric b),
      ("xdigit", (Byte.hexValue? b).isSome)]
  tests.any fun test => utf8 test.1 == name && test.2

/-- A set of bytes that a bracket opens: the test, and the pattern behind the set. -/
def set? (fuel : Nat) (pattern : List Glyph) (first : Bool) (test : UInt8 → Bool) :
    Option ((UInt8 → Bool) × List Glyph) :=
  match fuel with
  | 0 => none
  | fuel + 1 =>
    match pattern with
    | [] => none
    | (93, false) :: rest =>
      if first then set? fuel rest false fun b => test b || b == Byte.closeBracket
      else some (test, rest)
    | (91, false) :: (58, _) :: rest =>
      let name := (rest.takeWhile (·.1 != Byte.colon)).map (·.1)
      match rest.drop name.length with
      | (58, _) :: (93, _) :: rest => set? fuel rest false fun b => test b || inClass name b
      | _ => set? fuel ((Byte.colon, true) :: rest) false fun b => test b || b == Byte.openBracket
    | (low, _) :: (45, false) :: (high, quoted) :: rest =>
      if high == Byte.closeBracket && !quoted then
        set? fuel ((45, true) :: (high, quoted) :: rest) false fun b => test b || b == low
      else set? fuel rest false fun b => test b || (low ≤ b && b ≤ high)
    | (member, _) :: rest => set? fuel rest false fun b => test b || b == member

/-- Whether a pattern matches a text, given at least as many steps as the pattern is long. -/
def matchFrom : Nat → List Glyph → Bytes → Bool
  | 0, _, _ => false
  | _ + 1, [], text => text.isEmpty
  | fuel + 1, (glyph, quoted) :: rest, text =>
    let literally :=
      match text with
      | b :: text => b == glyph && matchFrom fuel rest text
      | [] => false
    if quoted then literally
    else if glyph == Byte.star then
      (List.range (text.length + 1)).any fun count => matchFrom fuel rest (text.drop count)
    else if glyph == Byte.question then
      match text with
      | _ :: text => matchFrom fuel rest text
      | [] => false
    else if glyph == Byte.openBracket then
      let (negated, members) :=
        match rest with
        | (33, false) :: more | (94, false) :: more => (true, more)
        | _ => (false, rest)
      match set? (members.length + 1) members true fun _ => false with
      | some (test, behind) =>
        match text with
        | b :: text => test b != negated && matchFrom fuel behind text
        | [] => false
      | none => literally
    else literally

/-- Whether a pattern matches a text. -/
def fits (pattern : List Glyph) (text : Bytes) : Bool := matchFrom (pattern.length + 1) pattern text

/-- Whether a pattern has anything in it that does not stand for itself. -/
def isActive (pattern : List Glyph) : Bool :=
  pattern.any fun (b, quoted) =>
    !quoted && (b == Byte.star || b == Byte.question || b == Byte.openBracket)

/-- The text without the shortest or longest match at its start. -/
def trimStart (longest : Bool) (pattern : List Glyph) (text : Bytes) : Bytes :=
  let counts := List.range (text.length + 1)
  let counts := if longest then counts.reverse else counts
  match counts.find? fun count => fits pattern (text.take count) with
  | some count => text.drop count
  | none => text

/-- The text without the shortest or longest match at its end. -/
def trimEnd (longest : Bool) (pattern : List Glyph) (text : Bytes) : Bytes :=
  let counts := List.range (text.length + 1)
  let counts := if longest then counts else counts.reverse
  match counts.find? fun count => fits pattern (text.drop count) with
  | some count => text.take count
  | none => text

end Glob

end Shell

end Host

end CueFront
