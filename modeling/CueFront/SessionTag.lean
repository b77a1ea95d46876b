import CueFront.Bytes

/-!
# Session tags

Every run of the program gets a tag that its log lines carry: a fixed word and eight
hexadecimal digits drawn at random.
-/

namespace CueFront

namespace SessionTag

/-- What every tag starts with. -/
def lead : Bytes := utf8 "cue-"

/-- The number of digits. -/
def length : Nat := 8

/-- The last hexadecimal digits of a number, `count` of them. -/
def hexDigits : Nat → Nat → Bytes
  | 0, _ => []
  | count + 1, n => hexDigits count (n / 16) ++ [Byte.hexDigit (n % 16)]

/-- The tag for a number drawn at random. -/
def ofNumber (drawn : Nat) : Bytes := lead ++ hexDigits length drawn

/-- A lower case hexadecimal digit. -/
def isHexDigit (b : UInt8) : Bool := Byte.isDigit b || (97 ≤ b && b ≤ 102)

/-- Whether a text has the form of a tag. -/
def isWellFormed (tag : Bytes) : Bool :=
  lead.isPrefixOf tag && tag.length == lead.length + length && (tag.drop lead.length).all isHexDigit

end SessionTag

end CueFront
