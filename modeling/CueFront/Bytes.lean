/-!
# Byte strings

Everything the front end reads or writes is a byte string: file names, arguments,
the tool's output, log lines.  Nothing here assumes an encoding.  A literal is
written as text and stands for its UTF-8 bytes.
-/

namespace CueFront

/-- A byte string. -/
abbrev Bytes := List UInt8

/-- The UTF-8 bytes of a text.  It reduces on literals, so `decide` compares them. -/
def utf8 (text : String) : Bytes := text.toUTF8.data.toList

/-! ## Single bytes -/

namespace Byte

/-- The backspace control. -/
@[match_pattern] abbrev backspace : UInt8 := 8

/-- The horizontal tab. -/
@[match_pattern] abbrev tab : UInt8 := 9

/-- Line feed. -/
@[match_pattern] abbrev lineFeed : UInt8 := 10

/-- The form feed. -/
@[match_pattern] abbrev formFeed : UInt8 := 12

/-- Carriage return. -/
@[match_pattern] abbrev carriageReturn : UInt8 := 13

/-- The escape control. -/
@[match_pattern] abbrev escape : UInt8 := 27

/-- The space. -/
@[match_pattern] abbrev space : UInt8 := 32

/-- The exclamation mark. -/
@[match_pattern] abbrev bang : UInt8 := 33

/-- The double quote. -/
@[match_pattern] abbrev doubleQuote : UInt8 := 34

/-- The number sign. -/
@[match_pattern] abbrev hash : UInt8 := 35

/-- The dollar sign. -/
@[match_pattern] abbrev dollar : UInt8 := 36

/-- The percent sign. -/
@[match_pattern] abbrev percent : UInt8 := 37

/-- The ampersand. -/
@[match_pattern] abbrev ampersand : UInt8 := 38

/-- The single quote. -/
@[match_pattern] abbrev singleQuote : UInt8 := 39

/-- The opening parenthesis. -/
@[match_pattern] abbrev openParen : UInt8 := 40

/-- The closing parenthesis. -/
@[match_pattern] abbrev closeParen : UInt8 := 41

/-- The asterisk. -/
@[match_pattern] abbrev star : UInt8 := 42

/-- The plus sign. -/
@[match_pattern] abbrev plus : UInt8 := 43

/-- The comma. -/
@[match_pattern] abbrev comma : UInt8 := 44

/-- The hyphen. -/
@[match_pattern] abbrev hyphen : UInt8 := 45

/-- The full stop. -/
@[match_pattern] abbrev dot : UInt8 := 46

/-- The slash that separates the parts of a path. -/
@[match_pattern] abbrev slash : UInt8 := 47

/-- The digit zero. -/
@[match_pattern] abbrev zero : UInt8 := 48

/-- The digit one. -/
@[match_pattern] abbrev one : UInt8 := 49

/-- The colon that separates the entries of a search path and the fields of a position. -/
@[match_pattern] abbrev colon : UInt8 := 58

/-- The semicolon. -/
@[match_pattern] abbrev semicolon : UInt8 := 59

/-- The less-than sign. -/
@[match_pattern] abbrev less : UInt8 := 60

/-- The equals sign. -/
@[match_pattern] abbrev equals : UInt8 := 61

/-- The greater-than sign. -/
@[match_pattern] abbrev greater : UInt8 := 62

/-- The question mark. -/
@[match_pattern] abbrev question : UInt8 := 63

/-- The at sign. -/
@[match_pattern] abbrev atSign : UInt8 := 64

/-- The opening square bracket. -/
@[match_pattern] abbrev openBracket : UInt8 := 91

/-- The backslash. -/
@[match_pattern] abbrev backslash : UInt8 := 92

/-- The closing square bracket. -/
@[match_pattern] abbrev closeBracket : UInt8 := 93

/-- The circumflex. -/
@[match_pattern] abbrev caret : UInt8 := 94

/-- The underscore. -/
@[match_pattern] abbrev underscore : UInt8 := 95

/-- The backquote. -/
@[match_pattern] abbrev backquote : UInt8 := 96

/-- The opening brace. -/
@[match_pattern] abbrev openBrace : UInt8 := 123

/-- The vertical bar. -/
@[match_pattern] abbrev bar : UInt8 := 124

/-- The closing brace. -/
@[match_pattern] abbrev closeBrace : UInt8 := 125

/-- The tilde. -/
@[match_pattern] abbrev tilde : UInt8 := 126

/-- The delete control. -/
@[match_pattern] abbrev delete : UInt8 := 127

/-- The byte of an ASCII character. -/
abbrev of (c : Char) : UInt8 := UInt8.ofNat c.toNat

/-- A decimal digit. -/
def isDigit (b : UInt8) : Bool := 48 ≤ b && b ≤ 57

/-- An upper case letter of ASCII. -/
def isUpper (b : UInt8) : Bool := 65 ≤ b && b ≤ 90

/-- A lower case letter of ASCII. -/
def isLower (b : UInt8) : Bool := 97 ≤ b && b ≤ 122

/-- A letter of ASCII. -/
def isAlpha (b : UInt8) : Bool := isUpper b || isLower b

/-- A letter or digit of ASCII. -/
def isAlphanumeric (b : UInt8) : Bool := isAlpha b || isDigit b

/-- A letter, a digit or the underscore. -/
def isWord (b : UInt8) : Bool := isAlphanumeric b || b == underscore

/-- White space of ASCII: the blank and the five controls from tab to carriage return. -/
def isSpace (b : UInt8) : Bool := b == space || (tab ≤ b && b ≤ carriageReturn)

/-- The lower case form of an ASCII letter; every other byte is kept. -/
def toLower (b : UInt8) : UInt8 := if isUpper b then b + 32 else b

/-- The upper case form of an ASCII letter; every other byte is kept. -/
def toUpper (b : UInt8) : UInt8 := if isLower b then b - 32 else b

/-- The value of a hexadecimal digit. -/
def hexValue? (b : UInt8) : Option Nat :=
  if isDigit b then some (b.toNat - 48)
  else if 65 ≤ b && b ≤ 70 then some (b.toNat - 55)
  else if 97 ≤ b && b ≤ 102 then some (b.toNat - 87)
  else none

/-- The lower case hexadecimal digit of a value below sixteen. -/
def hexDigit (n : Nat) : UInt8 := UInt8.ofNat (if n < 10 then 48 + n else 87 + n)

end Byte

/-! ## Searching and cutting -/

namespace Bytes

/-- What comes before the first NUL, the only part of a text that a name or an argument
can hold. -/
def untilNul (text : Bytes) : Bytes := text.takeWhile (· != 0)

/-- The text in front of the last `sep` and the text behind it. -/
def splitLast? (sep : UInt8) (text : Bytes) : Option (Bytes × Bytes) :=
  match text.reverse.span (· != sep) with
  | (_, []) => none
  | (behind, _ :: front) => some (front.reverse, behind.reverse)

/-- Whether `needle` occurs in `text`. -/
def contains (needle : Bytes) : Bytes → Bool
  | [] => needle.isEmpty
  | b :: rest => needle.isPrefixOf (b :: rest) || contains needle rest

/-- The pieces of a text between occurrences of `sep`.  There is one piece more than there
are separators, so the empty text has one empty piece. -/
def splitOn (sep : UInt8) (text : Bytes) : List Bytes :=
  text.foldr (fun b pieces =>
    match pieces with
    | [] => [[b]]
    | piece :: more => if b == sep then [] :: piece :: more else (b :: piece) :: more) [[]]

/-- The texts joined with `sep` between them. -/
def joinWith (sep : Bytes) (texts : List Bytes) : Bytes := sep.intercalate texts

/-- The order of byte strings, byte by byte. -/
def precedes : Bytes → Bytes → Bool
  | [], _ => true
  | _ :: _, [] => false
  | a :: as, b :: bs => if a == b then precedes as bs else a < b

end Bytes

end CueFront
