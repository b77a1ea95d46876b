import CueFront.Bytes

/-!
# Decimal numerals

Line numbers, columns, timeouts and exit codes are written in decimal.  `value` reads a
string of digits as a natural number, `digits` writes one, and `readUpTo?` is `value` with
a bound: it refuses the empty string, any byte that is no digit, and any number above the
bound, however long the string is.
-/

namespace CueFront

namespace Decimal

/-- The number a string of digits denotes, most significant digit first. -/
def value (numeral : Bytes) : Nat := numeral.foldl (fun n b => 10 * n + (b.toNat - 48)) 0

/-- The decimal numeral of a number, without leading zeros. -/
def digits (n : Nat) : Bytes :=
  if n < 10 then [UInt8.ofNat (48 + n)] else digits (n / 10) ++ [UInt8.ofNat (48 + n % 10)]

/-- The numeral of an integer, with a hyphen in front of a negative one. -/
def signed (n : Int) : Bytes :=
  if n < 0 then Byte.hyphen :: digits n.natAbs else digits n.natAbs

/-- Whether the text is a numeral: digits only, and at least one. -/
def isNumeral (text : Bytes) : Bool := !text.isEmpty && text.all Byte.isDigit

/-- One step of bounded reading.  A value above the bound is kept as it is, so a long numeral
costs no more than its length. -/
def extend (bound n : Nat) (b : UInt8) : Nat :=
  if n > bound then n else 10 * n + (b.toNat - 48)

/-- The number a numeral denotes, if it is a numeral and does not exceed the bound. -/
def readUpTo? (bound : Nat) (text : Bytes) : Option Nat :=
  if isNumeral text then
    let n := text.foldl (extend bound) 0
    if n ≤ bound then some n else none
  else none

end Decimal

end CueFront
