import CueFront.Decimal

/-!
# Shell arithmetic

Expressions over signed 64 bit numbers, with the operators of C.  The value of a variable
is read as a numeral.  Evaluating gives the value and the assignments made on the way.
-/

namespace CueFront

namespace Host

namespace Shell

namespace Arithmetic

/-- An arithmetic expression. -/
inductive Expr where
  /-- A number. -/
  | number (value : Int)
  /-- A variable. -/
  | named (name : Bytes)
  /-- An operator in front of an operand. -/
  | unary (operator : String) (operand : Expr)
  /-- An operator between operands. -/
  | binary (operator : String) (left right : Expr)
  /-- One of two values by a condition. -/
  | conditional (condition first second : Expr)
  /-- An assignment, with an operator if the old value counts. -/
  | assign (name : Bytes) (operator : Option String) (value : Expr)

/-! ## Numerals -/

/-- The value of digits to a base, and the text behind them. -/
def digitsTo (base : Nat) : Bytes → Nat → Nat × Bytes
  | [], value => (value, [])
  | b :: rest, value =>
    match Byte.hexValue? b with
    | some digit => if digit < base then digitsTo base rest (value * base + digit)
      else (value, b :: rest)
    | none => (value, b :: rest)

/-- The number at the start of a text that starts with a digit, and the text behind it. -/
def numeral (text : Bytes) : Nat × Bytes :=
  match text with
  | Byte.zero :: b :: rest =>
    if Byte.toLower b == Byte.of 'x' then digitsTo 16 rest 0 else digitsTo 8 (b :: rest) 0
  | _ => digitsTo 10 text 0

/-- The value of a whole text as a number. -/
def valueOf? (text : Bytes) : Option Int :=
  let text := text.dropWhile Byte.isSpace
  let (sign, text) :=
    match text with
    | Byte.hyphen :: rest => ((-1 : Int), rest)
    | Byte.plus :: rest => (1, rest)
    | _ => (1, text)
  match text with
  | [] => none
  | b :: _ =>
    if Byte.isDigit b then
      let (value, rest) := numeral text
      if rest.all Byte.isSpace then some (sign * value) else none
    else none

/-! ## Reading -/

/-- Operators, the longer ones first. -/
def operators : List String :=
  ["<<=", ">>=", "<<", ">>", "<=", ">=", "==", "!=", "&&", "||", "+=", "-=", "*=", "/=", "%=",
    "&=", "|=", "^=", "+", "-", "*", "/", "%", "<", ">", "&", "|", "^", "!", "~", "?", ":", "=",
    "(", ")"]

/-- The operator at the start of a text, and the text behind it. -/
def operator? (text : Bytes) : Option (String × Bytes) :=
  let text := text.dropWhile Byte.isSpace
  (operators.find? fun operator => (utf8 operator).isPrefixOf text).map fun operator =>
    (operator, text.drop operator.utf8ByteSize)

/-- How tight a binary operator binds. -/
def binding? (operator : String) : Option Nat :=
  [("||", 1), ("&&", 2), ("|", 3), ("^", 4), ("&", 5), ("==", 6), ("!=", 6), ("<", 7), (">", 7),
    ("<=", 7), (">=", 7), ("<<", 8), (">>", 8), ("+", 9), ("-", 9), ("*", 10), ("/", 10),
    ("%", 10)].lookup operator

/-- The operator inside an assignment operator. -/
def assigning? (operator : String) : Option (Option String) :=
  [("=", none), ("+=", some "+"), ("-=", some "-"), ("*=", some "*"), ("/=", some "/"),
    ("%=", some "%"), ("&=", some "&"), ("|=", some "|"), ("^=", some "^"), ("<<=", some "<<"),
    (">>=", some ">>")].lookup operator

/-- An expression and the text behind it, or what is wrong. -/
abbrev Read := Except Bytes (Expr × Bytes)

mutual

/-- Reads an operand. -/
def operand : Nat → Bytes → Read
  | 0, _ => .error (utf8 "expecting primary")
  | fuel + 1, text => do
    let text := text.dropWhile Byte.isSpace
    match text with
    | [] => .error (utf8 "expecting primary")
    | b :: _ =>
      if Byte.isDigit b then
        let (value, rest) := numeral text
        return (.number value, rest)
      else if Byte.isWord b then
        let name := text.takeWhile Byte.isWord
        return (.named name, text.drop name.length)
      else
        match operator? text with
        | some ("(", rest) =>
          let (expression, rest) ← expression fuel rest
          match operator? rest with
          | some (")", rest) => return (expression, rest)
          | _ => .error (utf8 "expecting ')'")
        | some (operator, rest) =>
          if operator == "-" || operator == "+" || operator == "!" || operator == "~" then
            let (inner, rest) ← operand fuel rest
            return (.unary operator inner, rest)
          else .error (utf8 "expecting primary")
        | none => .error (utf8 "expecting primary")

/-- Reads what follows an operand, with operators that bind at least so tight. -/
def operation : Nat → Nat → Expr → Bytes → Read
  | 0, _, left, text => return (left, text)
  | fuel + 1, least, left, text => do
    match operator? text with
    | some (operator, rest) =>
      match binding? operator with
      | some strength =>
        if strength < least then return (left, text)
        else
          let (right, rest) ← operand fuel rest
          let (right, rest) ← operation fuel (strength + 1) right rest
          operation fuel least (.binary operator left right) rest
      | none => return (left, text)
    | none => return (left, text)

/-- Reads an expression. -/
def expression : Nat → Bytes → Read
  | 0, _ => .error (utf8 "expecting primary")
  | fuel + 1, text => do
    let (first, rest) ← operand fuel text
    match first, operator? rest with
    | .named name, some (operator, behind) =>
      match assigning? operator with
      | some inner =>
        let (value, rest) ← expression fuel behind
        return (.assign name inner value, rest)
      | none => choice fuel first rest
    | _, _ => choice fuel first rest

/-- Reads what follows the first operand of an expression. -/
def choice : Nat → Expr → Bytes → Read
  | 0, first, text => return (first, text)
  | fuel + 1, first, text => do
    let (condition, rest) ← operation fuel 1 first text
    match operator? rest with
    | some ("?", rest) =>
      let (yes, rest) ← expression fuel rest
      match operator? rest with
      | some (":", rest) =>
        let (no, rest) ← expression fuel rest
        return (.conditional condition yes no, rest)
      | _ => .error (utf8 "expecting ':'")
    | _ => return (condition, rest)

end

/-- Reads a whole text. -/
def read (text : Bytes) : Except Bytes Expr := do
  if text.all Byte.isSpace then return .number 0
  let (result, rest) ← expression (4 * text.length + 8) text
  if rest.all Byte.isSpace then return result else .error (utf8 "expecting EOF")

/-! ## Evaluating -/

/-- The number as a signed 64 bit word holds it. -/
def wrap (n : Int) : Int := Int.bmod n 18446744073709551616

/-- The number of a truth value. -/
def truth (b : Bool) : Int := if b then 1 else 0

/-- The bits of a number. -/
def bits (n : Int) : Nat := (n % 18446744073709551616).toNat

/-- The value of an operator that looks at both sides. -/
def apply (operator : String) (a b : Int) : Except Bytes Int :=
  match operator with
  | "+" => .ok (wrap (a + b))
  | "-" => .ok (wrap (a - b))
  | "*" => .ok (wrap (a * b))
  | "/" => if b == 0 then .error (utf8 "division by zero") else .ok (wrap (a.tdiv b))
  | "%" => if b == 0 then .error (utf8 "division by zero") else .ok (wrap (a.tmod b))
  | "<<" => .ok (wrap (a * Nat.pow 2 (bits b % 64)))
  | ">>" => .ok (a.fdiv (Nat.pow 2 (bits b % 64)))
  | "<" => .ok (truth (a < b))
  | ">" => .ok (truth (a > b))
  | "<=" => .ok (truth (a ≤ b))
  | ">=" => .ok (truth (a ≥ b))
  | "==" => .ok (truth (a == b))
  | "!=" => .ok (truth (a != b))
  | "&" => .ok (wrap (Nat.land (bits a) (bits b)))
  | "|" => .ok (wrap (Nat.lor (bits a) (bits b)))
  | "^" => .ok (wrap (Nat.xor (bits a) (bits b)))
  | _ => .error (utf8 "expecting EOF")

/-- Values of variables, the latest first. -/
abbrev Assignments := List (Bytes × Int)

/-- The value of a variable. -/
def lookUp (values : Bytes → Option Bytes) (assigned : Assignments) (name : Bytes) :
    Except Bytes Int :=
  match assigned.lookup name with
  | some value => .ok value
  | none =>
    match values name with
    | none | some [] => .ok 0
    | some text =>
      match valueOf? text with
      | some value => .ok (wrap value)
      | none => .error (utf8 "Illegal number: " ++ text)

/-- The value of an expression, and the assignments so far. -/
def eval (values : Bytes → Option Bytes) (assigned : Assignments) :
    Expr → Except Bytes (Int × Assignments)
  | .number value => .ok (wrap value, assigned)
  | .named name => do return (← lookUp values assigned name, assigned)
  | .unary operator operand => do
    let (value, assigned) ← eval values assigned operand
    match operator with
    | "-" => return (wrap (-value), assigned)
    | "!" => return (truth (value == 0), assigned)
    | "~" => return (-value - 1, assigned)
    | _ => return (value, assigned)
  | .binary operator left right => do
    let (a, assigned) ← eval values assigned left
    if operator == "&&" then
      if a == 0 then return (0, assigned)
      let (b, assigned) ← eval values assigned right
      return (truth (b != 0), assigned)
    else if operator == "||" then
      if a != 0 then return (1, assigned)
      let (b, assigned) ← eval values assigned right
      return (truth (b != 0), assigned)
    else
      let (b, assigned) ← eval values assigned right
      return (← apply operator a b, assigned)
  | .conditional condition first second => do
    let (value, assigned) ← eval values assigned condition
    if value != 0 then eval values assigned first else eval values assigned second
  | .assign name operator value => do
    let (value, assigned) ← eval values assigned value
    match operator with
    | none => return (value, (name, value) :: assigned)
    | some operator =>
      let old ← lookUp values assigned name
      let value ← apply operator old value
      return (value, (name, value) :: assigned)

end Arithmetic

end Shell

end Host

end CueFront
