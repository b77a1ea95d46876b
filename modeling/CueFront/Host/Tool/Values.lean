import CueFront.Host.Format
import CueFront.Host.Tool.Search

/-!
# Values of expressions

`expr` evaluates one expression, a word for each operand and operator.  It evaluates while it
reads, so of two faults the one further to the left is reported.  A part whose value cannot
count is read and not evaluated.
-/

namespace CueFront

namespace Host

namespace Tool

namespace Value

/-- Reading an expression: the words that are left and the last one that was taken; what is
wrong ends it. -/
abbrev Reading := StateT (List Bytes × Bytes) (Except Bytes)

/-- Takes the next word, if there is one. -/
def take? : Reading (Option Bytes) := do
  match ← get with
  | ([], _) => return none
  | (word :: rest, _) => do
    set (rest, word)
    return some word

/-- Takes the next word if it is one of the given. -/
def takeOneOf? (words : List String) : Reading (Option String) := do
  match ← get with
  | ([], _) => return none
  | (word :: rest, _) =>
    match words.find? (utf8 · == word) with
    | none => return none
    | some found => do
      set (rest, word)
      return some found

/-- The fault of an expression that breaks off. -/
def missing : Reading Bytes := do
  throw (utf8 "syntax error: missing argument after " ++ quoted (← get).2)

/-! ## Calculating -/

/-- Whether a value counts as false: the empty text and zero do. -/
def isNull (value : Bytes) : Bool :=
  let digits := if value.head? == some Byte.hyphen then value.tail else value
  value.isEmpty || (!digits.isEmpty && digits.all (· == Byte.zero))

/-- The integer a text is. -/
def integer? (text : Bytes) : Option Int :=
  let digits := if text.head? == some Byte.hyphen then text.tail else text
  if Decimal.isNumeral digits then
    some (if text.head? == some Byte.hyphen then -(Decimal.value digits) else Decimal.value digits)
  else none

/-- The value of a truth. -/
def truth (b : Bool) : Bytes := if b then [Byte.one] else [Byte.zero]

/-- How many characters a text has. -/
def characters (text : Bytes) : Nat := (text.filter fun b => !(128 ≤ b && b < 192)).length

/-- What a text has in common with an expression at its start: its only group, or else how
many characters there are. -/
def matched (text expression : Bytes) : Reading Bytes := do
  match Expression.read? { anchored := true } [expression] with
  | none => throw (utf8 "Invalid regular expression")
  | some searcher =>
    let grouped := Bytes.contains (utf8 "\\(") expression
    match Expression.find? searcher text with
    | some found =>
      return if grouped then found.groups 1 else Decimal.digits (characters found.text)
    | none => return if grouped then [] else truth false

/-- The value of an operator with its operands. -/
def combine (operator : String) (left right : Bytes) : Reading Bytes := do
  let order : Ordering :=
    match integer? left, integer? right with
    | some a, some b => compare a b
    | _, _ => if left == right then .eq else if Bytes.precedes left right then .lt else .gt
  let calculate (f : Int → Int → Int) : Reading Bytes := do
    match integer? left, integer? right with
    | some a, some b => return Decimal.signed (f a b)
    | _, _ => throw (utf8 "non-integer argument")
  let divide (f : Int → Int → Int) : Reading Bytes := do
    if (integer? left).isSome && integer? right == some 0 then throw (utf8 "division by zero")
    calculate f
  match operator with
  | "|" => return if !isNull left then left else if isNull right then truth false else right
  | "&" => return if isNull left || isNull right then truth false else left
  | "<" => return truth (order == .lt)
  | "<=" => return truth (order != .gt)
  | "=" | "==" => return truth (order == .eq)
  | "!=" => return truth (order != .eq)
  | ">=" => return truth (order != .lt)
  | ">" => return truth (order == .gt)
  | "+" => calculate (· + ·)
  | "-" => calculate (· - ·)
  | "*" => calculate (· * ·)
  | "/" => divide Int.tdiv
  | "%" => divide Int.tmod
  | _ => matched left right

/-! ## Reading -/

/-- The operators by how tightly they bind, the loosest first. -/
def levels : List (List String) :=
  [["|"], ["&"], ["<", "<=", "=", "==", "!=", ">=", ">"], ["+", "-"], ["*", "/", "%"], [":"]]

/-- The place of the first byte of a text that is among others, counted from one. -/
def placeOf (among text : Bytes) : Nat :=
  match text.findIdx? fun b => among.any (· == b) with
  | some n => n + 1
  | none => 0

/-- The part of a text from a place on, with a length. -/
def part (text : Bytes) (place length : Option Int) : Bytes :=
  match place, length with
  | some place, some length =>
    if place ≤ 0 || length ≤ 0 then [] else (text.drop (place.toNat - 1)).take length.toNat
  | _, _ => []

mutual

/-- Reads operands that the operators of the given levels join.  The value counts only if
`counts` says so. -/
def readLevel : Nat → List (List String) → Bool → Reading Bytes
  | 0, _, _ => missing
  | fuel + 1, [], counts => readOperand fuel counts
  | fuel + 1, operators :: tighter, counts => do
    let first ← readLevel fuel tighter counts
    readMore fuel operators tighter counts first

/-- Goes on behind an operand. -/
def readMore : Nat → List String → List (List String) → Bool → Bytes → Reading Bytes
  | 0, _, _, _, value => return value
  | fuel + 1, operators, tighter, counts, left => do
    match ← takeOneOf? operators with
    | none => return left
    | some operator => do
      let needed :=
        match operator with
        | "|" => isNull left
        | "&" => !isNull left
        | _ => true
      let right ← readLevel fuel tighter (counts && needed)
      let value ← if counts then combine operator left right else pure left
      readMore fuel operators tighter counts value

/-- Reads an operand: a word, a function with its operands, or an expression in
parentheses. -/
def readOperand : Nat → Bool → Reading Bytes
  | 0, _ => missing
  | fuel + 1, counts => do
    match ← takeOneOf? ["+", "length", "match", "index", "substr", "(", ")"] with
    | some "+" => do
      match ← take? with
      | some word => return word
      | none => missing
    | some "length" => return Decimal.digits (characters (← readOperand fuel counts))
    | some "match" => do
      let text ← readOperand fuel counts
      let expression ← readOperand fuel counts
      if counts then matched text expression else return []
    | some "index" => do
      let text ← readOperand fuel counts
      return Decimal.digits (placeOf (← readOperand fuel counts) text)
    | some "substr" => do
      let text ← readOperand fuel counts
      let place ← readOperand fuel counts
      return part text (integer? place) (integer? (← readOperand fuel counts))
    | some "(" => do
      let value ← readLevel fuel levels counts
      let behind := (← get).2
      match ← take? with
      | none => throw (utf8 "syntax error: expecting ')' after " ++ quoted behind)
      | some word =>
        if word == [Byte.closeParen] then return value
        else throw (utf8 "syntax error: expecting ')' instead of " ++ quoted word)
    | some _ => throw (utf8 "syntax error: unexpected ')'")
    | none => do
      match ← take? with
      | some word => return word
      | none => missing

end

/-- The value of words that are one expression. -/
def ofWords (words : List Bytes) : Except Bytes Bytes := do
  let (value, rest, _) ← (readLevel (8 * (words.length + 2)) levels true).run (words, [])
  match rest with
  | [] => return value
  | word :: _ => throw (utf8 "syntax error: unexpected argument " ++ quoted word)

end Value

/-- Prints the value of an expression. -/
def expr : Tool := fun name arguments _ => do
  let words := if arguments.head? == some (utf8 "--") then arguments.tail else arguments
  if words.isEmpty then misuse name (utf8 "missing operand") 2
  else
    match Value.ofWords words with
    | .ok value => do
      say name (ended value)
      return if Value.isNull value then 1 else 0
    | .error problem => do
      complain name problem
      return 2

end Tool

end Host

end CueFront
