import CueFront.Host.Code
import CueFront.Host.Shell.Arithmetic

/-!
# Conditions

A condition compares texts and numbers and asks about files.  It is read from a list of
arguments; asking about files takes calls to the host.

Reading never fails: what cannot be read becomes a condition that is wrong, and the answer is
the first thing that goes wrong when all parts are asked from left to right.
-/

namespace CueFront

namespace Host

/-- A condition. -/
inductive Condition where
  /-- A text is not empty. -/
  | filled (text : Bytes)
  /-- A question about one argument, by its letter. -/
  | about (letter : UInt8) (argument : Bytes)
  /-- A comparison of two arguments. -/
  | compare (operator : String) (left right : Bytes)
  /-- A condition does not hold. -/
  | negation (condition : Condition)
  /-- Two conditions hold. -/
  | both (first second : Condition)
  /-- At least one of two conditions holds. -/
  | either (first second : Condition)
  /-- Something that is no condition. -/
  | wrong (problem : Bytes)
deriving Repr

namespace Condition

/-! ## Arguments -/

/-- What an argument can be in a condition. -/
inductive Lexeme where
  /-- There is no argument. -/
  | finish
  /-- A text. -/
  | operand
  /-- A question about the next argument. -/
  | question (letter : UInt8)
  /-- A comparison of its neighbours. -/
  | comparison (operator : String)
  /-- The sign for "not". -/
  | not
  /-- The sign for "and". -/
  | and
  /-- The sign for "or". -/
  | or
  /-- An opening parenthesis. -/
  | opening
  /-- A closing parenthesis. -/
  | closing
deriving DecidableEq, Repr

/-- The letters of questions about one argument. -/
def letters : Bytes := utf8 "rwxefdcbpugkstznhOGLS"

/-- The comparisons of two arguments. -/
def comparisons : List String :=
  ["=", "!=", "<", ">", "-eq", "-ne", "-lt", "-le", "-gt", "-ge", "-ef", "-nt", "-ot"]

/-- The comparison a text stands for. -/
def comparison? (text : Bytes) : Option String := comparisons.find? (utf8 · == text)

/-- What a text is by itself. -/
def sign (text : Bytes) : Lexeme :=
  match comparison? text with
  | some operator => .comparison operator
  | none =>
    if text == utf8 "!" then .not
    else if text == utf8 "-a" then .and
    else if text == utf8 "-o" then .or
    else if text == utf8 "(" then .opening
    else if text == utf8 ")" then .closing
    else
      match text with
      | [45, letter] => if letters.any (· == letter) then .question letter else .operand
      | _ => .operand

/-- Whether a sign in front of these arguments would have nothing to ask about. -/
def leavesNothing : List Bytes → Bool
  | [] => true
  | [_] => false
  | text :: _ => (comparison? text).isSome

/-- What the first of some arguments is where it stands. -/
def lexeme : List Bytes → Lexeme
  | [] => .finish
  | text :: rest =>
    match sign text with
    | .question letter => if leavesNothing rest then .operand else .question letter
    | .opening => if rest.isEmpty then .operand else .opening
    | other => other

/-! ## Reading -/

/-- A condition, and the arguments from the last one that belongs to it. -/
abbrev Read := Condition × List Bytes

mutual

/-- Reads conditions joined by "or"; what the first argument is, is given. -/
def readEither : Nat → Lexeme → List Bytes → Read
  | 0, _, arguments => (.wrong (utf8 "too many arguments"), arguments)
  | fuel + 1, first, arguments =>
    let (condition, arguments) := readBoth fuel first arguments
    if lexeme arguments.tail == .or then
      let behind := arguments.drop 2
      let (other, arguments) := readEither fuel (lexeme behind) behind
      (.either condition other, arguments)
    else (condition, arguments)

/-- Reads conditions joined by "and". -/
def readBoth : Nat → Lexeme → List Bytes → Read
  | 0, _, arguments => (.wrong (utf8 "too many arguments"), arguments)
  | fuel + 1, first, arguments =>
    let (condition, arguments) := readNegated fuel first arguments
    if lexeme arguments.tail == .and then
      let behind := arguments.drop 2
      let (other, arguments) := readBoth fuel (lexeme behind) behind
      (.both condition other, arguments)
    else (condition, arguments)

/-- Reads a condition with the signs in front that turn it round. -/
def readNegated : Nat → Lexeme → List Bytes → Read
  | 0, _, arguments => (.wrong (utf8 "too many arguments"), arguments)
  | fuel + 1, first, arguments =>
    if first == .not then
      let next := lexeme arguments.tail
      let behind := if next == .finish then arguments else arguments.tail
      let (condition, arguments) := readNegated fuel next behind
      (.negation condition, arguments)
    else readSingle fuel first arguments

/-- Reads one condition. -/
def readSingle : Nat → Lexeme → List Bytes → Read
  | 0, _, arguments => (.wrong (utf8 "too many arguments"), arguments)
  | fuel + 1, first, arguments =>
    match first with
    | .finish => (.filled [], arguments)
    | .opening =>
      let inside := arguments.tail
      if lexeme inside == .closing then (.filled [], inside)
      else
        let (condition, arguments) := readEither fuel (lexeme inside) inside
        if lexeme arguments.tail == .closing then (condition, arguments.tail)
        else (.both condition (.wrong (utf8 "closing paren expected")), [])
    | .question letter =>
      match arguments.tail with
      | [] => (.wrong (arguments.headD [] ++ utf8 ": argument expected"), [])
      | argument :: rest => (.about letter argument, argument :: rest)
    | _ =>
      match arguments, lexeme arguments.tail with
      | left :: _ :: right :: rest, .comparison operator =>
        (.compare operator left right, right :: rest)
      | [_, _], .comparison operator =>
        (.wrong (utf8 operator ++ utf8 ": argument expected"), [])
      | _, _ => (.filled (arguments.headD []), arguments)

end

/-- Reads a condition that takes all arguments; what the first of them is, is given. -/
def readAll (first : Lexeme) (arguments : List Bytes) : Condition :=
  match readEither (8 * arguments.length + 16) first arguments with
  | (condition, last :: _ :: _) =>
    .both condition (.wrong (if last.isEmpty then utf8 "unexpected operator"
      else last ++ utf8 ": unexpected operator"))
  | (condition, _) => condition

/-- Reads a condition that takes all arguments. -/
def readFrom (arguments : List Bytes) : Condition := readAll (lexeme arguments) arguments

/-- Reads three arguments, and whether the condition is turned round as a whole. -/
def readThree (left middle right : Bytes) : Bool × Condition :=
  if (comparison? middle).isSome then (false, readAll .operand [left, middle, right])
  else if left == utf8 "(" && right == utf8 ")" then (false, readFrom [middle])
  else if left == utf8 "!" then (true, readFrom [middle, right])
  else (false, readFrom [left, middle, right])

/-- Reads the condition that some arguments are.  A sign in front of two or three arguments
turns the condition round as a whole; several such signs count once. -/
def read (arguments : List Bytes) : Condition :=
  let (turned, condition) : Bool × Condition :=
    match arguments with
    | [left, middle, right] => readThree left middle right
    | [first, second, third, last] =>
      if first == utf8 "(" && last == utf8 ")" then (false, readFrom [second, third])
      else if first == utf8 "!" then (true, (readThree second third last).2)
      else (false, readFrom arguments)
    | _ => (false, readFrom arguments)
  if turned then .negation condition else condition

/-! ## Evaluating -/

/-- Whether a question has the answer yes for a file. -/
def holdsFor (letter : UInt8) (info : FileInfo) : Bool :=
  if letter == Byte.of 'f' then info.kind == .regular
  else if letter == Byte.of 'd' then info.kind == .directory
  else if letter == Byte.of 'L' || letter == Byte.of 'h' then info.kind == .link
  else if letter == Byte.of 'p' then info.kind == .pipe
  else if letter == Byte.of 'c' then info.kind == .device
  else if letter == Byte.of 's' then info.size > 0
  else if letter == Byte.of 'x' then
    info.kind == .directory || Nat.land info.mode 0o111 != 0
  else if letter == Byte.of 'b' || letter == Byte.of 'S' then false
  else if letter == Byte.of 'u' then Nat.land info.mode 0o4000 != 0
  else if letter == Byte.of 'g' then Nat.land info.mode 0o2000 != 0
  else if letter == Byte.of 'k' then Nat.land info.mode 0o1000 != 0
  else true

/-- A number in a comparison. -/
def numberOf (text : Bytes) : Except Bytes Int :=
  let trimmed := (text.dropWhile Byte.isSpace)
  let digits :=
    match trimmed with
    | Byte.hyphen :: rest | Byte.plus :: rest => rest
    | _ => trimmed
  let digits := (digits.reverse.dropWhile Byte.isSpace).reverse
  let refused := utf8 "Illegal number: " ++ text
  if Decimal.isNumeral digits then
    let size : Int := Decimal.value digits
    let value := if trimmed.head? == some Byte.hyphen then -size else size
    if -9223372036854775808 ≤ value && value ≤ 9223372036854775807 then .ok value
    else .error refused
  else .error refused

/-- A comparison of texts or numbers. -/
def compareTexts (operator : String) (left right : Bytes) : Except Bytes Bool := do
  match operator with
  | "=" => return left == right
  | "!=" => return left != right
  | "<" => return left != right && Bytes.precedes left right
  | ">" => return left != right && Bytes.precedes right left
  | _ =>
    let a ← numberOf left
    let b ← numberOf right
    match operator with
    | "-eq" => return a == b
    | "-ne" => return a != b
    | "-lt" => return a < b
    | "-le" => return a ≤ b
    | "-gt" => return a > b
    | _ => return a ≥ b

/-- Asks whether a condition holds.  All its parts are asked, also where the first decides. -/
def evaluate : Condition → Task (Except Bytes Bool)
  | .filled text => return .ok !text.isEmpty
  | .about letter argument => do
    if letter == Byte.of 'n' then return .ok !argument.isEmpty
    else if letter == Byte.of 'z' then return .ok argument.isEmpty
    else if letter == Byte.of 't' then return (numberOf argument).map fun _ => false
    else
      let follow := letter != Byte.of 'L' && letter != Byte.of 'h'
      match ← Task.ask (.stat argument follow) with
      | .info info => return .ok (holdsFor letter info)
      | _ => return .ok false
  | .compare operator left right => do
    if operator == "-ef" then
      match ← Task.ask (.stat left true), ← Task.ask (.stat right true) with
      | .info a, .info b => return .ok (a.id == b.id && a.kind == b.kind)
      | _, _ => return .ok false
    else if operator == "-nt" || operator == "-ot" then return .ok false
    else return compareTexts operator left right
  | .negation condition => do return (← condition.evaluate).map (!·)
  | .both first second => do
    match ← first.evaluate with
    | .ok holds => return (← second.evaluate).map (holds && ·)
    | problem => return problem
  | .either first second => do
    match ← first.evaluate with
    | .ok holds => return (← second.evaluate).map (holds || ·)
    | problem => return problem
  | .wrong problem => return .error problem

end Condition

end Host

end CueFront
