import CueFront.Pattern.Token

/-!
# Reading patterns

A pattern is read token by token.  Open groups lie on a stack of frames; each frame holds
the finished branches of its alternation and the items of the branch being read.  A bracket
expression has a small state of its own, because a dash means a range only between two
bytes.

`Expr` keeps repetitions folded.  A matcher that copies the body of a counted repetition
needs one state for each item of each copy, and patterns that need more than `stateLimit`
states are refused.  So the reader counts those states as it goes.
-/

namespace CueFront

namespace Pattern

/-! ## Bracket expressions -/

/-- What the last member of a bracket expression was. -/
inductive LastMember where
  /-- Nothing that could start a range. -/
  | none
  /-- A byte, which may start a range. -/
  | byte (b : UInt8)
  /-- A class, which may not be followed by a range dash. -/
  | set
deriving DecidableEq, Repr

/-- A bracket expression being read. -/
structure BracketReader where
  /-- Whether it accepts what is outside. -/
  negated : Bool
  /-- Whether nothing was read yet. -/
  fresh : Bool := true
  /-- The finished members, latest first. -/
  items : List BracketItem := []
  /-- The last member. -/
  last : LastMember := .none
  /-- Whether a dash was read that may join the last member to the next. -/
  dashed : Bool := false

namespace BracketReader

/-- Finishes the last member. -/
def settle (reader : BracketReader) : BracketReader :=
  match reader.last with
  | .byte b => { reader with items := .byte b :: reader.items, last := .none }
  | _ => reader

/-- Adds a byte that may start a range. -/
def pushByte (reader : BracketReader) (b : UInt8) : BracketReader :=
  { reader.settle with last := .byte b }

/-- Adds a class. -/
def pushSet (reader : BracketReader) (item : BracketItem) : BracketReader :=
  { reader.settle with items := item :: reader.settle.items, last := .set }

/-- The class that has been read. -/
def finish (reader : BracketReader) : ByteClass :=
  .bracket reader.negated reader.settle.items.reverse

/-- The byte a collating name stands for.  A single byte names itself. -/
def collating? (name : Bytes) : Option UInt8 :=
  let words : List String :=
    ["NUL", "SOH", "STX", "ETX", "EOT", "ENQ", "ACK", "alert", "backspace", "tab", "newline",
      "vertical-tab", "form-feed", "carriage-return", "SO", "SI", "DLE", "DC1", "DC2", "DC3",
      "DC4", "NAK", "SYN", "ETB", "CAN", "EM", "SUB", "ESC", "IS4", "IS3", "IS2", "IS1", "space",
      "exclamation-mark", "quotation-mark", "number-sign", "dollar-sign", "percent-sign",
      "ampersand", "apostrophe", "left-parenthesis", "right-parenthesis", "asterisk", "plus-sign",
      "comma", "hyphen", "period", "slash", "zero", "one", "two", "three", "four", "five", "six",
      "seven", "eight", "nine", "colon", "semicolon", "less-than-sign", "equals-sign",
      "greater-than-sign", "question-mark", "commercial-at", "A", "B", "C", "D", "E", "F", "G",
      "H", "I", "J", "K", "L", "M", "N", "O", "P", "Q", "R", "S", "T", "U", "V", "W", "X", "Y",
      "Z", "left-square-bracket", "backslash", "right-square-bracket", "circumflex", "underscore",
      "grave-accent", "a", "b", "c", "d", "e", "f", "g", "h", "i", "j", "k", "l", "m", "n", "o",
      "p", "q", "r", "s", "t", "u", "v", "w", "x", "y", "z", "left-curly-bracket",
      "vertical-line", "right-curly-bracket", "tilde", "DEL"]
  (words.findIdx? (utf8 · == name)).map UInt8.ofNat

/-- Reads a token that no dash precedes. -/
def member (reader : BracketReader) : Token → Except Malformed BracketReader
  | .dash => .ok (if reader.fresh then reader.pushByte 45 else { reader with dashed := true })
  | .byte b => .ok (reader.pushByte b)
  | .quotedClass name negated => .ok (reader.pushSet (.named name negated))
  | .className name =>
    match ClassName.ofName? name with
    | some name => .ok (reader.pushSet (.named name false))
    | none => .error .malformed
  | .collating name =>
    match collating? name with
    | some b => .ok (reader.pushByte b)
    | none => .error .malformed
  | .equivalence name =>
    match collating? name with
    | some b => .ok (reader.pushSet (.alike b))
    | none => .error .malformed
  | _ => .error .malformed

/-- Closes a range. -/
def range (reader : BracketReader) (first last : UInt8) : Except Malformed BracketReader :=
  if first.toInt8 ≤ last.toInt8 then
    .ok { reader with items := .range first last :: reader.items, last := .none, dashed := false }
  else .error .malformed

/-- Reads a token other than the closing bracket. -/
def step (reader : BracketReader) (token : Token) : Except Malformed BracketReader := do
  let reader ←
    if reader.dashed then
      match reader.last, token with
      | .set, _ => .error .malformed
      | .byte first, .byte last => reader.range first last
      | .byte first, .dash => reader.range first 45
      | .byte _, _ => .error .malformed
      | .none, token => ({ reader.pushByte 45 with dashed := false } : BracketReader).member token
    else reader.member token
  return { reader with fresh := false }

/-- Reads the closing bracket.  A dash in front of it stands for itself. -/
def close (reader : BracketReader) : ByteClass :=
  (if reader.dashed then reader.pushByte 45 else reader).finish

end BracketReader

/-! ## Groups and branches -/

/-- A part of a pattern and the states a copy of it takes. -/
structure Sized where
  /-- The part. -/
  expr : Expr
  /-- The states of one copy. -/
  states : Nat

/-- What an open group becomes when it closes. -/
inductive FrameKind where
  /-- The whole pattern. -/
  | whole
  /-- A group that keeps its text. -/
  | capture (index : Nat)
  /-- A group that does not. -/
  | plain
  /-- A look ahead. -/
  | look (negated : Bool)
deriving DecidableEq

/-- A group being read. -/
structure Frame where
  /-- What it is. -/
  kind : FrameKind
  /-- The finished branches, joined. -/
  branches : Option Sized := none
  /-- The items of the current branch, latest first, each with whether it may be repeated. -/
  items : List (Sized × Bool) := []

namespace Frame

/-- The current branch: its items in sequence, and one state for its end. -/
def branch (frame : Frame) : Sized :=
  frame.items.foldl (fun tail item => ⟨.seq item.1.expr tail.expr, item.1.states + tail.states⟩)
    ⟨.empty, 1⟩

/-- The branches read so far, in order of preference. -/
def body (frame : Frame) : Sized :=
  match frame.branches with
  | none => frame.branch
  | some earlier =>
    ⟨.alt earlier.expr frame.branch.expr, earlier.states + frame.branch.states + 2⟩

/-- Starts the next branch. -/
def bar (frame : Frame) : Frame := { frame with branches := some frame.body, items := [] }

/-- Adds an item to the current branch. -/
def push (frame : Frame) (item : Sized) (repeatable : Bool) : Frame :=
  { frame with items := (item, repeatable) :: frame.items }

/-- The group as an item of the frame around it.  Lookahead may not be repeated. -/
def close (frame : Frame) : Sized × Bool :=
  let body := frame.body
  match frame.kind with
  | .whole => (body, true)
  | .capture index => (⟨.group index body.expr, body.states + 2⟩, true)
  | .plain => (⟨body.expr, body.states + 1⟩, true)
  | .look negated => (⟨.look negated body.expr, body.states + 2⟩, false)

end Frame

/-- The states a repetition adds to those of its body, and the states of one copy of it. -/
def repeatStates (times : Times) (body : Nat) : Nat × Nat :=
  match times with
  | .star | .plus => (1, body + 1)
  | .optional => (2, body + 2)
  | .between least none =>
    let copies := 1 + least * body + (body + 1)
    (copies, copies)
  | .between least (some most) =>
    let copies := 2 + least * body + (most - least) * (body + 1)
    (copies, copies)

/-- The most states a pattern may need. -/
def stateLimit : Nat := 100000

/-! ## The reader -/

/-- A pattern being read. -/
structure Reader where
  /-- The innermost open group. -/
  frame : Frame := { kind := .whole }
  /-- The groups around it, innermost first. -/
  outer : List Frame := []
  /-- The number of captures so far, the whole line included. -/
  captures : Nat := 1
  /-- The states used so far. -/
  states : Nat := 1
  /-- The bracket expression being read, if any. -/
  bracket : Option BracketReader := none

/-- A pattern that has been read. -/
structure Readable where
  /-- The pattern. -/
  expr : Expr
  /-- The number of groups that capture. -/
  groups : Nat
deriving DecidableEq, Repr

namespace Reader

/-- Adds an item of one state. -/
def item (reader : Reader) (expr : Expr) (repeatable : Bool) : Reader :=
  { reader with frame := reader.frame.push ⟨expr, 1⟩ repeatable, states := reader.states + 1 }

/-- Opens a group. -/
def openGroup (reader : Reader) (kind : Opening) : Reader :=
  let outer := reader.frame :: reader.outer
  match kind with
  | .capture =>
    { reader with
      frame := { kind := .capture reader.captures }, outer
      captures := reader.captures + 1, states := reader.states + 2 }
  | .plain => { reader with frame := { kind := .plain }, outer, states := reader.states + 1 }
  | .look negated =>
    { reader with frame := { kind := .look negated }, outer, states := reader.states + 2 }

/-- Closes the innermost group. -/
def closeGroup (reader : Reader) : Except Malformed Reader :=
  match reader.outer with
  | [] => .error .malformed
  | frame :: outer =>
    let (body, repeatable) := reader.frame.close
    .ok { reader with frame := frame.push body repeatable, outer, states := reader.states + 1 }

/-- Starts the next branch of the innermost group. -/
def bar (reader : Reader) : Reader :=
  { reader with frame := reader.frame.bar, states := reader.states + 3 }

/-- Whether a back reference names a group that exists and is closed. -/
def isClosed (reader : Reader) (index : Nat) : Bool :=
  0 < index && index < reader.captures &&
    (reader.frame :: reader.outer).all (·.kind != .capture index)

/-- Repeats the last item. -/
def repeated (reader : Reader) (times : Times) (lazily : Bool) : Except Malformed Reader :=
  match reader.frame.items with
  | (body, true) :: items =>
    let (added, copy) := repeatStates times body.states
    .ok { reader with
      frame := { reader.frame with items := (⟨.rep times lazily body.expr, copy⟩, true) :: items }
      states := reader.states + added }
  | _ => .error .malformed

/-- Reads a token outside brackets and repeat counts. -/
def step (reader : Reader) : Token → Except Malformed Reader
  | .byte b => .ok (reader.item (.one (.byte b)) true)
  | .any => .ok (reader.item (.one .any) true)
  | .quotedClass name negated => .ok (reader.item (.one (.named name negated)) true)
  | .backref index =>
    if reader.isClosed index then .ok (reader.item (.backref index) true) else .error .malformed
  | .anchor place => .ok (reader.item (.anchor place) false)
  | .opening kind => .ok (reader.openGroup kind)
  | .closing => reader.closeGroup
  | .bar => .ok reader.bar
  | .bracketOpen negated => .ok { reader with bracket := some { negated } }
  | _ => .error .malformed

/-- Reads a bracket expression and puts it into the branch when it closes. -/
def bracketStep (reader : Reader) (bracket : BracketReader) (token : Token) :
    Except Malformed Reader :=
  match token with
  | .bracketClose => .ok { reader.item (.one bracket.close) true with bracket := none }
  | token => (bracket.step token).map fun bracket => { reader with bracket := some bracket }

/-- Reads the tokens of a pattern. -/
def run (reader : Reader) : List Token → Except Malformed Reader
  | [] => .ok reader
  | token :: rest =>
    match reader.bracket with
    | some bracket => (reader.bracketStep bracket token).bind (·.run rest)
    | none =>
      match token, rest with
      | .star, .question :: rest => (reader.repeated .star true).bind (·.run rest)
      | .star, rest => (reader.repeated .star false).bind (·.run rest)
      | .plus, .question :: rest => (reader.repeated .plus true).bind (·.run rest)
      | .plus, rest => (reader.repeated .plus false).bind (·.run rest)
      | .question, .question :: rest => (reader.repeated .optional true).bind (·.run rest)
      | .question, rest => (reader.repeated .optional false).bind (·.run rest)
      | .braceOpen, .count n :: .braceClose :: .question :: rest =>
        (reader.repeated (.between n (some n)) true).bind (·.run rest)
      | .braceOpen, .count n :: .braceClose :: rest =>
        (reader.repeated (.between n (some n)) false).bind (·.run rest)
      | .braceOpen, .count n :: .comma :: .braceClose :: .question :: rest =>
        (reader.repeated (.between n none) true).bind (·.run rest)
      | .braceOpen, .count n :: .comma :: .braceClose :: rest =>
        (reader.repeated (.between n none) false).bind (·.run rest)
      | .braceOpen, .count n :: .comma :: .count m :: .braceClose :: .question :: rest =>
        if n ≤ m then (reader.repeated (.between n (some m)) true).bind (·.run rest)
        else .error .malformed
      | .braceOpen, .count n :: .comma :: .count m :: .braceClose :: rest =>
        if n ≤ m then (reader.repeated (.between n (some m)) false).bind (·.run rest)
        else .error .malformed
      | token, rest => (reader.step token).bind (·.run rest)

/-- The pattern, if every group and bracket is closed and it needs few enough states. -/
def finish (reader : Reader) : Except Malformed Readable :=
  if reader.outer.isEmpty && reader.bracket.isNone && reader.states + 3 ≤ stateLimit then
    .ok ⟨reader.frame.body.expr, reader.captures - 1⟩
  else .error .malformed

end Reader

/-- Reads a pattern. -/
def read (pattern : Bytes) : Except Malformed Readable := do
  let reader ← ({} : Reader).run (← tokens pattern)
  reader.finish

end Pattern

end CueFront
