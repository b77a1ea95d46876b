import CueFront.Decimal

/-!
# Formatted printing

A format is a text with escapes and conversions; it is used again and again until all
arguments are used up.  Arguments that are missing count as empty or zero.
-/

namespace CueFront

namespace Host

namespace Format

/-! ## Escapes -/

/-- The value of at most a number of octal digits, and the text behind them. -/
def octal : Nat → Bytes → Nat → Nat × Bytes
  | 0, text, value => (value, text)
  | _ + 1, [], value => (value, [])
  | count + 1, b :: rest, value =>
    if 48 ≤ b && b ≤ 55 then octal count rest (value * 8 + (b.toNat - 48)) else (value, b :: rest)

/-- The byte that a letter behind a backslash stands for. -/
def letter? (b : UInt8) : Option UInt8 :=
  ([('a', 7), ('b', 8), ('t', 9), ('n', 10), ('v', 11), ('f', 12), ('r', 13), ('e', 27),
      ('\\', 92)].find? fun entry => Byte.of entry.1 == b).map (·.2)

/-- What the text behind a backslash stands for, and the text behind that.  In arguments an
octal number starts with a zero that does not count. -/
def escape (inArgument : Bool) (text : Bytes) : Bytes × Bytes :=
  match text with
  | [] => ([Byte.backslash], [])
  | b :: rest =>
    match letter? b with
    | some byte => ([byte], rest)
    | none =>
      if inArgument && b == Byte.zero then
        let (value, rest) := octal 3 rest 0
        ([UInt8.ofNat value], rest)
      else if 48 ≤ b && b ≤ 55 && !inArgument then
        let (value, rest) := octal 3 text 0
        ([UInt8.ofNat value], rest)
      else if b == Byte.doubleQuote && !inArgument then ([Byte.doubleQuote], rest)
      else ([Byte.backslash, b], rest)

/-- A text with its escapes replaced, and whether an escape ends all output. -/
def unescape (text : Bytes) : Bytes × Bool :=
  go (text.length + 1) text []
where
  /-- Goes on with what is left. -/
  go : Nat → Bytes → Bytes → Bytes × Bool
    | 0, _, out => (out.reverse, false)
    | _ + 1, [], out => (out.reverse, false)
    | fuel + 1, b :: rest, out =>
      if b != Byte.backslash then go fuel rest (b :: out)
      else if rest.head? == some (Byte.of 'c') then (out.reverse, true)
      else
        let (bytes, rest) := escape true rest
        go fuel rest (bytes.reverse ++ out)

/-! ## Conversions -/

/-- How a conversion is laid out. -/
structure Layout where
  /-- It stands at the left of its field. -/
  left : Bool := false
  /-- A positive number has a sign. -/
  plus : Bool := false
  /-- A positive number has a blank. -/
  blank : Bool := false
  /-- A number to another base shows its base. -/
  shown : Bool := false
  /-- A number is filled up with zeros. -/
  zeros : Bool := false
  /-- The least width. -/
  width : Nat := 0
  /-- The precision. -/
  precision : Option Nat := none

/-- A text filled up to the width. -/
def pad (layout : Layout) (text : Bytes) : Bytes :=
  let fill := List.replicate (layout.width - text.length) Byte.space
  if layout.left then text ++ fill else fill ++ text

/-- The digits of a number to a base. -/
def digitsOf (base : Nat) (upper : Bool) (n : Nat) : Bytes :=
  let digits := (Nat.toDigits base n).map fun c => Byte.of c
  if upper then digits.map Byte.toUpper else digits

/-- A number laid out. -/
def number (layout : Layout) (sign start digits : Bytes) : Bytes :=
  let digits :=
    match layout.precision with
    | some precision => List.replicate (precision - digits.length) 48 ++ digits
    | none =>
      if layout.zeros && !layout.left then
        List.replicate (layout.width - digits.length - sign.length - start.length) 48 ++ digits
      else digits
  pad layout (sign ++ start ++ digits)

/-- The flags at the start of a conversion, and the text behind them. -/
def flags : Bytes → Layout → Layout × Bytes
  | [], layout => (layout, [])
  | b :: rest, layout =>
    if b == Byte.hyphen then flags rest { layout with left := true }
    else if b == Byte.plus then flags rest { layout with plus := true }
    else if b == Byte.space then flags rest { layout with blank := true }
    else if b == Byte.hash then flags rest { layout with shown := true }
    else if b == Byte.of '0' then flags rest { layout with zeros := true }
    else (layout, b :: rest)

/-- The value of an argument as a number, and whether all of it was one. -/
def argumentValue (text : Bytes) : Int × Bool :=
  match text with
  | [] => (0, true)
  | Byte.singleQuote :: b :: _ | Byte.doubleQuote :: b :: _ => (b.toNat, true)
  | _ =>
    let text := text.dropWhile Byte.isSpace
    let (sign, digits) :=
      match text with
      | Byte.hyphen :: rest => ((-1 : Int), rest)
      | Byte.plus :: rest => (1, rest)
      | _ => (1, text)
    let toBase (base : Nat) (digits : Bytes) : Int × Bool :=
      let isDigit (b : UInt8) : Bool := (Byte.hexValue? b).any (· < base)
      let taken := digits.takeWhile isDigit
      let value := taken.foldl (fun n b => n * base + (Byte.hexValue? b).getD 0) 0
      (sign * value, !taken.isEmpty && (digits.drop taken.length).isEmpty)
    match digits with
    | Byte.zero :: b :: rest =>
      if Byte.toLower b == Byte.of 'x' then toBase 16 rest else toBase 8 digits
    | [Byte.zero] => toBase 8 digits
    | _ => toBase 10 digits

/-- What printing gives. -/
structure Printed where
  /-- The output. -/
  output : Bytes := []
  /-- The arguments that were no numbers. -/
  refused : List Bytes := []
  /-- Whether an escape ended all output. -/
  stopped : Bool := false

/-- The text of a conversion of an argument; nothing if there is no such conversion. -/
def convert (layout : Layout) (kind : UInt8) (argument : Bytes) : Option Printed :=
  let (value, complete) := argumentValue argument
  let refused := if complete then [] else [argument]
  let word := (value % 18446744073709551616).toNat
  if kind == Byte.of 's' then
    let text :=
      match layout.precision with
      | some precision => argument.take precision
      | none => argument
    some { output := pad layout text }
  else if kind == Byte.of 'b' then
    let (text, stopped) := unescape argument
    some { output := pad layout text, stopped }
  else if kind == Byte.of 'c' then some { output := pad layout (argument.take 1) }
  else if kind == Byte.of 'd' || kind == Byte.of 'i' then
    let sign :=
      if value < 0 then [Byte.hyphen] else if layout.plus then [Byte.plus]
      else if layout.blank then [Byte.space] else []
    some { output := number layout sign [] (Decimal.digits value.natAbs), refused }
  else if kind == Byte.of 'u' then
    some { output := number layout [] [] (Decimal.digits word), refused }
  else if kind == Byte.of 'o' then
    let lead := if layout.shown then utf8 "0" else []
    some { output := number layout [] lead (digitsOf 8 false word), refused }
  else if kind == Byte.of 'x' then
    some { output := number layout [] (if layout.shown then utf8 "0x" else [])
             (digitsOf 16 false word), refused }
  else if kind == Byte.of 'X' then
    some { output := number layout [] (if layout.shown then utf8 "0X" else [])
             (digitsOf 16 true word), refused }
  else none

/-- A width or a precision: digits, or a star that stands for an argument.  Gives the number,
the text behind it and the arguments that are left. -/
def extent (text : Bytes) (arguments : List Bytes) : Nat × Bytes × List Bytes :=
  match text with
  | Byte.star :: rest => ((argumentValue (arguments.headD [])).1.toNat, rest, arguments.tail)
  | _ =>
    let digits := text.takeWhile Byte.isDigit
    (Decimal.value digits, text.drop digits.length, arguments)

/-- Uses a format once: what it prints, and the arguments that are left. -/
def once : Nat → Bytes → List Bytes → Printed → Printed × List Bytes
  | 0, _, arguments, printed => (printed, arguments)
  | _ + 1, [], arguments, printed => (printed, arguments)
  | fuel + 1, b :: rest, arguments, printed =>
    let say (bytes : Bytes) : Printed := { printed with output := bytes.reverse ++ printed.output }
    if b == Byte.backslash then
      if rest.head? == some (Byte.of 'c') then ({ printed with stopped := true }, arguments)
      else
        let (bytes, rest) := escape false rest
        once fuel rest arguments (say bytes)
    else if b != Byte.percent then once fuel rest arguments (say [b])
    else if rest.head? == some Byte.percent then once fuel rest.tail arguments (say [Byte.percent])
    else
      let (layout, rest) := flags rest {}
      let (width, rest, arguments) := extent rest arguments
      let layout := { layout with width }
      let (layout, rest, arguments) :=
        match rest with
        | Byte.dot :: rest =>
          let (precision, rest, arguments) := extent rest arguments
          ({ layout with precision := some precision }, rest, arguments)
        | _ => (layout, rest, arguments)
      match rest with
      | [] => (say [Byte.percent], arguments)
      | kind :: rest =>
        match convert layout kind (arguments.headD []) with
        | none =>
          ({ printed with refused := printed.refused ++ [[Byte.percent, kind]], stopped := true },
            arguments)
        | some part =>
          let printed :=
            { output := part.output.reverse ++ printed.output
              refused := printed.refused ++ part.refused
              stopped := part.stopped : Printed }
          if part.stopped then (printed, arguments.tail)
          else once fuel rest arguments.tail printed

/-- Uses a format until the arguments are used up.  Output stands in reverse order. -/
def again (format : Bytes) : Nat → List Bytes → Printed → Printed
  | 0, _, printed => printed
  | fuel + 1, arguments, printed =>
    let (printed, rest) := once (format.length + 1) format arguments printed
    if printed.stopped || rest.isEmpty || rest.length == arguments.length then printed
    else again format fuel rest printed

/-- Prints arguments by a format. -/
def print (format : Bytes) (arguments : List Bytes) : Printed :=
  let printed := again format (arguments.length + 1) arguments {}
  { printed with output := printed.output.reverse }

end Format

end Host

end CueFront
