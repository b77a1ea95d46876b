import CueFront.Host.Format
import CueFront.Host.Tool.Sets

/-!
# Tools that work on whole lines

These tools order, compare and join lines, or show bytes as numbers.
-/

namespace CueFront

namespace Host

namespace Tool

/-! ## Orders -/

/-- A number at the start of a text, as an ordering sees it: a sign, and digits before and
behind the point. -/
def leadingNumber (text : Bytes) : Int × Bytes :=
  let text := text.dropWhile fun b => b == Byte.space || b == Byte.tab
  let (negative, text) :=
    match text with
    | Byte.hyphen :: rest => (true, rest)
    | _ => (false, text)
  let whole := text.takeWhile Byte.isDigit
  let fraction :=
    match text.drop whole.length with
    | Byte.dot :: rest => rest.takeWhile Byte.isDigit
    | _ => []
  let value : Int := Decimal.value whole
  (if negative then -value else value, fraction)

/-- Compares texts by the numbers at their starts. -/
def compareNumbers (a b : Bytes) : Ordering :=
  let (wholeA, fractionA) := leadingNumber a
  let (wholeB, fractionB) := leadingNumber b
  if wholeA < wholeB then .lt
  else if wholeB < wholeA then .gt
  else
    let size := max fractionA.length fractionB.length
    let padded (fraction : Bytes) : Nat :=
      Decimal.value (fraction ++ List.replicate (size - fraction.length) 48)
    compare (padded fractionA) (padded fractionB)

/-- Compares texts byte by byte. -/
def compareTexts (a b : Bytes) : Ordering :=
  if a == b then .eq else if Bytes.precedes a b then .lt else .gt

/-- How lines are ordered by a key. -/
structure SortKey where
  /-- The first field, from one on. -/
  first : Nat
  /-- The last field, if the key does not go on to the end. -/
  last : Option Nat
  /-- Whether the numbers at the start count. -/
  numeric : Bool
  /-- Whether the order is turned round. -/
  reversed : Bool
  /-- Whether small letters count as capital letters. -/
  folded : Bool

/-- Reads a key like `2,3n`. -/
def sortKey (text : Bytes) (numeric reversed folded : Bool) : SortKey :=
  let first := text.takeWhile Byte.isDigit
  let rest := text.drop first.length
  let behindComma := (rest.dropWhile (· != Byte.comma)).drop 1
  let last := behindComma.takeWhile Byte.isDigit
  let flags := rest.filter Byte.isLower
  { first := Decimal.value first
    last := if last.isEmpty then none else some (Decimal.value last)
    numeric := numeric || flags.any (· == Byte.of 'n')
    reversed := reversed || flags.any (· == Byte.of 'r')
    folded := folded || flags.any (· == Byte.of 'f') }

/-- The fields of a line where blanks separate, each with the blanks in front of it. -/
def blankFields (line : Bytes) : List Bytes :=
  let isBlank (b : UInt8) : Bool := b == Byte.space || b == Byte.tab
  let (fields, current, _) := line.foldl (fun (fields, current, inBlank) b =>
    if isBlank b && !inBlank && !current.isEmpty then (current.reverse :: fields, [b], true)
    else (fields, b :: current, isBlank b)) (([] : List Bytes), ([] : Bytes), true)
  (current.reverse :: fields).reverse

/-- The part of a line that a key compares. -/
def SortKey.part (key : SortKey) (delimiter : Option UInt8) (line : Bytes) : Bytes :=
  let fields :=
    match delimiter with
    | some delimiter => Bytes.splitOn delimiter line
    | none => blankFields line
  let count :=
    match key.last with
    | some last => last + 1 - key.first
    | none => fields.length
  let chosen := (fields.drop (key.first - 1)).take count
  match delimiter with
  | some delimiter => Bytes.joinWith [delimiter] chosen
  | none => chosen.flatten

/-- Compares lines by a key. -/
def SortKey.compare (key : SortKey) (delimiter : Option UInt8) (a b : Bytes) : Ordering :=
  let partOf (line : Bytes) : Bytes :=
    let part := if key.first == 0 then line else key.part delimiter line
    if key.folded then part.map Byte.toUpper else part
  let order :=
    if key.numeric then compareNumbers (partOf a) (partOf b) else compareTexts (partOf a) (partOf b)
  if key.reversed then order.swap else order

/-- Prints lines in order. -/
def sort : Tool := withOptions
    [⟨'r', "reverse", false⟩, ⟨'n', "numeric-sort", false⟩, ⟨'u', "unique", false⟩,
      ⟨'f', "ignore-case", false⟩, ⟨'b', "", false⟩, ⟨'s', "stable", false⟩, ⟨'k', "key", true⟩,
      ⟨'t', "field-separator", true⟩, ⟨'o', "output", true⟩, ⟨'c', "check", false⟩] true 2
    fun name arguments _ => do
  let texts ← (if arguments.operands.isEmpty then [[Byte.hyphen]] else arguments.operands).mapM
    fun path => do
      match ← openInputOr (utf8 "cannot read: " ++ ·) name path with
      | none => return none
      | some descriptor => do
        let text ← readInput name (utf8 "read failed: " ++ path) descriptor
        if descriptor != 0 then Task.tell (.close descriptor)
        return text
  if texts.any (·.isNone) then return 2
  else
    let lines := ((texts.filterMap id).map fun text =>
      let (lines, rest) := splitLines text
      if rest.isEmpty then lines else lines ++ [rest]).flatten
    let numeric := arguments.has 'n'
    let reversed := arguments.has 'r'
    let folded := arguments.has 'f'
    let given := (arguments.options.filter (·.1 == 'k')).map fun entry =>
      sortKey entry.2 numeric reversed folded
    let keys := if given.isEmpty then [⟨0, none, numeric, reversed, folded⟩] else given
    let delimiter := (arguments.value? 't').map (·.headD 0)
    let byKeys (a b : Bytes) : Ordering :=
      keys.foldl (fun order key => order.then (key.compare delimiter a b)) .eq
    let plain := arguments.has 'u' || arguments.has 's'
    let order (a b : Bytes) : Ordering :=
      if plain then byKeys a b
      else (byKeys a b).then
        (if reversed then (compareTexts a b).swap else compareTexts a b)
    let inOrder (a b : Bytes) : Bool := order a b != .gt
    if arguments.has 'c' then
      match (lines.zip (lines.drop 1)).zipIdx.find? fun (pair, _) => !inOrder pair.1 pair.2 with
      | some ((_, line), n) => do
        complain name ((arguments.operands.headD [Byte.hyphen]) ++ utf8 ":" ++
          Decimal.digits (n + 2) ++ utf8 ": disorder: " ++ line)
        return 1
      | none => return 0
    else do
      let sorted := lines.mergeSort inOrder
      let sorted :=
        if arguments.has 'u' then
          (sorted.foldl (fun kept line =>
            match kept with
            | previous :: _ => if byKeys previous line == .eq then kept else line :: kept
            | [] => [line]) []).reverse
        else sorted
      let text := (sorted.map ended).flatten
      match arguments.value? 'o' with
      | none => say name text
      | some path => do
        match ← Task.ask
            (.openFile path { writes := true, creates := true, truncates := true }) with
        | .number descriptor => Task.tell (.write descriptor text)
        | _ => pure ()
      return 0

/-! ## Repeated lines -/

/-- Equal lines that follow one another. -/
structure Repeats where
  /-- The line. -/
  line : Bytes
  /-- How often it comes. -/
  count : Nat

/-- Runs of lines that follow one another and are equal. -/
def runsOf (same : Bytes → Bytes → Bool) (lines : List Bytes) : List Repeats :=
  (lines.foldl (fun runs line =>
    match runs with
    | current :: others =>
      if same current.line line then { current with count := current.count + 1 } :: others
      else ⟨line, 1⟩ :: runs
    | [] => [⟨line, 1⟩]) []).reverse

/-- Prints one of several equal lines. -/
def uniq : Tool := withOptions
    [⟨'c', "count", false⟩, ⟨'d', "repeated", false⟩, ⟨'u', "unique", false⟩,
      ⟨'i', "ignore-case", false⟩] true 1 fun name arguments _ => do
  let path := arguments.operands.headD [Byte.hyphen]
  match ← openInput name path with
  | none => return 1
  | some descriptor => do
    match ← readInput name (utf8 "error reading " ++ shown path) descriptor with
    | none => return 1
    | some text => do
      let (lines, rest) := splitLines text
      let lines := if rest.isEmpty then lines else lines ++ [rest]
      let fold (line : Bytes) : Bytes := if arguments.has 'i' then line.map Byte.toLower else line
      let runs := (runsOf (fun a b => fold a == fold b) lines).filter fun run =>
        (!arguments.has 'd' || run.count > 1) && (!arguments.has 'u' || run.count == 1)
      say name (runs.map fun run =>
        (if arguments.has 'c' then
          Format.pad { width := 7 } (Decimal.digits run.count) ++ [Byte.space] else []) ++
          ended run.line).flatten
      return 0

/-! ## Lines turned round, joined and folded -/

/-- A tool that reads each input as a whole and prints something made of it. -/
def mapped (name : Bytes) (paths : List Bytes) (make : Bytes → Bytes) : Task Nat :=
  eachInput name paths fun path descriptor => do
    match ← readInput name path descriptor with
    | none => return 1
    | some text => do
      say name (make text)
      return 0

/-- Prints the bytes of each line in reverse order. -/
def rev : Tool := withOptions [] true 1 fun name arguments _ =>
  mapped name arguments.operands fun text =>
    let (lines, rest) := splitLines text
    (lines.map fun line => ended line.reverse).flatten ++ rest.reverse

/-- Prints lines in reverse order. -/
def tac : Tool := withOptions [] true 1 fun name arguments _ =>
  mapped name arguments.operands fun text =>
    let (lines, rest) := splitLines text
    rest ++ (lines.reverse.map ended).flatten

/-- Prints lines with their numbers. -/
def nl : Tool := withOptions [⟨'b', "body-numbering", true⟩] true 1 fun name arguments _ => do
  let all := arguments.value? 'b' == some (utf8 "a")
  mapped name arguments.operands fun text =>
    let (lines, rest) := splitLines text
    let lines := if rest.isEmpty then lines else lines ++ [rest]
    (lines.foldl (fun (out, n) line =>
      if line.isEmpty && !all then (out ++ utf8 "       \n", n)
      else (out ++ Format.pad { width := 6 } (Decimal.digits n) ++ [9] ++ ended line, n + 1))
      (([] : Bytes), 1)).1

/-- Cuts a text into pieces of a length, given enough steps. -/
def piecesOf (size : Nat) : Nat → Bytes → List Bytes
  | 0, _ => []
  | fuel + 1, text =>
    if text.length ≤ size then [text] else text.take size :: piecesOf size fuel (text.drop size)

/-- Breaks long lines. -/
def fold : Tool := withOptions
    [⟨'w', "width", true⟩, ⟨'b', "bytes", false⟩, ⟨'s', "spaces", false⟩] true 1
    fun name arguments _ => do
  let width := max 1 (((arguments.value? 'w').map Decimal.value).getD 80)
  mapped name arguments.operands fun text =>
    let (lines, rest) := splitLines text
    let broken (line : Bytes) : Bytes :=
      Bytes.joinWith [Byte.lineFeed] (piecesOf width (line.length + 1) line)
    (lines.map fun line => ended (broken line)).flatten ++ broken rest

/-- Joins the lines of its inputs side by side, or one after the other. -/
def paste : Tool := withOptions
    [⟨'d', "delimiters", true⟩, ⟨'s', "serial", false⟩] true 1 fun name arguments _ => do
  let delimiter := ((arguments.value? 'd').getD [9]).take 1
  let texts ← (if arguments.operands.isEmpty then [[Byte.hyphen]] else arguments.operands).mapM
    fun path => do
      match ← openInput name path with
      | none => return none
      | some descriptor => readInput name path descriptor
  if texts.any (·.isNone) then return 1
  else do
    let files := (texts.filterMap id).map fun text =>
      let (lines, rest) := splitLines text
      if rest.isEmpty then lines else lines ++ [rest]
    let rows :=
      if arguments.has 's' then files
      else
        let height := (files.map (·.length)).foldl max 0
        (List.range height).map fun n => files.map fun lines => lines.getD n []
    say name (rows.map fun row => ended (Bytes.joinWith delimiter row)).flatten
    return 0

/-! ## Bytes as numbers -/

/-- How bytes are shown. -/
inductive ByteStyle where
  /-- Two hexadecimal digits. -/
  | hex
  /-- Three octal digits. -/
  | octal
  /-- A decimal number. -/
  | decimal
  /-- The character. -/
  | character
  /-- Two bytes as an octal number. -/
  | words
deriving DecidableEq

/-- A byte as it is shown. -/
def ByteStyle.show (style : ByteStyle) (b : UInt8) : Bytes :=
  let octal := [b.toNat / 64 % 8, b.toNat / 8 % 8, b.toNat % 8].map fun n => UInt8.ofNat (48 + n)
  match style with
  | .hex => [Byte.space, Byte.hexDigit (b.toNat / 16), Byte.hexDigit (b.toNat % 16)]
  | .octal => Byte.space :: octal
  | .decimal => Format.pad { width := 4 } (Decimal.digits b.toNat)
  | _ =>
    let named : List (UInt8 × String) :=
      [(0, "\\0"), (7, "\\a"), (8, "\\b"), (9, "\\t"), (10, "\\n"), (11, "\\v"), (12, "\\f"),
        (13, "\\r")]
    match named.lookup b with
    | some text => Format.pad { width := 4 } (utf8 text)
    | none => if 32 ≤ b && b < 127 then Format.pad { width := 4 } [b] else Byte.space :: octal

/-- Two bytes as one number, the lower first. -/
def showWords : Bytes → Bytes
  | [] => []
  | [b] => Byte.space :: (Format.digitsOf 8 false (0o1000000 + b.toNat)).drop 1
  | b :: c :: rest =>
    Byte.space :: (Format.digitsOf 8 false (0o1000000 + b.toNat + 256 * c.toNat)).drop 1 ++
      showWords rest

/-- Shows bytes as numbers. -/
def od : Tool := withOptions
    [⟨'A', "address-radix", true⟩, ⟨'t', "format", true⟩, ⟨'c', "", false⟩, ⟨'b', "", false⟩,
      ⟨'v', "", false⟩, ⟨'x', "", false⟩] true 1 fun name arguments _ => do
  let style : ByteStyle :=
    if arguments.has 'c' then .character
    else if arguments.has 'b' then .octal
    else
      match arguments.value? 't' with
      | some (b :: _) =>
        if b == Byte.of 'x' then .hex else if b == Byte.of 'c' then .character
        else if b == Byte.of 'u' || b == Byte.of 'd' then .decimal else .octal
      | _ => .words
  let addresses := arguments.value? 'A' != some (utf8 "n")
  mapped name arguments.operands fun text =>
    let address (n : Nat) : Bytes :=
      if addresses then (Format.digitsOf 8 false (0o10000000 + n)).drop 1 else []
    let rows := if text.isEmpty then [] else piecesOf 16 (text.length + 1) text
    let shownRows := rows.zipIdx.map fun (row, n) =>
      ended (address (16 * n) ++
        if style == .words then showWords row else (row.map style.show).flatten)
    shownRows.flatten ++ if addresses then ended (address text.length) else []

end Tool

end Host

end CueFront
