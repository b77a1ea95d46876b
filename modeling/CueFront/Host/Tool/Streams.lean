import CueFront.Host.Format
import CueFront.Host.Tool.Basic

/-!
# Tools that pass text on

These tools copy their input, a part of it or a count of it.
-/

namespace CueFront

namespace Host

namespace Tool

/-! ## Copies -/

/-- Lines with their numbers; empty lines do not count if `skipEmpty`. -/
def numberLine (skipEmpty : Bool) (number : Nat) (line : Bytes) (complete : Bool) :
    Step Nat × Bytes :=
  let text := if complete then ended line else line
  if skipEmpty && line.isEmpty then (.more number, text)
  else
    (.more (number + 1),
      Format.pad { width := 6 } (Decimal.digits number) ++ [9] ++ text)

/-- A byte that does not print, as it is shown. -/
def visible (b : UInt8) : Bytes :=
  let low (b : UInt8) : Bytes :=
    if b < 32 then [Byte.caret, b + 64] else if b == Byte.delete then utf8 "^?" else [b]
  if b < 128 then low b else utf8 "M-" ++ low (b - 128)

/-- A line as it is shown by some letters: `E` marks its end, `T` shows tabs, `v` shows other
bytes that do not print. -/
def visibleLine (letters : List Char) (line : Bytes) (complete : Bool) : Bytes :=
  let showByte (b : UInt8) : Bytes :=
    if b == Byte.tab then if letters.contains 'T' then utf8 "^I" else [b]
    else if letters.contains 'v' then visible b
    else [b]
  (line.map showByte).flatten ++
    (if !complete then [] else if letters.contains 'E' then utf8 "$\n" else utf8 "\n")

/-- Copies its input. -/
def cat : Tool := withOptions
    [⟨'n', "number", false⟩, ⟨'b', "number-nonblank", false⟩, ⟨'u', "", false⟩,
      ⟨'s', "squeeze-blank", false⟩, ⟨'E', "show-ends", false⟩, ⟨'T', "show-tabs", false⟩,
      ⟨'v', "show-nonprinting", false⟩, ⟨'A', "show-all", false⟩, ⟨'e', "", false⟩,
      ⟨'t', "", false⟩] true 1 fun name arguments _ => do
  let asked (letter : Char) (clusters : List Char) : List Char :=
    if (letter :: clusters).any arguments.has then [letter] else []
  let letters := asked 'E' ['A', 'e'] ++ asked 'T' ['A', 't'] ++ asked 'v' ['A', 'e', 't']
  let paths := if arguments.operands.isEmpty then [[Byte.hyphen]] else arguments.operands
  let rec go : List Bytes → Nat → Nat → Task Nat
    | [], _, code => return code
    | path :: paths, number, code => do
      match ← openInput name path with
      | none => go paths number 1
      | some descriptor => do
        let result ←
          if arguments.has 'n' || arguments.has 'b' then do
            let fold ← foldLines name path descriptor (numberLine (arguments.has 'b')) number
            pure (fold.map (·.state))
          else if !letters.isEmpty then do
            let fold ← foldLines name path descriptor (fun (number : Nat) line complete =>
              (.more number, visibleLine letters line complete)) number
            pure (fold.map (·.state))
          else foldParts name path descriptor (fun number part => do
            say name part
            return .more number) Task.ampleSteps number
        if descriptor != 0 then Task.tell (.close descriptor)
        match result with
        | some number => go paths number code
        | none => go paths number 1
  go paths 1 0

/-- Copies its input to its output and to files. -/
def tee : Tool := withOptions [⟨'a', "append", false⟩, ⟨'i', "", false⟩] true 1
    fun name arguments _ => do
  let mode : OpenMode :=
    if arguments.has 'a' then { writes := true, creates := true, appends := true }
    else { writes := true, creates := true, truncates := true }
  let opened ← arguments.operands.mapM fun path => do
    match ← Task.ask (.openFile path mode) with
    | .number descriptor => return some descriptor
    | .failed errno => do
      complainOf name path errno
      return none
    | _ => return none
  let result ← foldParts name (utf8 "read error") 0 (fun (_ : Unit) part => do
    say name part
    for descriptor in opened.filterMap id do
      Task.tell (.write descriptor part)
    return .more ()) Task.ampleSteps ()
  return if result.isSome && opened.all (·.isSome) then 0 else 1

/-! ## Counts -/

/-- Counts of a text. -/
structure Counts where
  /-- Line ends. -/
  lines : Nat := 0
  /-- Runs of bytes that are no blanks. -/
  words : Nat := 0
  /-- Bytes that start a character. -/
  characters : Nat := 0
  /-- All bytes. -/
  bytes : Nat := 0
  /-- Whether the last byte belongs to a word. -/
  inWord : Bool := false

namespace Counts

/-- Counts one more byte. -/
def add (counts : Counts) (b : UInt8) : Counts :=
  let blank := Byte.isSpace b
  { lines := if b == Byte.lineFeed then counts.lines + 1 else counts.lines
    words := if !blank && !counts.inWord then counts.words + 1 else counts.words
    characters := if 128 ≤ b && b < 192 then counts.characters else counts.characters + 1
    bytes := counts.bytes + 1
    inWord := !blank }

/-- The sum of counts. -/
def plus (a b : Counts) : Counts :=
  ⟨a.lines + b.lines, a.words + b.words, a.characters + b.characters, a.bytes + b.bytes, false⟩

/-- The counts that are asked for, with their file. -/
def line (counts : Counts) (letters : List Char) (width : Nat) (path : Option Bytes) : Bytes :=
  let numbers := letters.map fun letter =>
    if letter == 'l' then counts.lines else if letter == 'w' then counts.words
    else if letter == 'm' then counts.characters else counts.bytes
  let texts := numbers.map fun n => Format.pad { width } (Decimal.digits n)
  ended (Bytes.joinWith [Byte.space] (texts ++ path.toList))

end Counts

/-- How wide counts are printed, given how many are printed. -/
def countWidth (paths : List Bytes) (columns : Nat) : Task Nat := do
  if columns == 1 && paths.length ≤ 1 then return 1
  else
    let infos ← (if paths.isEmpty then [[Byte.hyphen]] else paths).mapM fun path => do
      match ← Task.ask (if path == [Byte.hyphen] then .statDescriptor 0 else .stat path true) with
      | .info info => return some info
      | _ => return none
    let known := infos.filterMap id
    let sum := known.foldl
      (fun sum info => if info.kind == .regular then sum + info.size else sum) 0
    let least := if known.any (·.kind != .regular) then 7 else 1
    return max least (Decimal.digits sum).length

/-- Counts lines, words and bytes. -/
def wc : Tool := withOptions
    [⟨'l', "lines", false⟩, ⟨'w', "words", false⟩, ⟨'c', "bytes", false⟩,
      ⟨'m', "chars", false⟩] true 1 fun name arguments _ => do
  let letters := ['l', 'w', 'm', 'c'].filter arguments.has
  let letters := if letters.isEmpty then ['l', 'w', 'c'] else letters
  let paths := arguments.operands
  let width ← countWidth paths letters.length
  let count (path : Bytes) (descriptor : Descriptor) : Task (Option Counts) :=
    foldParts name path descriptor
      (fun counts part => return .more (part.foldl Counts.add counts)) Task.ampleSteps {}
  let rec go : List Bytes → Counts → Nat → Task (Counts × Nat)
    | [], total, code => return (total, code)
    | path :: others, total, code => do
      match ← openInput name path with
      | none => go others total 1
      | some descriptor => do
        let counts ← count path descriptor
        if descriptor != 0 then Task.tell (.close descriptor)
        let shownPath := if paths.isEmpty then none else some path
        say name ((counts.getD {}).line letters width shownPath)
        go others (total.plus (counts.getD {})) (if counts.isSome then code else 1)
  let (total, code) ← go (if paths.isEmpty then [[Byte.hyphen]] else paths) {} 0
  if paths.length > 1 then say name (total.line letters width (some (utf8 "total")))
  return code

/-! ## Beginnings and ends -/

/-- Options like `-3` in the place of `-n 3`. -/
def withPlainCount (arguments : List Bytes) : List Bytes :=
  match arguments with
  | (Byte.hyphen :: b :: digits) :: rest =>
    if Decimal.isNumeral (b :: digits) then utf8 "-n" :: (b :: digits) :: rest else arguments
  | _ => arguments

/-- The number with its unit. -/
def amount? (text : Bytes) : Option Nat :=
  let digits := text.takeWhile Byte.isDigit
  if digits.isEmpty then none
  else
    let value := Decimal.value digits
    ([("", 1), ("b", 512), ("k", 1024), ("K", 1024), ("kB", 1000), ("KB", 1000), ("M", 1048576),
        ("MB", 1000000), ("G", 1073741824)].find?
      fun entry => utf8 entry.1 == text.drop digits.length).map fun entry => value * entry.2

/-- The header in front of a file when there are several. -/
def fileHeader (first : Bool) (path : Bytes) : Bytes :=
  let shownPath := if path == [Byte.hyphen] then utf8 "standard input" else path
  (if first then [] else [Byte.lineFeed]) ++ utf8 "==> " ++ shownPath ++ utf8 " <==\n"

/-- A text without its last lines. -/
def withoutLast (count : Nat) (text : Bytes) : Bytes :=
  let (lines, rest) := splitLines text
  let all := lines.map ended ++ if rest.isEmpty then [] else [rest]
  (all.take (all.length - count)).flatten

/-- The last lines of a text. -/
def lastLines (count : Nat) (text : Bytes) : Bytes :=
  let (lines, rest) := splitLines text
  let all := lines.map ended ++ if rest.isEmpty then [] else [rest]
  (all.drop (all.length - count)).flatten

/-- The words for a file that cannot be opened. -/
def notOpened (path : Bytes) : Bytes :=
  utf8 "cannot open " ++ shown path ++ utf8 " for reading"

/-- Prints the beginning of its input. -/
def head : Tool := fun name arguments environment =>
  let run := withOptions
      [⟨'n', "lines", true⟩, ⟨'c', "bytes", true⟩, ⟨'q', "quiet", false⟩,
        ⟨'v', "verbose", false⟩] true 1 fun name arguments _ => do
    let byBytes := arguments.has 'c'
    let text := (arguments.value? (if byBytes then 'c' else 'n')).getD (utf8 "10")
    let (fromEnd, digits) :=
      match text with
      | Byte.hyphen :: digits => (true, digits)
      | _ => (false, text)
    match amount? digits with
    | none => do
      let what := if byBytes then utf8 "bytes" else utf8 "lines"
      complain name (utf8 "invalid number of " ++ what ++ utf8 ": " ++ quoted text)
      return 1
    | some count => do
      let headers := (arguments.operands.length > 1 && !arguments.has 'q') || arguments.has 'v'
      let first := arguments.operands.headD [Byte.hyphen]
      eachInputOr notOpened name arguments.operands fun path descriptor => do
        if headers then say name (fileHeader (path == first) path)
        if fromEnd then do
          match ← readInput name (notRead path) descriptor with
          | none => return 1
          | some text => do
            say name (if byBytes then text.take (text.length - count) else withoutLast count text)
            return 0
        else if count == 0 then return 0
        else if byBytes then do
          let result ← foldParts name (notRead path) descriptor (fun (left : Nat) part => do
            let taken := part.take left
            say name taken
            let left := left - taken.length
            return if left == 0 then .enough left else .more left) Task.ampleSteps count
          return if result.isSome then 0 else 1
        else do
          let result ← foldLines name (notRead path) descriptor (fun (left : Nat) line complete =>
            (if left ≤ 1 then .enough 0 else .more (left - 1),
              if complete then ended line else line)) count
          return if result.isSome then 0 else 1
  run name (withPlainCount arguments) environment

/-- Prints the end of its input. -/
def tail : Tool := fun name arguments environment =>
  let run := withOptions
      [⟨'n', "lines", true⟩, ⟨'c', "bytes", true⟩, ⟨'q', "quiet", false⟩,
        ⟨'v', "verbose", false⟩, ⟨'f', "follow", false⟩] true 1 fun name arguments _ => do
    let byBytes := arguments.has 'c'
    let text := (arguments.value? (if byBytes then 'c' else 'n')).getD (utf8 "10")
    let (fromStart, digits) :=
      match text with
      | Byte.plus :: digits => (true, digits)
      | Byte.hyphen :: digits => (false, digits)
      | _ => (false, text)
    match amount? digits with
    | none => do
      let what := if byBytes then utf8 "bytes" else utf8 "lines"
      complain name (utf8 "invalid number of " ++ what ++ utf8 ": " ++ quoted text)
      return 1
    | some count => do
      let headers := (arguments.operands.length > 1 && !arguments.has 'q') || arguments.has 'v'
      let first := arguments.operands.headD [Byte.hyphen]
      let code ← eachInputOr notOpened name arguments.operands fun path descriptor => do
        if headers then say name (fileHeader (path == first) path)
        match ← readInput name (notRead path) descriptor with
        | none => return 1
        | some text => do
          let lines := (splitLines text).1.map ended ++ [(splitLines text).2]
          say name
            (if fromStart then
              if byBytes then text.drop (count - 1) else (lines.drop (count - 1)).flatten
            else if byBytes then text.drop (text.length - count)
            else lastLines count text)
          return 0
      if arguments.has 'f' then do
        let rec follow : Nat → Task Unit
          | 0 => return
          | fuel + 1 => do
            Task.tell (.sleep 1000000000)
            follow fuel
        follow Task.ampleSteps
      return code
  run name (withPlainCount arguments) environment

/-! ## Output without input -/

/-- Prints its arguments again and again. -/
def yes : Tool := fun name arguments _ => do
  let words := if arguments.head? == some (utf8 "--") then arguments.tail else arguments
  let line := ended (if words.isEmpty then utf8 "y" else Bytes.joinWith [Byte.space] words)
  let block := (List.replicate (8192 / line.length + 1) line).flatten
  let rec go : Nat → Task Nat
    | 0 => return 0
    | fuel + 1 => do
      say name block
      go fuel
  go Task.ampleSteps

/-- The numbers from one to another. -/
def sequence : Nat → Int → Int → Int → List Int
  | 0, _, _, _ => []
  | fuel + 1, first, step, last =>
    if (step > 0 && first > last) || (step < 0 && first < last) then []
    else first :: sequence fuel (first + step) step last

/-- Prints numbers in order. -/
def seq : Tool := fun name arguments _ => do
  let (separator, arguments) :=
    match arguments with
    | first :: rest =>
      if first == utf8 "-s" && !rest.isEmpty then (rest.headD [], rest.tail)
      else if (utf8 "-s").isPrefixOf first then (first.drop 2, rest)
      else ([Byte.lineFeed], arguments)
    | [] => ([Byte.lineFeed], [])
  let numbers := arguments.map Format.argumentValue
  match arguments.zip numbers |>.find? (!·.2.2) with
  | some (text, _) => misuse name (utf8 "invalid floating point argument: " ++ quoted text) 1
  | none => do
    let print (first step last : Int) : Task Nat := do
      let count := if step == 0 then 0 else ((last - first).natAbs / step.natAbs) + 1
      let texts := (sequence count first step last).map Decimal.signed
      if !texts.isEmpty then say name (ended (Bytes.joinWith separator texts))
      return 0
    match numbers.map (·.1) with
    | [last] => print 1 1 last
    | [first, last] => print first 1 last
    | [first, step, last] => print first step last
    | [] => misuse name (utf8 "missing operand") 1
    | _ => misuse name (utf8 "extra operand " ++ quoted (arguments.getD 3 [])) 1

/-- What an escape of `echo -e` stands for, and the text behind it. -/
def echoEscape (text : Bytes) : Bytes × Bytes :=
  let rest := text.tail
  if text.head? == some (Byte.of 'x') then
    let digits := (rest.take 2).takeWhile fun b => (Byte.hexValue? b).isSome
    if digits.isEmpty then (utf8 "\\x", rest)
    else
      let value := digits.foldl (fun n b => n * 16 + (Byte.hexValue? b).getD 0) 0
      ([UInt8.ofNat value], rest.drop digits.length)
  else if text.head? == some (Byte.of 'e') then ([Byte.escape], rest)
  else Format.escape true text

/-- A text with the escapes of `echo -e` replaced, and whether an escape ends all output. -/
def echoText : Nat → Bytes → Bytes → Bytes × Bool
  | 0, _, out => (out.reverse, false)
  | _ + 1, [], out => (out.reverse, false)
  | fuel + 1, b :: rest, out =>
    if b != Byte.backslash then echoText fuel rest (b :: out)
    else if rest.head? == some (Byte.of 'c') then (out.reverse, true)
    else
      let (bytes, rest) := echoEscape rest
      echoText fuel rest (bytes.reverse ++ out)

/-- The letters of the options of `echo`, and the arguments behind them. -/
def echoOptions : List Bytes → Bytes → Bytes × List Bytes
  | [], letters => (letters, [])
  | text :: rest, letters =>
    match text with
    | Byte.hyphen :: b :: more =>
      if (b :: more).all fun b => b == Byte.of 'n' || b == Byte.of 'e' || b == Byte.of 'E' then
        echoOptions rest (letters ++ b :: more)
      else (letters, text :: rest)
    | _ => (letters, text :: rest)

/-- Prints its arguments. -/
def echo : Tool := fun name arguments _ => do
  let (letters, words) := echoOptions arguments []
  let text := Bytes.joinWith [Byte.space] words
  let active := letters.reverse.find? (· != Byte.of 'n') == some (Byte.of 'e')
  let (text, stopped) :=
    if active then echoText (text.length + 1) text [] else (text, false)
  let newline := !letters.any (· == Byte.of 'n') && !stopped
  say name (if newline then ended text else text)
  return 0

/-- Prints its arguments by a format. -/
def printf : Tool := fun name arguments _ => do
  match arguments with
  | [] => misuse name (utf8 "missing operand") 1
  | format :: arguments => do
    let printed := Format.print format arguments
    say name printed.output
    for argument in printed.refused do
      complain name (quoted argument ++ utf8 ": expected a numeric value")
    return if printed.refused.isEmpty then 0 else 1

end Tool

end Host

end CueFront
