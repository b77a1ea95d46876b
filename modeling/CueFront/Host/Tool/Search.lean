import CueFront.Host.Tool.Basic
import CueFront.Pattern.Matcher
import CueFront.Pattern.Reader

/-!
# Searching lines

The tools that search have two spellings of expressions: plain ones, where operators have a
backslash, and extended ones.  Both are respelled as a pattern of the library
(`Expression.respell`), with one group in front for what stands before the match and one for
the match itself.
-/

namespace CueFront

namespace Host

namespace Tool

namespace Expression

/-- How an expression is spelled. -/
structure Spelling where
  /-- Operators have no backslash. -/
  extended : Bool := false
  /-- Every byte stands for itself. -/
  fixed : Bool := false
  /-- Upper and lower case are the same. -/
  anyCase : Bool := false
  /-- The whole line has to match. -/
  whole : Bool := false
  /-- The match has to be a word. -/
  word : Bool := false
  /-- The match has to stand at the start of the line. -/
  anchored : Bool := false

/-- A byte that stands for itself in a pattern. -/
def literal (b : UInt8) : Bytes :=
  if Byte.isAlphanumeric b || 128 ≤ b || b == Byte.space || b == Byte.underscore then [b]
  else if b < 32 || b == Byte.delete then
    utf8 "\\x" ++ [Byte.hexDigit (b.toNat / 16), Byte.hexDigit (b.toNat % 16)]
  else [92, b]

/-- A set in brackets, respelled up to its end, and the text behind it. -/
def bracket : Nat → Bool → Bytes → Bytes → Bytes × Bytes
  | 0, _, text, out => (out, text)
  | _ + 1, _, [], out => (out, [])
  | fuel + 1, first, b :: rest, out =>
    if b == Byte.closeBracket && !first then (out ++ [Byte.closeBracket], rest)
    else if b == Byte.closeBracket then bracket fuel false rest (out ++ utf8 "\\]")
    else if b == Byte.backslash then bracket fuel false rest (out ++ utf8 "\\\\")
    else if b == Byte.openBracket && rest.head? == some Byte.colon then
      let name := rest.tail.takeWhile (· != Byte.colon)
      bracket fuel false (rest.drop (name.length + 3))
        (out ++ utf8 "[:" ++ name ++ utf8 ":]")
    else bracket fuel false rest (out ++ [b])

/-- The groups in front of the groups of an expression. -/
def groupsBefore : Nat := 2

/-- The operators that have a backslash in plain expressions. -/
def operators : Bytes := utf8 "()\x7b\x7d|+?"

/-- An expression respelled as a pattern.  `start` says that nothing stands before. -/
def respell (spelling : Spelling) : Nat → Bool → Bytes → Bytes → Bytes
  | 0, _, _, out => out
  | _ + 1, _, [], out => out
  | fuel + 1, start, b :: rest, out =>
    let isOperator (b : UInt8) : Bool := operators.any (· == b)
    if b == Byte.backslash then
      match rest with
      | [] => out ++ [Byte.backslash, Byte.backslash]
      | c :: rest =>
        if isOperator c && !spelling.extended then
          respell spelling fuel (c == Byte.openParen || c == Byte.bar) rest (out ++ [c])
        else if c == Byte.less || c == Byte.greater then
          respell spelling fuel false rest (out ++ utf8 "\\b")
        else if Byte.isDigit c then
          respell spelling fuel false rest
            (out ++ [Byte.backslash] ++ Decimal.digits (c.toNat - 48 + groupsBefore))
        else if utf8 "wWsSbB" |>.any (· == c) then
          respell spelling fuel false rest (out ++ [92, c])
        else respell spelling fuel false rest (out ++ literal c)
    else if b == Byte.openBracket then
      let (negation, members) : Bytes × Bytes :=
        match rest with
        | Byte.caret :: rest => ([Byte.caret], rest)
        | _ => ([], rest)
      let (set, behind) := bracket (members.length + 1) true members (Byte.openBracket :: negation)
      respell spelling fuel false behind (out ++ set)
    else if b == Byte.dot then respell spelling fuel false rest (out ++ utf8 "[^\\n]")
    else if b == Byte.star then
      respell spelling fuel false rest (out ++ if start then utf8 "\\*" else [b])
    else if b == Byte.caret then
      respell spelling fuel true rest
        (out ++ if start || spelling.extended then [b] else utf8 "\\^")
    else if b == Byte.dollar then
      let atEnd := rest.isEmpty || (utf8 "\\)").isPrefixOf rest || (utf8 "\\|").isPrefixOf rest
      respell spelling fuel false rest
        (out ++ if atEnd || spelling.extended then [b] else utf8 "\\$")
    else if isOperator b && spelling.extended then
      respell spelling fuel (b == Byte.openParen || b == Byte.bar) rest (out ++ [b])
    else respell spelling fuel false rest (out ++ literal b)

/-- An expression that can be searched for. -/
structure Searcher where
  /-- The pattern for a whole line. -/
  node : Pattern.Node
  /-- Whether upper and lower case are the same. -/
  anyCase : Bool

/-- The pattern for the lines that expressions are found in. -/
def linePattern (spelling : Spelling) (expressions : List Bytes) : Bytes :=
  let fold (text : Bytes) : Bytes := if spelling.anyCase then text.map Byte.toLower else text
  let alternatives := expressions.map fun text =>
    if spelling.fixed then ((fold text).map literal).flatten
    else respell spelling (text.length + 1) true (fold text) []
  let inner := Bytes.joinWith [Byte.bar] alternatives
  let inner := if spelling.word then utf8 "\\b(?:" ++ inner ++ utf8 ")\\b" else inner
  let before := if spelling.whole || spelling.anchored then utf8 "()" else utf8 "([^\\n]*?)"
  let behind := if spelling.whole then [] else utf8 "[^\\n]*"
  before ++ utf8 "(" ++ inner ++ utf8 ")" ++ behind

/-- Reads expressions; nothing if one of them is malformed. -/
def read? (spelling : Spelling) (expressions : List Bytes) : Option Searcher :=
  match Pattern.read (linePattern spelling expressions) with
  | .ok readable => some ⟨(readable.expr.unfold 0).1, spelling.anyCase⟩
  | .error _ => none

/-- A match in a line. -/
structure Found where
  /-- What stands before the match. -/
  before : Bytes
  /-- The match. -/
  text : Bytes
  /-- What stands behind it. -/
  behind : Bytes
  /-- The groups of the expression by number. -/
  groups : Nat → Bytes

/-- The first match in a line. -/
def find? (searcher : Searcher) (line : Bytes) : Option Found := do
  let folded := if searcher.anyCase then line.map Byte.toLower else line
  let captures ← searcher.node.matchLine? folded
  let start := ((captures.get? 1).getD []).length
  let size := ((captures.get? groupsBefore).getD []).length
  some
    { before := line.take start
      text := (line.drop start).take size
      behind := line.drop (start + size)
      groups := fun n =>
        if n == 0 then (line.drop start).take size
        else (captures.get? (n + groupsBefore)).getD [] }

/-- All matches in a line, given enough steps. -/
def findAll (searcher : Searcher) : Nat → Bytes → List Found
  | 0, _ => []
  | fuel + 1, line =>
    match find? searcher line with
    | none => []
    | some found =>
      if found.behind.isEmpty then [found]
      else if found.text.isEmpty then found :: findAll searcher fuel (found.behind.drop 1)
      else found :: findAll searcher fuel found.behind

end Expression

/-! ## Printing the lines that fit -/

/-- What searching a file has found so far. -/
structure Hits where
  /-- The number of lines. -/
  lines : Nat := 0
  /-- The number of lines that fit. -/
  count : Nat := 0

/-- Prints the lines that expressions are found in. -/
def grep : Tool := withOptions
    [⟨'E', "extended-regexp", false⟩, ⟨'F', "fixed-strings", false⟩, ⟨'G', "", false⟩,
      ⟨'P', "", false⟩, ⟨'i', "ignore-case", false⟩, ⟨'v', "invert-match", false⟩,
      ⟨'c', "count", false⟩, ⟨'n', "line-number", false⟩, ⟨'o', "only-matching", false⟩,
      ⟨'q', "quiet", false⟩, ⟨'s', "no-messages", false⟩, ⟨'x', "line-regexp", false⟩,
      ⟨'w', "word-regexp", false⟩, ⟨'l', "files-with-matches", false⟩, ⟨'h', "", false⟩,
      ⟨'H', "with-filename", false⟩, ⟨'a', "text", false⟩, ⟨'e', "regexp", true⟩,
      ⟨'m', "max-count", true⟩] true 2 fun name arguments _ => do
  let given := (arguments.options.filter (·.1 == 'e')).map (·.2)
  let (given, paths) :=
    if !given.isEmpty then (given, arguments.operands)
    else
      match arguments.operands with
      | text :: paths => ([text], paths)
      | [] => ([], [])
  if given.isEmpty then do
    let _ ← Task.writeAll 2 (utf8 "Usage: grep [OPTION]... PATTERNS [FILE]...\n" ++
      utf8 "Try 'grep --help' for more information.\n")
    return 2
  else
    let expressions := (given.map (Bytes.splitOn Byte.lineFeed)).flatten
    let spelling : Expression.Spelling :=
      { extended := arguments.has 'E' || arguments.has 'P', fixed := arguments.has 'F'
        anyCase := arguments.has 'i', whole := arguments.has 'x', word := arguments.has 'w' }
    match Expression.read? spelling expressions with
    | none => do
      complain name (utf8 "Invalid regular expression")
      return 2
    | some searcher => do
      let most := (arguments.value? 'm').map Decimal.value
      let silent := arguments.has 'q' || arguments.has 'c' || arguments.has 'l'
      let named := (paths.length > 1 || arguments.has 'H') && !arguments.has 'h'
      let rec go : List Bytes → Bool → Bool → Task (Bool × Bool)
        | [], found, failed => return (found, failed)
        | path :: others, found, failed => do
          match ← openInput name path with
          | none => go others found true
          | some descriptor => do
            let label (mark : UInt8) (n : Nat) : Bytes :=
              (if named then path ++ [mark] else []) ++
                if arguments.has 'n' then Decimal.digits n ++ [mark] else []
            let act (hits : Hits) (line : Bytes) (_ : Bool) : Step Hits × Bytes :=
              let hits := { hits with lines := hits.lines + 1 }
              let matching := (Expression.find? searcher line).isSome != arguments.has 'v'
              if !matching then (.more hits, [])
              else
                let hits := { hits with count := hits.count + 1 }
                let text :=
                  if silent then []
                  else if arguments.has 'o' then
                    if arguments.has 'v' then []
                    else
                      let texts := (Expression.findAll searcher (line.length + 1) line).filterMap
                        fun found => if found.text.isEmpty then none else some found.text
                      (texts.map fun text => label Byte.colon hits.lines ++ ended text).flatten
                  else label Byte.colon hits.lines ++ ended line
                let stops := arguments.has 'q' || arguments.has 'l' || most == some hits.count
                (if stops then .enough hits else .more hits, text)
            let fold ←
              if most == some 0 then pure (some { state := ({} : Hits) })
              else foldLines name path descriptor act ({} : Hits)
            if descriptor != 0 then Task.tell (.close descriptor)
            match fold with
            | none => go others found true
            | some fold => do
              let count := fold.state.count
              if arguments.has 'l' then do
                if count > 0 then say name (ended path)
              else if arguments.has 'c' && !arguments.has 'q' then
                say name ((if named then path ++ [Byte.colon] else []) ++
                  ended (Decimal.digits count))
              go others (found || count > 0) failed
      let (found, failed) ← go (if paths.isEmpty then [[Byte.hyphen]] else paths) false false
      return if found && (arguments.has 'q' || !failed) then 0 else if failed then 2 else 1

/-! ## Editing lines -/

/-- What is done to a line. -/
inductive Edit where
  /-- Replaces what an expression finds: all matches, or the one with a number. -/
  | replace (searcher : Expression.Searcher) (replacement : Bytes) (all prints : Bool)
      (number : Nat)
  /-- Prints the line. -/
  | print
  /-- Drops the line. -/
  | delete
  /-- Ends after the line. -/
  | quit
  /-- Prints the number of the line. -/
  | number
  /-- Replaces bytes by bytes. -/
  | transliterate (source target : Bytes)

/-- Which lines an edit is for. -/
inductive Address where
  /-- A line by its number. -/
  | line (number : Nat)
  /-- The last line. -/
  | last
  /-- The lines that a pattern fits. -/
  | matching (searcher : Expression.Searcher)

/-- An edit with its addresses. -/
structure EditRule where
  /-- Where the command starts to apply. -/
  first : Option Address := none
  /-- Where it stops to apply. -/
  second : Option Address := none
  /-- Whether it applies elsewhere instead. -/
  negated : Bool := false
  /-- What it does. -/
  edit : Edit

/-- The text up to an unprotected mark, and the text behind the mark. -/
def untilMark (mark : UInt8) : Nat → Bytes → Bytes → Option (Bytes × Bytes)
  | 0, _, _ => none
  | _ + 1, [], _ => none
  | fuel + 1, b :: rest, out =>
    if b == mark then some (out.reverse, rest)
    else if b == Byte.backslash then
      match rest with
      | c :: rest =>
        if c == mark then untilMark mark fuel rest (c :: out)
        else untilMark mark fuel rest (c :: Byte.backslash :: out)
      | [] => none
    else untilMark mark fuel rest (b :: out)

/-- Reads an address. -/
def readAddress (spelling : Expression.Spelling) (text : Bytes) :
    Option (Option Address × Bytes) :=
  match text with
  | Byte.dollar :: rest => some (some .last, rest)
  | Byte.slash :: rest => do
    let (expression, rest) ← untilMark Byte.slash (rest.length + 1) rest []
    let searcher ← Expression.read? spelling [expression]
    some (some (.matching searcher), rest)
  | _ =>
    let digits := text.takeWhile Byte.isDigit
    if digits.isEmpty then some (none, text)
    else some (some (.line (Decimal.value digits)), text.drop digits.length)

/-- Reads an edit without its addresses. -/
def readEdit (spelling : Expression.Spelling) (text : Bytes) : Option (Edit × Bytes) :=
  let letter := text.head?.map fun b => Char.ofNat b.toNat
  match letter, text.tail with
  | some 'p', rest => some (.print, rest)
  | some 'd', rest => some (.delete, rest)
  | some 'q', rest => some (.quit, rest)
  | some '=', rest => some (.number, rest)
  | some 's', mark :: rest => do
    let (expression, rest) ← untilMark mark (rest.length + 1) rest []
    let (replacement, rest) ← untilMark mark (rest.length + 1) rest []
    let flags := rest.takeWhile Byte.isAlphanumeric
    let anyCase := flags.any fun b => b == Byte.of 'i' || b == Byte.of 'I'
    let searcher ← Expression.read? { spelling with anyCase } [expression]
    let digits := flags.filter Byte.isDigit
    let number := if digits.isEmpty then 1 else Decimal.value digits
    some (.replace searcher replacement (flags.any (· == Byte.of 'g'))
      (flags.any (· == Byte.of 'p')) number, rest.drop flags.length)
  | some 'y', mark :: rest => do
    let (source, rest) ← untilMark mark (rest.length + 1) rest []
    let (target, rest) ← untilMark mark (rest.length + 1) rest []
    some (.transliterate source target, rest)
  | _, _ => none

/-- Reads the edits of a script. -/
def readEdits (spelling : Expression.Spelling) : Nat → Bytes → Option (List EditRule)
  | 0, _ => none
  | fuel + 1, text => do
    let text := text.dropWhile fun b => Byte.isSpace b || b == Byte.semicolon
    if text.isEmpty then some []
    else
      let (first, text) ← readAddress spelling text
      let (second, text) ←
        match text with
        | Byte.comma :: rest => readAddress spelling rest
        | _ => some (none, text)
      let text := text.dropWhile (· == Byte.space)
      let (negated, text) :=
        match text with
        | Byte.bang :: rest => (true, rest)
        | _ => (false, text)
      let (edit, text) ← readEdit spelling text
      let others ← readEdits spelling fuel text
      some (⟨first, second, negated, edit⟩ :: others)

/-- The text in place of a match. -/
def replacementFor (found : Expression.Found) : Bytes → Bytes
  | [] => []
  | Byte.backslash :: b :: rest =>
    (if Byte.isDigit b then found.groups (b.toNat - 48)
      else if b == Byte.of 'n' then [Byte.lineFeed]
      else if b == Byte.of 't' then [Byte.tab]
      else [b]) ++
      replacementFor found rest
  | Byte.ampersand :: rest => found.text ++ replacementFor found rest
  | b :: rest => b :: replacementFor found rest

/-- The line with matches replaced, and whether any was. -/
def replaceIn (searcher : Expression.Searcher) (replacement : Bytes) (all : Bool) (number : Nat) :
    Nat → Nat → Bytes → Bytes × Bool
  | 0, _, line => (line, false)
  | fuel + 1, count, line =>
    match Expression.find? searcher line with
    | none => (line, false)
    | some found =>
      let chosen := if all then number ≤ count else number == count
      let text := if chosen then replacementFor found replacement else found.text
      if chosen && !all then (found.before ++ text ++ found.behind, true)
      else if found.behind.isEmpty then (found.before ++ text, chosen)
      else
        let (step, behind) :=
          if found.text.isEmpty then (found.behind.take 1, found.behind.drop 1)
          else ([], found.behind)
        let (rest, more) := replaceIn searcher replacement all number fuel (count + 1) behind
        (found.before ++ text ++ step ++ rest, chosen || more)

/-- Whether an address is that of a line. -/
def Address.fits (number : Nat) (isLast : Bool) (line : Bytes) : Address → Bool
  | .line n => n == number
  | .last => isLast
  | .matching searcher => (Expression.find? searcher line).isSome

/-- Whether a rule is for a line, and whether it is inside its range afterwards. -/
def EditRule.selects (rule : EditRule) (inside : Bool) (number : Nat) (isLast : Bool)
    (line : Bytes) : Bool × Bool :=
  let (selected, inside) :=
    match rule.first, rule.second with
    | none, _ => (true, false)
    | some first, none => (first.fits number isLast line, false)
    | some first, some second =>
      if inside then
        match second with
        | .line n => (true, number < n)
        | _ => (true, !second.fits number isLast line)
      else if first.fits number isLast line then
        match second with
        | .line n => (true, number < n)
        | _ => (true, !isLast)
      else (false, false)
  (selected != rule.negated, inside)

/-- What edits make of a line. -/
structure Edited where
  /-- The line as it is now. -/
  line : Bytes
  /-- What was printed. -/
  output : Bytes := []
  /-- Whether the line is not printed. -/
  deleted : Bool := false
  /-- Whether no line follows. -/
  halted : Bool := false

/-- Edits a line by one edit. -/
def Edit.apply (edit : Edit) (number : Nat) (state : Edited) : Edited :=
  match edit with
  | .print => { state with output := state.output ++ ended state.line }
  | .delete => { state with deleted := true }
  | .quit => { state with halted := true }
  | .number => { state with output := state.output ++ ended (Decimal.digits number) }
  | .transliterate source target =>
    { state with
      line := state.line.map fun b => ((source.zip target).lookup b).getD b }
  | .replace searcher replacement all prints n =>
    let (line, changed) :=
      replaceIn searcher replacement all n (state.line.length + 2) 1 state.line
    { state with
      line
      output := if changed && prints then state.output ++ ended line else state.output }

/-- Edits lines. -/
def editLines (rules : List EditRule) (quiet : Bool) :
    List (Bytes × Bool) → Nat → List Bool → List Bytes → List Bytes
  | [], _, _, output => output
  | (line, complete) :: lines, number, inside, output =>
    let isLast := lines.isEmpty
    let (state, insideAfter) := (rules.zip inside).foldl (fun (state, after) (rule, inside) =>
      if state.deleted || state.halted then (state, after ++ [inside])
      else
        let (selected, inside) := rule.selects inside number isLast state.line
        (if selected then rule.edit.apply number state else state, after ++ [inside]))
      (({ line } : Edited), [])
    let text := if quiet || state.deleted then []
      else if complete then ended state.line else state.line
    let output := (state.output ++ text) :: output
    if state.halted then output else editLines rules quiet lines (number + 1) insideAfter output

/-- Edits its input by a script. -/
def sed : Tool := withOptions
    [⟨'n', "quiet", false⟩, ⟨'e', "expression", true⟩, ⟨'E', "regexp-extended", false⟩,
      ⟨'r', "", false⟩, ⟨'u', "unbuffered", false⟩] true 1 fun name arguments _ => do
  let given := (arguments.options.filter (·.1 == 'e')).map (·.2)
  let (given, paths) :=
    if !given.isEmpty then (given, arguments.operands)
    else
      match arguments.operands with
      | text :: paths => ([text], paths)
      | [] => ([], [])
  let script := Bytes.joinWith [Byte.lineFeed] given
  let spelling : Expression.Spelling := { extended := arguments.has 'E' || arguments.has 'r' }
  match readEdits spelling (script.length + 1) script with
  | none => do
    complain name (utf8 "-e expression #1, char 0: unknown command")
    return 1
  | some rules => do
    let texts ← (if paths.isEmpty then [[Byte.hyphen]] else paths).mapM fun path => do
      match ← openInputOr (utf8 "can't read " ++ ·) name path with
      | none => return none
      | some descriptor => do
        let text ← readInput name (utf8 "read error on " ++ path) descriptor
        if descriptor != 0 then Task.tell (.close descriptor)
        return text
    let lines := (texts.filterMap id).map fun text =>
      let (lines, rest) := splitLines text
      lines.map (·, true) ++ if rest.isEmpty then [] else [(rest, false)]
    let output := editLines rules (arguments.has 'n') lines.flatten 1 (rules.map fun _ => false) []
    say name output.reverse.flatten
    return if texts.all (·.isSome) then 0 else 2

end Tool

end Host

end CueFront
