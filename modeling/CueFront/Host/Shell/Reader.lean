import CueFront.Host.Shell.Syntax

/-!
# Reading scripts

`readLine` reads the next complete command of a script, which can take several lines, and
leaves the rest.  A script is read and run one such command after the other, so a mistake
shows only when its line is reached.

The text behind `<<` stands on the lines below.  It is cut out of the script as soon as its
redirect is read.
-/

namespace CueFront

namespace Host

namespace Shell

/-! ## What is left of a script, and what can be wrong with it -/

/-- A token of a script. -/
inductive Token where
  /-- The end of the script. -/
  | finish
  /-- The end of a line. -/
  | newline
  /-- The sign between commands. -/
  | semicolon
  /-- The sign behind a command that nobody waits for. -/
  | ampersand
  /-- The sign in front of a command that runs after a success. -/
  | andIf
  /-- The sign between the commands of a pipeline. -/
  | pipe
  /-- The sign in front of a command that runs after a failure. -/
  | orIf
  /-- An opening parenthesis. -/
  | opening
  /-- A closing parenthesis. -/
  | closing
  /-- The sign behind an arm. -/
  | endArm
  /-- A redirect. -/
  | redirect (redirect : Redirect)
  /-- A word. -/
  | word (word : Word)

/-- The rest of a script. -/
structure Script where
  /-- The bytes not read yet. -/
  rest : Bytes
  /-- The number of the current line. -/
  line : Nat := 1
  /-- The number of lines that were cut out below the current line. -/
  cutOut : Nat := 0
  /-- A token that was read and put back. -/
  back : Option Token := none

/-- What is wrong with a script. -/
structure Mistake where
  /-- The line. -/
  line : Nat
  /-- What is wrong, as it is shown. -/
  text : Bytes
deriving DecidableEq, Repr

/-- A part of the reader. -/
abbrev Reader := StateT Script (Except Mistake)

/-- Gives up with a text. -/
def refuse {α : Type} (text : Bytes) : Reader α := do
  throw ⟨(← get).line, utf8 "Syntax error: " ++ text⟩

/-- The text of a word that is made of plain text only. -/
def plain? (word : Word) : Option Bytes :=
  match word with
  | [.text bytes] => some bytes
  | _ => none

/-- The text for a token in a message. -/
def Token.shown : Token → Bytes
  | .finish => utf8 "end of file"
  | .newline => utf8 "newline"
  | .semicolon => utf8 "\";\""
  | .ampersand => utf8 "\"&\""
  | .andIf => utf8 "\"&&\""
  | .pipe => utf8 "\"|\""
  | .orIf => utf8 "\"||\""
  | .opening => utf8 "\"(\""
  | .closing => utf8 "\")\""
  | .endArm => utf8 "\";;\""
  | .redirect _ => utf8 "redirection"
  | .word pieces =>
    match plain? pieces with
    | some text =>
      if reserved.contains text then utf8 "\"" ++ text ++ utf8 "\"" else utf8 "word"
    | none => utf8 "word"

/-- The token of a special word. -/
def Token.ofText (text : String) : Token := .word [.text (utf8 text)]

/-- Whether a token is a special word. -/
def Token.isText (token : Token) (text : String) : Bool :=
  match token with
  | .word pieces => plain? pieces == some (utf8 text)
  | _ => false

/-- Whether a token ends a list of commands. -/
def Token.endsList : Token → Bool
  | .finish | .closing | .endArm => true
  | .word pieces => ((plain? pieces).map closers.contains).getD false
  | _ => false

/-- Gives up at a token.  Another may be expected there. -/
def unexpected {α : Type} (token : Token) (expected : Option Token) : Reader α :=
  refuse (token.shown ++ utf8 " unexpected" ++
    match expected with
    | some other => utf8 " (expecting " ++ other.shown ++ utf8 ")"
    | none => [])

/-! ## Bytes -/

/-- The bytes not read yet. -/
def rest : Reader Bytes := return (← get).rest

/-- Skips bytes, and counts their lines.  Lines that were cut out below the first of them
count too. -/
def skip (count : Nat) : Reader Unit :=
  modify fun script =>
    let lines := ((script.rest.take count).filter (· == Byte.lineFeed)).length
    let rest := script.rest.drop count
    if lines == 0 then { script with rest }
    else { script with rest, line := script.line + lines + script.cutOut, cutOut := 0 }

/-- Reads the longest run of bytes that fit. -/
def readWhile (fits : UInt8 → Bool) : Reader Bytes := do
  let bytes := (← rest).takeWhile fits
  skip bytes.length
  return bytes

/-- Whether a byte ends a plain word. -/
def endsWord (b : UInt8) : Bool :=
  b == Byte.space || b == Byte.tab || b == Byte.lineFeed || b == Byte.semicolon ||
    b == Byte.ampersand || b == Byte.bar || b == Byte.less || b == Byte.greater ||
    b == Byte.openParen || b == Byte.closeParen

/-- Whether a byte means more than itself in a word. -/
def startsPiece (b : UInt8) : Bool :=
  b == Byte.backslash || b == Byte.singleQuote || b == Byte.doubleQuote ||
    b == Byte.backquote || b == Byte.dollar

/-- Whether a byte means more than itself in double quotes. -/
def activeInQuotes (b : UInt8) : Bool :=
  b == Byte.backslash || b == Byte.doubleQuote || b == Byte.backquote || b == Byte.dollar

/-- Whether a parameter has the byte as its name. -/
def isSpecialName (b : UInt8) : Bool :=
  b == Byte.atSign || b == Byte.star || b == Byte.hash || b == Byte.question ||
    b == Byte.dollar || b == Byte.bang || b == Byte.hyphen

/-- Skips blanks, comments and line ends that are no line ends. -/
def skipBlanks : Nat → Reader Unit
  | 0 => return
  | fuel + 1 => do
    match ← rest with
    | Byte.backslash :: Byte.lineFeed :: _ => do skip 2; skipBlanks fuel
    | b :: _ =>
      if b == Byte.space || b == Byte.tab then do skip 1; skipBlanks fuel
      else if b == Byte.hash then do
        let _ ← readWhile (· != Byte.lineFeed)
        return
      else return
    | [] => return

/-- The text up to the backquote that ends it, without the backslashes that protect. -/
def backquotedText (quoted : Bool) : Nat → Bytes → Reader Bytes
  | 0, _ => refuse (utf8 "EOF in backquote substitution")
  | fuel + 1, text => do
    match ← rest with
    | [] => refuse (utf8 "EOF in backquote substitution")
    | Byte.backquote :: _ => do skip 1; return text.reverse
    | Byte.backslash :: b :: _ => do
      skip 2
      if b == Byte.backslash || b == Byte.backquote || b == Byte.dollar ||
          (quoted && b == Byte.doubleQuote) then
        backquotedText quoted fuel (b :: text)
      else backquotedText quoted fuel (b :: Byte.backslash :: text)
    | b :: _ => do skip 1; backquotedText quoted fuel (b :: text)

/-! ## Texts on the lines below -/

/-- Whether a word has quotes anywhere. -/
def hasQuotes (word : Word) : Bool :=
  word.any fun
    | .quoted _ => true
    | _ => false

/-- The text of a word as it was written, without its quotes. -/
def literalText (word : Word) : Bytes :=
  (word.map fun
    | .text bytes | .quoted bytes => bytes
    | _ => []).flatten

/-- The text of the lines up to one that is the delimiter, and the lines behind it.  Only
the last of the lines has no end. -/
def linesUntil (delimiter : Bytes) (stripTabs : Bool) : List Bytes → Bytes × List Bytes
  | [] => ([], [])
  | line :: lines =>
    let line := if stripTabs then line.dropWhile (· == Byte.tab) else line
    if line == delimiter then ([], lines)
    else if lines.isEmpty then (line, [])
    else
      let (text, rest) := linesUntil delimiter stripTabs lines
      (line ++ Byte.lineFeed :: text, rest)

/-- Cuts the text for a redirect out of the lines below. -/
def cutText (delimiter : Bytes) (stripTabs : Bool) : Reader Bytes := do
  let bytes ← rest
  let current := bytes.takeWhile (· != Byte.lineFeed)
  let below := bytes.drop (current.length + 1)
  let lines := Bytes.splitOn Byte.lineFeed below
  let (text, behind) := linesUntil delimiter stripTabs lines
  modify fun script =>
    { script with
      rest := current ++ Byte.lineFeed :: Bytes.joinWith [Byte.lineFeed] behind
      cutOut := script.cutOut + (lines.length - behind.length) }
  return text

/-! ## Commands from their parts -/

/-- One command after another, where either can be nothing. -/
def inSequence (first second : Command) : Command :=
  match first, second with
  | .nothing, _ => second
  | _, .nothing => first
  | _, _ => .sequence first second

/-- A command with redirects, if there are any. -/
def withRedirects (command : Command) (redirects : List Redirect) : Command :=
  if redirects.isEmpty then command else .redirected command redirects

/-- The name and the value of a word that is an assignment. -/
def assignment? (word : Word) : Option (Bytes × Word) :=
  match word with
  | .text bytes :: pieces =>
    let name := bytes.takeWhile (· != Byte.equals)
    match bytes.drop name.length with
    | _ :: value =>
      if isName name then some (name, if value.isEmpty then pieces else .text value :: pieces)
      else none
    | [] => none
  | _ => none

/-- Puts a token back. -/
def putBack (token : Token) : Reader Unit := modify ({ · with back := some token })

/-! ## The reader -/

mutual

/-- Reads the rest of a word. -/
def readWord : Nat → Reader Word
  | 0 => return []
  | fuel + 1 => do
    match ← rest with
    | [] => return []
    | b :: after =>
      if endsWord b then return []
      else if b == Byte.backslash then
        match after with
        | [] => do skip 1; return [.quoted [b]]
        | c :: _ => do
          skip 2
          let more ← readWord fuel
          return if c == Byte.lineFeed then more else .quoted [c] :: more
      else if b == Byte.singleQuote then do
        skip 1
        let text ← readWhile (· != Byte.singleQuote)
        if (← rest).isEmpty then refuse (utf8 "Unterminated quoted string")
        skip 1
        return .quoted text :: (← readWord fuel)
      else if b == Byte.doubleQuote then do
        skip 1
        let pieces ← readQuoted fuel Byte.doubleQuote
        let pieces := if pieces.isEmpty then [.quoted []] else pieces
        return pieces ++ (← readWord fuel)
      else if b == Byte.backquote || b == Byte.dollar then do
        let piece ← readExpansion fuel false
        return piece :: (← readWord fuel)
      else do
        let text ← readWhile fun b => !endsWord b && !startsPiece b
        return .text text :: (← readWord fuel)

/-- Reads text in double quotes up to the byte that ends it.  The text below a redirect ends
with a zero byte, and double quotes mean only themselves in it. -/
def readQuoted : Nat → UInt8 → Reader (List Piece)
  | 0, _ => return []
  | fuel + 1, closer => do
    match ← rest with
    | [] => refuse (utf8 "Unterminated quoted string")
    | b :: after =>
      if b == closer then do skip 1; return []
      else if b == Byte.backslash then
        match after with
        | c :: _ =>
          if c == Byte.lineFeed then do skip 2; readQuoted fuel closer
          else if (activeInQuotes c && !(closer == 0 && c == Byte.doubleQuote)) ||
              c == closer then do
            skip 2
            return .quoted [c] :: (← readQuoted fuel closer)
          else do
            skip 1
            return .quoted [b] :: (← readQuoted fuel closer)
        | [] => refuse (utf8 "Unterminated quoted string")
      else if b == Byte.backquote || b == Byte.dollar then do
        let piece ← readExpansion fuel true
        return piece :: (← readQuoted fuel closer)
      else if b == Byte.doubleQuote && closer == 0 then do
        skip 1
        return .quoted [b] :: (← readQuoted fuel closer)
      else if b == Byte.doubleQuote then do
        skip 1
        let pieces ← readQuoted fuel Byte.doubleQuote
        return pieces ++ (← readQuoted fuel closer)
      else do
        let text ← readWhile fun b => !activeInQuotes b && b != closer
        return .quoted text :: (← readQuoted fuel closer)

/-- Reads what a dollar sign or a backquote starts. -/
def readExpansion : Nat → Bool → Reader Piece
  | 0, _ => return .text []
  | fuel + 1, quoted => do
    match ← rest with
    | Byte.backquote :: _ => do
      skip 1
      let line := (← get).line
      let text ← backquotedText quoted fuel []
      let script ← get
      set ({ rest := text, line } : Script)
      let body ← readList fuel true
      match ← readToken fuel with
      | .finish => set script; return .output body quoted
      | token => unexpected token none
    | Byte.dollar :: Byte.openParen :: Byte.openParen :: _ => do
      skip 3
      return .arithmetic (← readArithmetic fuel 0) quoted
    | Byte.dollar :: Byte.openParen :: _ => do
      skip 2
      let body ← readList fuel true
      match ← readToken fuel with
      | .closing => return .output body quoted
      | token => unexpected token (some .closing)
    | Byte.dollar :: Byte.openBrace :: _ => do
      skip 2
      readBraced fuel quoted
    | Byte.dollar :: b :: _ =>
      if isSpecialName b || Byte.isDigit b then do skip 2; return .parameter [b] quoted
      else if Byte.isWord b then do
        skip 1
        return .parameter (← readWhile Byte.isWord) quoted
      else do
        skip 1
        return if quoted then .quoted [Byte.dollar] else .text [Byte.dollar]
    | _ => do
      skip 1
      return if quoted then .quoted [Byte.dollar] else .text [Byte.dollar]

/-- Reads an arithmetic expression up to the parentheses that end it. -/
def readArithmetic : Nat → Nat → Reader (List Piece)
  | 0, _ => return []
  | fuel + 1, depth => do
    match ← rest with
    | [] => refuse (utf8 "Missing '))'")
    | Byte.closeParen :: after =>
      match depth, after with
      | 0, Byte.closeParen :: _ => do skip 2; return []
      | 0, _ => refuse (utf8 "Missing '))'")
      | depth + 1, _ => do
        skip 1
        return .text [Byte.closeParen] :: (← readArithmetic fuel depth)
    | Byte.openParen :: _ => do
      skip 1
      return .text [Byte.openParen] :: (← readArithmetic fuel (depth + 1))
    | b :: _ =>
      if b == Byte.backquote || b == Byte.dollar then do
        let piece ← readExpansion fuel true
        return piece :: (← readArithmetic fuel depth)
      else if b == Byte.doubleQuote then do skip 1; readArithmetic fuel depth
      else do
        let text ← readWhile fun b =>
          !activeInQuotes b && b != Byte.openParen && b != Byte.closeParen
        if text.isEmpty then do
          skip 1
          return .text [b] :: (← readArithmetic fuel depth)
        else return .text text :: (← readArithmetic fuel depth)

/-- Reads a parameter in braces. -/
def readBraced : Nat → Bool → Reader Piece
  | 0, _ => return .text []
  | fuel + 1, quoted => do
    let name : Reader Bytes := do
      match ← rest with
      | b :: _ => readWhile (if Byte.isDigit b then Byte.isDigit else Byte.isWord)
      | [] => return []
    let length (name : Bytes) : Reader Piece := do
      match ← rest with
      | Byte.closeBrace :: _ => do skip 1; return .modified name .length false [] quoted
      | _ => readModifier fuel quoted name .unknown false
    match ← rest with
    | Byte.hash :: b :: more => do
      skip 1
      if Byte.isWord b then length (← name)
      else if more.head? == some Byte.closeBrace && b != Byte.closeBrace then
        if isSpecialName b then do
          skip 1
          length [b]
        else readModifier fuel quoted [] .unknown false
      else readModified fuel quoted [Byte.hash]
    | b :: _ =>
      if isSpecialName b then do
        skip 1
        readModified fuel quoted [b]
      else if Byte.isWord b then readModified fuel quoted (← name)
      else readModifier fuel quoted [] .unknown false
    | [] => readModifier fuel quoted [] .unknown false

/-- Reads the modifier behind the name of a parameter, up to the brace. -/
def readModified : Nat → Bool → Bytes → Reader Piece
  | 0, _, _ => return .text []
  | fuel + 1, quoted, name => do
    let modified (count : Nat) (modifier : Modifier) (emptyToo : Bool) : Reader Piece := do
      skip count
      readModifier fuel quoted name modifier emptyToo
    match ← rest with
    | Byte.closeBrace :: _ => do skip 1; return .parameter name quoted
    | Byte.colon :: Byte.hyphen :: _ => modified 2 .default true
    | Byte.hyphen :: _ => modified 1 .default false
    | Byte.colon :: Byte.equals :: _ => modified 2 .assign true
    | Byte.equals :: _ => modified 1 .assign false
    | Byte.colon :: Byte.question :: _ => modified 2 .demand true
    | Byte.question :: _ => modified 1 .demand false
    | Byte.colon :: Byte.plus :: _ => modified 2 .alternative true
    | Byte.plus :: _ => modified 1 .alternative false
    | Byte.percent :: Byte.percent :: _ => modified 2 (.trimEnd true) false
    | Byte.percent :: _ => modified 1 (.trimEnd false) false
    | Byte.hash :: Byte.hash :: _ => modified 2 (.trimStart true) false
    | Byte.hash :: _ => modified 1 (.trimStart false) false
    | _ => modified 0 .unknown false

/-- Reads the word of a modifier, up to the brace.  A pattern is read as if it did not stand
in quotes. -/
def readModifier : Nat → Bool → Bytes → Modifier → Bool → Reader Piece
  | 0, _, _, _, _ => return .text []
  | fuel + 1, quoted, name, modifier, emptyToo => do
    let isPattern :=
      match modifier with
      | .trimStart _ | .trimEnd _ => true
      | _ => false
    let word ← if quoted && !isPattern then readQuoted fuel 125 else readBraceWord fuel
    return .modified name modifier emptyToo word quoted

/-- Reads the word of a modifier that does not stand in quotes. -/
def readBraceWord : Nat → Reader (List Piece)
  | 0 => return []
  | fuel + 1 => do
    match ← rest with
    | [] => refuse (utf8 "Missing '\x7d'")
    | Byte.closeBrace :: _ => do skip 1; return []
    | b :: after =>
      if b == Byte.backslash then
        match after with
        | c :: _ => do
          skip 2
          return .quoted [c] :: (← readBraceWord fuel)
        | [] => refuse (utf8 "Missing '\x7d'")
      else if b == Byte.singleQuote then do
        skip 1
        let text ← readWhile (· != Byte.singleQuote)
        if (← rest).isEmpty then refuse (utf8 "Unterminated quoted string")
        skip 1
        return .quoted text :: (← readBraceWord fuel)
      else if b == Byte.doubleQuote then do
        skip 1
        let pieces ← readQuoted fuel Byte.doubleQuote
        let pieces := if pieces.isEmpty then [.quoted []] else pieces
        return pieces ++ (← readBraceWord fuel)
      else if b == Byte.backquote || b == Byte.dollar then do
        let piece ← readExpansion fuel false
        return piece :: (← readBraceWord fuel)
      else do
        let text ← readWhile fun b => !startsPiece b && b != Byte.of '\x7d'
        return .text text :: (← readBraceWord fuel)

/-- Reads a token, or takes the one that was put back. -/
def readToken : Nat → Reader Token
  | 0 => return .finish
  | fuel + 1 => do
    let script ← get
    match script.back with
    | some token => do set { script with back := none }; return token
    | none =>
      skipBlanks fuel
      let operator (count : Nat) (token : Token) : Reader Token := do
        skip count
        return token
      match ← rest with
      | [] => return .finish
      | Byte.lineFeed :: _ => operator 1 .newline
      | Byte.semicolon :: Byte.semicolon :: _ => operator 2 .endArm
      | Byte.semicolon :: _ => operator 1 .semicolon
      | Byte.ampersand :: Byte.ampersand :: _ => operator 2 .andIf
      | Byte.ampersand :: _ => operator 1 .ampersand
      | Byte.bar :: Byte.bar :: _ => operator 2 .orIf
      | Byte.bar :: _ => operator 1 .pipe
      | Byte.openParen :: _ => operator 1 .opening
      | Byte.closeParen :: _ => operator 1 .closing
      | bytes =>
        let digits := (bytes.take 1).takeWhile Byte.isDigit
        match bytes.drop digits.length with
        | Byte.less :: _ | Byte.greater :: _ => do
          skip digits.length
          let number := if digits.isEmpty then none else some (Decimal.value digits)
          return .redirect (← readRedirect fuel number)
        | _ => return .word (← readWord fuel)

/-- Reads a redirect of a descriptor. -/
def readRedirect : Nat → Option Descriptor → Reader Redirect
  | 0, _ => return .copy 0 []
  | fuel + 1, number => do
    let target (count : Nat) : Reader Word := do
      skip count
      skipBlanks fuel
      let word ← readWord fuel
      if word.isEmpty then do
        let token ← readToken fuel
        unexpected token none
      return word
    let file (count : Nat) (standard : Descriptor) (use : FileUse) : Reader Redirect := do
      return .file (number.getD standard) use (← target count)
    let below (count : Nat) (stripTabs : Bool) : Reader Redirect := do
      let word ← target count
      let text ← cutText (literalText word) stripTabs
      if hasQuotes word then return .text (number.getD 0) [.quoted text]
      else
        let script ← get
        set ({ rest := text ++ [0], line := script.line } : Script)
        let pieces ← readQuoted fuel 0
        set script
        return .text (number.getD 0) pieces
    match ← rest with
    | Byte.less :: Byte.less :: Byte.hyphen :: _ => below 3 true
    | Byte.less :: Byte.less :: _ => below 2 false
    | Byte.less :: Byte.ampersand :: _ => return .copy (number.getD 0) (← target 2)
    | Byte.less :: Byte.greater :: _ => file 2 0 .both
    | Byte.less :: _ => file 1 0 .input
    | Byte.greater :: Byte.greater :: _ => file 2 1 .append
    | Byte.greater :: Byte.ampersand :: _ => return .copy (number.getD 1) (← target 2)
    | Byte.greater :: Byte.bar :: _ => file 2 1 .output
    | _ => file 1 1 .output

/-- Skips line ends. -/
def skipNewlines : Nat → Reader Unit
  | 0 => return
  | fuel + 1 => do
    match ← readToken fuel with
    | .newline => skipNewlines fuel
    | token => putBack token

/-- Reads commands up to something that cannot be a command.  If the list may be empty, that
can come at once. -/
def readList : Nat → Bool → Reader Command
  | 0, _ => return .nothing
  | fuel + 1, maybeEmpty => do
    skipNewlines fuel
    let token ← readToken fuel
    putBack token
    match token with
    | .finish => return .nothing
    | _ =>
      if maybeEmpty && token.endsList then return .nothing
      else
        let first ← readAndOr fuel
        match ← readToken fuel with
        | .ampersand => return inSequence (.background first) (← readList fuel true)
        | .semicolon | .newline => return inSequence first (← readList fuel true)
        | token => do putBack token; return first

/-- Reads commands joined by `&&` and `||`. -/
def readAndOr : Nat → Reader Command
  | 0 => return .nothing
  | fuel + 1 => do
    let first ← readPipeline fuel
    readAndOrRest fuel first

/-- Reads what is joined to a command by `&&` and `||`. -/
def readAndOrRest : Nat → Command → Reader Command
  | 0, first => return first
  | fuel + 1, first => do
    match ← readToken fuel with
    | .andIf => do
      skipNewlines fuel
      let second ← readPipeline fuel
      readAndOrRest fuel (.andThen first second)
    | .orIf => do
      skipNewlines fuel
      let second ← readPipeline fuel
      readAndOrRest fuel (.orElse first second)
    | token => do putBack token; return first

/-- Reads commands joined by pipes. -/
def readPipeline : Nat → Reader Command
  | 0 => return .nothing
  | fuel + 1 => do
    let token ← readToken fuel
    let negated := token.isText "!"
    if !negated then putBack token
    let first ← readCommand fuel
    let others ← readPipes fuel
    let command := if others.isEmpty then first else .pipeline (first :: others)
    return if negated then .negation command else command

/-- Reads the commands behind pipes. -/
def readPipes : Nat → Reader (List Command)
  | 0 => return []
  | fuel + 1 => do
    match ← readToken fuel with
    | .pipe => do
      skipNewlines fuel
      let command ← readCommand fuel
      return command :: (← readPipes fuel)
    | token => do putBack token; return []

/-- Reads a word that has to come next. -/
def expectWord : Nat → String → Reader Unit
  | 0, _ => return
  | fuel + 1, expected => do
    let token ← readToken fuel
    if token.isText expected then return else unexpected token (some (.ofText expected))

/-- Reads redirects. -/
def readRedirects : Nat → Reader (List Redirect)
  | 0 => return []
  | fuel + 1 => do
    match ← readToken fuel with
    | .redirect redirect => return redirect :: (← readRedirects fuel)
    | token => do putBack token; return []

/-- Reads a command. -/
def readCommand : Nat → Reader Command
  | 0 => return .nothing
  | fuel + 1 => do
    let token ← readToken fuel
    let line := (← get).line
    match token with
    | .opening => do
      let body ← readList fuel false
      match ← readToken fuel with
      | .closing => return withRedirects (.subshell body) (← readRedirects fuel)
      | token => unexpected token (some .closing)
    | .redirect redirect => readSimple fuel line [] [] [redirect]
    | .word word =>
      match plain? word with
      | none => readSimpleFrom fuel line word
      | some text =>
        if text == utf8 "\x7b" then do
          let body ← readList fuel false
          expectWord fuel "\x7d"
          return withRedirects body (← readRedirects fuel)
        else if text == utf8 "if" then do
          let command ← readConditional fuel
          return withRedirects command (← readRedirects fuel)
        else if text == utf8 "while" || text == utf8 "until" then do
          let condition ← readList fuel false
          expectWord fuel "do"
          let body ← readList fuel false
          expectWord fuel "done"
          return withRedirects (.loop (text == utf8 "until") condition body)
            (← readRedirects fuel)
        else if text == utf8 "for" then do
          let command ← readFor fuel line
          return withRedirects command (← readRedirects fuel)
        else if text == utf8 "case" then do
          match ← readToken fuel with
          | .word word => do
            skipNewlines fuel
            expectWord fuel "in"
            let arms ← readArms fuel
            return withRedirects (.select line word arms) (← readRedirects fuel)
          | token => unexpected token (some (.word []))
        else if closers.contains text || text == utf8 "in" || text == utf8 "!" then
          unexpected (.word word) none
        else readSimpleFrom fuel line word
    | token => unexpected token none

/-- Reads a command whose first word is known. -/
def readSimpleFrom : Nat → Nat → Word → Reader Command
  | 0, _, _ => return .nothing
  | fuel + 1, line, word => do
    match assignment? word with
    | some assignment => readSimple fuel line [assignment] [] []
    | none =>
      match ← readToken fuel with
      | .opening =>
        match ← readToken fuel with
        | .closing => do
          let name := (plain? word).getD []
          if !isName name || isAmong specials name then refuse (utf8 "Bad function name")
          skipNewlines fuel
          return .define name (← readCommand fuel)
        | token => unexpected token (some .closing)
      | token => do
        putBack token
        readSimple fuel line [] [word] []

/-- Reads the rest of a simple command.  What was read stands in reverse order. -/
def readSimple : Nat → Nat → List (Bytes × Word) → List Word → List Redirect → Reader Command
  | 0, _, _, _, _ => return .nothing
  | fuel + 1, line, assignments, words, redirects => do
    match ← readToken fuel with
    | .redirect redirect => readSimple fuel line assignments words (redirect :: redirects)
    | .word word =>
      match words, assignment? word with
      | [], some assignment => readSimple fuel line (assignment :: assignments) [] redirects
      | _, _ => readSimple fuel line assignments (word :: words) redirects
    | token => do
      putBack token
      return .simple line assignments.reverse words.reverse redirects.reverse

/-- Reads a conditional behind its first word. -/
def readConditional : Nat → Reader Command
  | 0 => return .nothing
  | fuel + 1 => do
    let condition ← readList fuel false
    expectWord fuel "then"
    let first ← readList fuel false
    let token ← readToken fuel
    if token.isText "elif" then
      return .conditional condition first (← readConditional fuel)
    else if token.isText "else" then do
      let second ← readList fuel false
      expectWord fuel "fi"
      return .conditional condition first second
    else if token.isText "fi" then return .conditional condition first .nothing
    else unexpected token (some (.ofText "fi"))

/-- Reads a loop over words behind its first word. -/
def readFor : Nat → Nat → Reader Command
  | 0, _ => return .nothing
  | fuel + 1, line => do
    match ← readToken fuel with
    | .word word =>
      match plain? word with
      | some name => do
        if !isName name then refuse (utf8 "Bad for loop variable")
        skipNewlines fuel
        let words ← readForWords fuel
        skipNewlines fuel
        expectWord fuel "do"
        let body ← readList fuel false
        expectWord fuel "done"
        return .forEach line name words body
      | none => refuse (utf8 "Bad for loop variable")
    | _ => refuse (utf8 "Bad for loop variable")

/-- Reads the words of a loop, if it has any. -/
def readForWords : Nat → Reader (Option (List Word))
  | 0 => return none
  | fuel + 1 => do
    match ← readToken fuel with
    | .semicolon => return none
    | token =>
      if token.isText "in" then return some (← readWords fuel)
      else do
        putBack token
        return none

/-- Reads words up to the end of the command. -/
def readWords : Nat → Reader (List Word)
  | 0 => return []
  | fuel + 1 => do
    match ← readToken fuel with
    | .word word => return word :: (← readWords fuel)
    | .semicolon | .newline => return []
    | token => unexpected token none

/-- Reads the arms of a selection up to its end. -/
def readArms : Nat → Reader (List (List Word × Command))
  | 0 => return []
  | fuel + 1 => do
    skipNewlines fuel
    let token ← readToken fuel
    if token.isText "esac" then return []
    else do
      match token with
      | .opening => pure ()
      | _ => putBack token
      let patterns ← readPatterns fuel
      let body ← readList fuel true
      let token ← readToken fuel
      match token with
      | .endArm => return (patterns, body) :: (← readArms fuel)
      | _ =>
        if token.isText "esac" then return [(patterns, body)]
        else unexpected token (some .endArm)

/-- Reads the patterns of an arm up to the parenthesis. -/
def readPatterns : Nat → Reader (List Word)
  | 0 => return []
  | fuel + 1 => do
    let pattern :=
      match ← readToken fuel with
      | .word word => word
      | _ => []
    match ← readToken fuel with
    | .pipe => return pattern :: (← readPatterns fuel)
    | .closing => return [pattern]
    | token => unexpected token (some .closing)

end

/-- More steps than reading a script of a length takes. -/
def stepsFor (script : Script) : Nat := 16 * (script.rest.length + 16)

/-- Reads commands up to the end of the line. -/
def readLineFrom : Nat → Reader Command
  | 0 => return .nothing
  | fuel + 1 => do
    let steps := stepsFor (← get)
    match ← readToken steps with
    | .newline => return .nothing
    | .finish => do putBack .finish; return .nothing
    | token => do
      putBack token
      let first ← readAndOr steps
      match ← readToken steps with
      | .ampersand => return inSequence (.background first) (← readLineFrom fuel)
      | .semicolon => return inSequence first (← readLineFrom fuel)
      | .newline => return first
      | .finish => do putBack .finish; return first
      | token => unexpected token none

/-- Whether nothing is left of a script. -/
def Script.isDone (script : Script) : Bool :=
  match script.back with
  | some .finish => true
  | some _ => false
  | none => script.rest.isEmpty

/-- Reads the next complete command of a script. -/
def readLine (script : Script) : Except Mistake (Command × Script) :=
  (readLineFrom (stepsFor script)).run script

end Shell

end Host

end CueFront
