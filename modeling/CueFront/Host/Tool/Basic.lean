import CueFront.Host.Code

/-!
# Tools

A tool is a small program of the host.  What tools share stands here: how they read their
options, how they complain, and how they read and write.  Lines are read as they come, so a
tool can answer before its input ends.
-/

namespace CueFront

namespace Host

/-- What a tool does: its own name, its arguments and its environment give an exit code. -/
abbrev Tool := Bytes → List Bytes → List Bytes → Task Nat

namespace Tool

/-! ## Complaints -/

/-- Writes a complaint to the error output. -/
def complain (name text : Bytes) : Task Unit := do
  let _ ← Task.writeAll 2 (name ++ utf8 ": " ++ text ++ [Byte.lineFeed])

/-- Text in plain quotes. -/
def shown (text : Bytes) : Bytes := [Byte.singleQuote] ++ text ++ [Byte.singleQuote]

/-- Text in the quotes of the locale. -/
def quoted (text : Bytes) : Bytes := utf8 "‘" ++ text ++ utf8 "’"

/-- Writes a complaint about the use of a tool; the exit code. -/
def misuse (name text : Bytes) (code : Nat) : Task Nat := do
  complain name text
  let _ ← Task.writeAll 2 (utf8 "Try '" ++ name ++ utf8 " --help' for more information.\n")
  return code

/-! ## Options -/

/-- An option. -/
structure OptionRule where
  /-- Its letter. -/
  letter : Char
  /-- Its long name, or nothing. -/
  long : String := ""
  /-- Whether a value follows. -/
  takesValue : Bool := false

/-- Arguments by what they are. -/
structure Arguments where
  /-- The letters of the options with their values, in order. -/
  options : List (Char × Bytes) := []
  /-- The other arguments. -/
  operands : List Bytes := []

namespace Arguments

/-- Whether an option is given. -/
def has (arguments : Arguments) (letter : Char) : Bool :=
  arguments.options.any (·.1 == letter)

/-- The last value of an option. -/
def value? (arguments : Arguments) (letter : Char) : Option Bytes :=
  (arguments.options.reverse.find? (·.1 == letter)).map (·.2)

/-- Adds an option. -/
def withOption (arguments : Arguments) (letter : Char) (value : Bytes) : Arguments :=
  { arguments with options := (letter, value) :: arguments.options }

/-- The arguments in the order they were given. -/
def inOrder (arguments : Arguments) : Arguments :=
  ⟨arguments.options.reverse, arguments.operands.reverse⟩

end Arguments

/-- Reads the letters of one argument.  The result is what is left of the arguments. -/
def readLetters (rules : List OptionRule) :
    Bytes → List Bytes → Arguments → Except Bytes (List Bytes × Arguments)
  | [], rest, arguments => .ok (rest, arguments)
  | b :: letters, rest, arguments =>
    match rules.find? fun rule => Byte.of rule.letter == b with
    | none => .error (utf8 "invalid option -- " ++ shown [b])
    | some rule =>
      if !rule.takesValue then
        readLetters rules letters rest (arguments.withOption rule.letter [])
      else if !letters.isEmpty then .ok (rest, arguments.withOption rule.letter letters)
      else
        match rest with
        | value :: rest => .ok (rest, arguments.withOption rule.letter value)
        | [] => .error (utf8 "option requires an argument -- " ++ shown [b])

/-- Reads options by their rules, given as many steps as there are arguments.  Operands can
stand between options if `mixed`; otherwise the first operand ends the options. -/
def readArguments (rules : List OptionRule) (mixed : Bool) :
    Nat → List Bytes → Arguments → Except Bytes Arguments
  | 0, _, arguments => .ok arguments.inOrder
  | _ + 1, [], arguments => .ok arguments.inOrder
  | fuel + 1, text :: rest, arguments =>
    let operand : Except Bytes Arguments :=
      if mixed then
        readArguments rules mixed fuel rest
          { arguments with operands := text :: arguments.operands }
      else .ok { arguments with operands := rest.reverse ++ text :: arguments.operands }.inOrder
    match text with
    | [Byte.hyphen, Byte.hyphen] =>
      .ok { arguments with operands := rest.reverse ++ arguments.operands }.inOrder
    | Byte.hyphen :: Byte.hyphen :: long =>
      let name := long.takeWhile (· != Byte.equals)
      match rules.find? fun rule => !rule.long.isEmpty && name.isPrefixOf (utf8 rule.long) with
      | none => .error (utf8 "unrecognized option " ++ shown text)
      | some rule =>
        match long.drop name.length, rule.takesValue, rest with
        | _ :: value, true, _ =>
          readArguments rules mixed fuel rest (arguments.withOption rule.letter value)
        | [], true, value :: rest =>
          readArguments rules mixed fuel rest (arguments.withOption rule.letter value)
        | [], false, _ =>
          readArguments rules mixed fuel rest (arguments.withOption rule.letter [])
        | [], true, [] =>
          .error (utf8 "option " ++ shown text ++ utf8 " requires an argument")
        | _ :: _, false, _ =>
          .error (utf8 "option " ++ shown (utf8 "--" ++ name) ++ utf8 " doesn't allow an argument")
    | Byte.hyphen :: b :: letters => do
      let (rest, arguments) ← readLetters rules (b :: letters) rest arguments
      readArguments rules mixed fuel rest arguments
    | _ => operand

/-- A tool that reads its options first. -/
def withOptions (rules : List OptionRule) (mixed : Bool) (code : Nat)
    (run : Bytes → Arguments → List Bytes → Task Nat) : Tool :=
  fun name arguments environment =>
    match readArguments rules mixed (arguments.length + 1) arguments {} with
    | .ok read => run name read environment
    | .error problem => misuse name problem code

/-! ## Input and output -/

/-- Writes to the output.  A tool whose output fails ends. -/
def say (name text : Bytes) : Task Unit := do
  match ← Task.writeAll 1 text with
  | none => return
  | some errno => do
    complain name (utf8 "write error: " ++ errno.message)
    Task.exit 1

/-- Complains about a file. -/
def complainOf (name path : Bytes) (errno : Errno) : Task Unit :=
  complain name (path ++ utf8 ": " ++ errno.message)

/-- Opens an operand for reading; a hyphen is the standard input.  A complaint is made of the
path by its wording. -/
def openInputOr (wording : Bytes → Bytes) (name path : Bytes) : Task (Option Descriptor) := do
  if path == [Byte.hyphen] then return some 0
  else
    match ← Task.ask (.openFile path { reads := true }) with
    | .number descriptor => return some descriptor
    | .failed errno => do
      complainOf name (wording path) errno
      return none
    | _ => return none

/-- Opens an operand for reading; a hyphen is the standard input. -/
def openInput (name path : Bytes) : Task (Option Descriptor) := openInputOr id name path

/-- Does something with every input in order; the worst exit code.  A complaint about an input
that cannot be opened has the given wording. -/
def eachInputOr (wording : Bytes → Bytes) (name : Bytes) (paths : List Bytes)
    (act : Bytes → Descriptor → Task Nat) : Task Nat := do
  let paths := if paths.isEmpty then [[Byte.hyphen]] else paths
  let codes ← paths.mapM fun path => do
    match ← openInputOr wording name path with
    | none => return 1
    | some descriptor => do
      let code ← act path descriptor
      if descriptor != 0 then Task.tell (.close descriptor)
      return code
  return codes.foldl max 0

/-- Does something with every input in order; the worst exit code. -/
def eachInput (name : Bytes) (paths : List Bytes) (act : Bytes → Descriptor → Task Nat) :
    Task Nat :=
  eachInputOr id name paths act

/-- Everything in an input.  A tool that cannot read complains of `what`. -/
def readInput (name what : Bytes) (descriptor : Descriptor) : Task (Option Bytes) := do
  match ← Task.readAll descriptor with
  | .ok text => return some text
  | .error errno => do
    complainOf name what errno
    return none

/-- What a tool does next with its input. -/
inductive Step (σ : Type) where
  /-- It goes on. -/
  | more (state : σ)
  /-- It needs no more input. -/
  | enough (state : σ)

/-- Folds over the parts of an input as they come, given enough steps; a complaint of `what`
and nothing if reading fails. -/
def foldParts {σ : Type} (name what : Bytes) (descriptor : Descriptor)
    (act : σ → Bytes → Task (Step σ)) : Nat → σ → Task (Option σ)
  | 0, state => return some state
  | fuel + 1, state => do
    match ← Task.readSome descriptor 65536 with
    | .error errno => do
      complainOf name what errno
      return none
    | .ok [] => return some state
    | .ok part => do
      match ← act state part with
      | .more state => foldParts name what descriptor act fuel state
      | .enough state => return some state

/-- Lines while they are read. -/
structure LineFold (σ : Type) where
  /-- What the tool knows. -/
  state : σ
  /-- The start of a line that is not complete. -/
  start : Bytes := []
  /-- Whether the tool needs no more input. -/
  halted : Bool := false

/-- The complete lines of a text, without their ends, and what is behind them. -/
def splitLines (text : Bytes) : List Bytes × Bytes :=
  let pieces := Bytes.splitOn Byte.lineFeed text
  (pieces.dropLast, pieces.getLastD [])

/-- Handles lines one after the other, until the tool needs no more; the output in parts,
the latest first. -/
def handleLines {σ : Type} (act : σ → Bytes → Bool → Step σ × Bytes) :
    List Bytes → σ → List Bytes → LineFold σ × List Bytes
  | [], state, output => ({ state }, output)
  | line :: lines, state, output =>
    match act state line true with
    | (.more state, text) => handleLines act lines state (text :: output)
    | (.enough state, text) => ({ state, halted := true }, text :: output)

/-- Folds over the lines of an input as they come.  The step gets a line and whether a line
feed follows it, and says what to print. -/
def foldLines {σ : Type} (name what : Bytes) (descriptor : Descriptor)
    (act : σ → Bytes → Bool → Step σ × Bytes) (state : σ) : Task (Option (LineFold σ)) := do
  let folded ← foldParts name what descriptor (fun fold part => do
    let (lines, rest) := splitLines (fold.start ++ part)
    let (next, output) := handleLines act lines fold.state []
    let text := output.reverse.flatten
    if !text.isEmpty then say name text
    return if next.halted then .enough next else .more { next with start := rest })
    Task.ampleSteps { state : LineFold σ }
  match folded with
  | none => return none
  | some fold =>
    if fold.halted || fold.start.isEmpty then return some fold
    else
      match act fold.state fold.start false with
      | (.more state, text) => do
        say name text
        return some { state }
      | (.enough state, text) => do
        say name text
        return some { state, halted := true }

/-- A line with its end. -/
def ended (line : Bytes) : Bytes := line ++ [Byte.lineFeed]

/-- The words for an input that cannot be read. -/
def notRead (path : Bytes) : Bytes :=
  utf8 "error reading " ++ shown (if path == utf8 "-" then utf8 "standard input" else path)

/-- The value of a variable of an environment. -/
def variableOf? (environment : List Bytes) (name : String) : Option Bytes :=
  let start := utf8 name ++ [Byte.equals]
  (environment.find? start.isPrefixOf).map (·.drop start.length)

/-! ## Running another program -/

/-- Executes a program that is looked for in the search path; the exit code if that fails. -/
def execute (name : Bytes) (environment : List Bytes) (command : List Bytes) : Task Nat := do
  let program := command.headD []
  let path := (variableOf? environment "PATH").getD (utf8 "/usr/bin:/bin")
  let candidates :=
    if program.any (· == Byte.slash) then [program]
    else (Bytes.splitOn Byte.colon path).map fun directory =>
      Path.join (if directory.isEmpty then [Byte.dot] else directory) program
  let rec go : List Bytes → Errno → Task Errno
    | [], errno => return errno
    | path :: paths, errno => do
      match ← Task.ask (.exec path command environment) with
      | .failed problem =>
        go paths (if problem == .noEntry || problem == .notDirectory then errno else problem)
      | _ => go paths errno
  let errno ← go candidates .noEntry
  complain name (quoted program ++ utf8 ": " ++ errno.message)
  return if errno == .noEntry then 127 else 126

end Tool

end Host

end CueFront
