import CueFront.Host.Condition
import CueFront.Host.Format
import CueFront.Host.Shell.State

/-!
# Commands inside the shell

These commands change the shell itself or are too small for a process of their own.  Each
gets its arguments without its name and gives an exit code.  The commands that run other
commands are part of the interpreter.
-/

namespace CueFront

namespace Host

namespace Shell

/-! ## Printing -/

/-- Writes to the output; the exit code. -/
def print (command : String) (text : Bytes) : ShellM Nat := do
  match ← perform (Task.writeAll 1 text) with
  | none => return 0
  | some _ => do
    complain (utf8 command ++ utf8 ": I/O error")
    return 1

/-- The number an argument is. -/
def numberOf (text : Bytes) : ShellM Nat := do
  let refuse : ShellM Nat := giveUp (utf8 "Illegal number: " ++ text)
  match Condition.numberOf text with
  | .ok value => if 0 ≤ value && value ≤ 2147483647 then return value.toNat else refuse
  | .error _ => refuse

/-- Prints its arguments with their escapes replaced. -/
def echo (arguments : List Bytes) : ShellM Nat := do
  let (newline, arguments) :=
    if arguments.head? == some (utf8 "-n") then (false, arguments.tail) else (true, arguments)
  let (text, stopped) := Format.unescape (Bytes.joinWith [Byte.space] arguments)
  print "echo" (if newline && !stopped then text ++ [Byte.lineFeed] else text)

/-- Prints its arguments by a format. -/
def printf (arguments : List Bytes) : ShellM Nat := do
  let arguments := if arguments.head? == some (utf8 "--") then arguments.tail else arguments
  match arguments with
  | [] => do
    complain (utf8 "usage: printf format [arg ...]")
    return 2
  | format :: arguments => do
    let printed := Format.print format arguments
    let status ← print "printf" printed.output
    for argument in printed.refused do
      complain (argument ++
        if printed.stopped then utf8 ": invalid directive" else utf8 ": expected numeric value")
    return if printed.refused.isEmpty then status else if printed.stopped then 2 else 1

/-! ## Conditions -/

/-- Asks whether a condition holds. -/
def test (arguments : List Bytes) : ShellM Nat := do
  match ← perform (Condition.read arguments).evaluate with
  | .error problem => giveUp problem
  | .ok holds => return if holds then 0 else 1

/-- The condition in brackets. -/
def bracket (arguments : List Bytes) : ShellM Nat := do
  if arguments.getLast? == some [Byte.closeBracket] then test arguments.dropLast
  else giveUp (utf8 "missing ]")

/-! ## The working directory -/

/-- A path from the root without dots. -/
def withoutDots (path : Bytes) : Bytes :=
  let names := (Path.names path).foldl (fun names name =>
    if name == [Byte.dot] then names else if name == utf8 ".." then names.tail
    else name :: names) []
  Byte.slash :: Bytes.joinWith [Byte.slash] names.reverse

/-- The working directory by the name it was reached. -/
def workingDirectory : ShellM Bytes := do
  match (← get).value? (utf8 "PWD") with
  | some path => return path
  | none =>
    match ← ask .workingDirectory with
    | .bytes path => return path
    | _ => return []

/-- Goes to another directory. -/
def changeDirectory (arguments : List Bytes) : ShellM Nat := do
  let state ← get
  let arguments := arguments.filter fun text => text != utf8 "-P" && text != utf8 "-L"
  let (target, shown) :=
    match arguments with
    | [] => ((state.value? (utf8 "HOME")).getD [], false)
    | text :: _ =>
      if text == utf8 "-" then ((state.value? (utf8 "OLDPWD")).getD [], true) else (text, false)
  let old ← workingDirectory
  match ← ask (.changeDirectory (if target.isEmpty then [Byte.dot] else target)) with
  | .failed _ => giveUp (utf8 "can't cd to " ++ target)
  | _ => do
    let path := withoutDots (Path.join old target)
    let exported (value : Bytes) : Variable := { value := some value, exported := true }
    modify fun state =>
      (state.put (utf8 "OLDPWD") (exported old)).put (utf8 "PWD") (exported path)
    if shown then print "cd" (path ++ [Byte.lineFeed]) else return 0

/-- Prints the working directory. -/
def printDirectory : ShellM Nat := do
  print "pwd" ((← workingDirectory) ++ [Byte.lineFeed])

/-! ## Variables -/

/-- A name and the value that is assigned to it, if any. -/
def splitAssignment (text : Bytes) : Bytes × Option Bytes :=
  let name := text.takeWhile (· != Byte.equals)
  match text.drop name.length with
  | [] => (name, none)
  | _ :: value => (name, some value)

/-- Gives up if a name is no name of a variable, or if the variable is kept as it is. -/
def demandChangeable (name : Bytes) : ShellM Unit := do
  if !isName name then giveUp (name ++ utf8 ": bad variable name")
  else if (((← get).find? name).map (·.fixed)).getD false then
    giveUp (name ++ utf8 ": is read only")

/-- Assigns a value. -/
def assign (name value : Bytes) : ShellM Unit := do
  demandChangeable name
  modify (·.assign name value)

/-- Marks variables, and assigns to those that have a value. -/
def mark (command : String) (change : Variable → Variable) (shown : Variable → Bool)
    (arguments : List Bytes) : ShellM Nat := do
  let arguments := if arguments.head? == some (utf8 "--") then arguments.tail else arguments
  if arguments.isEmpty || arguments == [utf8 "-p"] then do
    let lines := (← get).vars.filterMap fun (name, held) =>
      if shown held then
        some (utf8 command ++ [Byte.space] ++ name ++
          (match held.value with
            | some value => [Byte.equals] ++ inQuotes value
            | none => []) ++ [Byte.lineFeed])
      else none
    print command lines.flatten
  else
    for text in arguments do
      let (name, value) := splitAssignment text
      match value with
      | some value => assign name value
      | none => if !isName name then demandChangeable name
      modify fun state =>
        state.put name (change ((state.find? name).getD { value := none }))
    return 0

/-- Lets programs get variables. -/
def exportAll (arguments : List Bytes) : ShellM Nat :=
  mark "export" (fun held => { held with exported := true }) (·.exported) arguments

/-- Keeps variables as they are. -/
def freeze (arguments : List Bytes) : ShellM Nat :=
  mark "readonly" (fun held => { held with fixed := true }) (·.fixed) arguments

/-- Takes variables and functions away. -/
def unset (arguments : List Bytes) : ShellM Nat := do
  let functions := arguments.head? == some (utf8 "-f")
  for name in arguments.filter fun text => text.head? != some Byte.hyphen do
    if functions then
      modify fun state =>
        { state with functions := state.functions.filter (·.1 != name) }
    else do
      demandChangeable name
      modify (·.drop name)
  return 0

/-- Hides variables until the function ends. -/
def hide (arguments : List Bytes) : ShellM Nat := do
  if !(← get).inFunction then giveUp (utf8 "not in a function")
  else
    for text in arguments do
      let (name, value) := splitAssignment text
      modify fun state => { state with hidden := (name, state.find? name) :: state.hidden }
      match value with
      | some value => assign name value
      | none => pure ()
    return 0

/-- Drops arguments from the front. -/
def shift (arguments : List Bytes) : ShellM Nat := do
  let count ←
    match arguments with
    | text :: _ => numberOf text
    | [] => pure 1
  let state ← get
  if count > state.arguments.length then giveUp (utf8 "can't shift that many")
  else do
    set { state with arguments := state.arguments.drop count }
    return 0

/-- Turns options on or off. -/
def turn (enable : Bool) (letters : Bytes) : ShellM Unit :=
  modify fun state =>
    let others := state.options.filter fun b => !letters.any (· == b)
    { state with options := if enable then others ++ letters else others }

/-- Turns an option with a long name on or off. -/
def turnNamed (enable : Bool) (name : Bytes) : ShellM Unit := do
  match optionNames.find? (utf8 ·.1 == name) with
  | some (_, letter) => turn enable (letter.map Byte.of).toList
  | none => giveUp (utf8 "Illegal option -o " ++ name)

/-- Shows which options are on. -/
def showOptions : ShellM Unit := do
  let state ← get
  let lines := optionNames.map fun (name, letter) =>
    utf8 name ++ List.replicate (16 - name.length) Byte.space ++
      utf8 (if (letter.map state.isOn).getD false then "on\n" else "off\n")
  let _ ← print "set" (utf8 "Current option settings\n" ++ lines.flatten)

/-- The letters at the start of arguments that were read as options. -/
structure Options where
  /-- The arguments behind the options. -/
  rest : List Bytes
  /-- Whether the options have an end of their own. -/
  ended : Bool := false
  /-- Whether the first argument behind the options is a script. -/
  command : Bool := false

/-- Turns the options in a cluster on or off.  The letter `o` takes a long name from the
arguments behind it.  If a shell starts, the letter `c` says that its script is an argument. -/
def readCluster (starts enable : Bool) : Bytes → Options → ShellM Options
  | [], options => return options
  | letter :: letters, options =>
    if letter == Byte.of 'c' && starts then
      readCluster starts enable letters { options with command := true }
    else if letter == Byte.of 'o' then
      match options.rest with
      | name :: rest => do
        turnNamed enable name
        readCluster starts enable letters { options with rest }
      | [] => do
        showOptions
        readCluster starts enable letters options
    else if optionLetters.any (· == letter) then do
      turn enable [letter]
      readCluster starts enable letters options
    else giveUp (utf8 "Illegal option -" ++ [letter])

/-- Reads the options at the start of arguments, which are no fewer than the steps. -/
def readOptions (starts : Bool) : Nat → Options → ShellM Options
  | 0, options => return options
  | steps + 1, options =>
    match options.rest with
    | [Byte.hyphen, Byte.hyphen] :: rest => return { options with rest, ended := true }
    | [Byte.hyphen] :: rest => do
      turn false [Byte.of 'x', Byte.of 'v']
      return { options with rest }
    | (Byte.hyphen :: letters) :: rest => do
      readOptions starts steps (← readCluster starts true letters { options with rest })
    | (Byte.plus :: letters) :: rest => do
      readOptions starts steps (← readCluster starts false letters { options with rest })
    | _ => return options

/-- Sets options and arguments, or prints the variables. -/
def configure (arguments : List Bytes) : ShellM Nat := do
  if arguments.isEmpty then do
    let state ← get
    let entries := state.vars.mergeSort fun a b => Bytes.precedes a.1 b.1
    let lines := entries.filterMap fun (name, held) =>
      held.value.map fun value => name ++ [Byte.equals] ++ inQuotes value ++ [Byte.lineFeed]
    print "set" lines.flatten
  else do
    let options ← readOptions false arguments.length { rest := arguments }
    if options.ended || !options.rest.isEmpty then
      modify ({ · with arguments := options.rest })
    return 0

/-! ## Reading input -/

/-- Reads a line byte by byte, in reverse order, and whether it is complete.  A backslash
protects the byte behind it. -/
def inputLine (raw : Bool) : Nat → List Glyph → ShellM (List Glyph × Bool)
  | 0, line => return (line, false)
  | fuel + 1, line => do
    match ← ask (.read 0 1) with
    | .bytes [b] =>
      if b == Byte.lineFeed then return (line, true)
      else if b == 0 then inputLine raw fuel line
      else if b == Byte.backslash && !raw then
        match ← ask (.read 0 1) with
        | .bytes [c] =>
          inputLine raw fuel (if c == Byte.lineFeed then line else (c, true) :: line)
        | _ => return (line, false)
      else inputLine raw fuel ((b, false) :: line)
    | _ => return (line, false)

/-- Cuts a line into as many fields as there are names; the last gets the rest. -/
def lineFields (separators : Bytes) : Nat → List Glyph → List Bytes
  | 0, _ => []
  | count + 1, line =>
    let separates (glyph : Glyph) : Bool := !glyph.2 && separators.any (· == glyph.1)
    let isBlank (glyph : Glyph) : Bool := separates glyph && Byte.isSpace glyph.1
    let line := line.dropWhile isBlank
    if count == 0 then [((line.reverse.dropWhile isBlank).reverse).map (·.1)]
    else
      let field := line.takeWhile (!separates ·)
      let rest := (line.drop field.length).dropWhile isBlank
      let rest :=
        match rest with
        | glyph :: more => if separates glyph then more else rest
        | [] => []
      field.map (·.1) :: lineFields separators count rest

/-- Reads a line into variables. -/
def read (arguments : List Bytes) : ShellM Nat := do
  let raw := arguments.any (· == utf8 "-r")
  let names := arguments.filter fun text => text.head? != some Byte.hyphen
  if names.isEmpty then giveUp (utf8 "arg count")
  let (line, complete) ← inputLine raw Task.ampleSteps []
  let fields := lineFields (← get).separators names.length line.reverse
  for (name, field) in names.zip fields do
    assign name field
  return if complete then 0 else 1

/-! ## Processes and signals -/

/-- The name of a signal in the shell, which has numbers for the names of some. -/
def signalName (signal : Signal) : Bytes :=
  if signal == 0 then utf8 "EXIT"
  else if signal == 16 || signal == 32 || signal == 33 then Decimal.digits signal
  else if signal == 29 then utf8 "IO"
  else if signal == 34 then utf8 "RTMIN"
  else if signal == Signal.last then utf8 "RTMAX"
  else if 34 < signal && signal < 50 then utf8 "RTMIN+" ++ Decimal.digits (signal - 34)
  else if 50 ≤ signal then utf8 "RTMAX-" ++ Decimal.digits (Signal.last - signal)
  else (Signal.names[signal - 1]?.map utf8).getD []

/-- The signal that a number or a name of at least some number stands for. -/
def signal? (least : Signal) (text : Bytes) : Option Signal :=
  if Decimal.isNumeral text then
    let number := Decimal.value text
    if number ≤ Signal.last then some number else none
  else
    (List.range (Signal.last + 1)).find? fun signal =>
      least ≤ signal && signalName signal == text.map Byte.toUpper

/-- Sends a signal to a process, or to a group if the number has a minus sign; the exit code. -/
def sendTo (signal : Signal) (text : Bytes) : ShellM Nat := do
  if text.head? == some Byte.percent then giveUp (utf8 "No such job: " ++ text)
  let target : Int ←
    match text with
    | Byte.hyphen :: digits => do pure (-((← numberOf digits) : Int))
    | _ => do pure ((← numberOf text) : Int)
  match ← ask (.kill target signal) with
  | .failed errno => do
    complain (errno.message ++ [Byte.lineFeed])
    return 1
  | _ => return 0

/-- Sends a signal to processes. -/
def sendAll (signal : Signal) (targets : List Bytes) : ShellM Nat := do
  if targets.isEmpty then
    giveUp (utf8 "Usage: kill [-s sigspec | -signum | -sigspec] [pid | job]... or" ++
      [Byte.lineFeed] ++ utf8 "kill -l [exitstatus]")
  else return (← targets.mapM (sendTo signal)).foldl max 0

/-- Prints the names of signals, or of the one that a number stands for. -/
def listSignals (arguments : List Bytes) : ShellM Nat := do
  match arguments with
  | [] => do
    let names := (List.range Signal.last).map fun index => signalName (index + 1)
    print "kill" ((utf8 "0" :: names).map (· ++ [Byte.lineFeed])).flatten
  | text :: _ => do
    let number ← numberOf text
    let number := if number > 128 then number - 128 else number
    if 0 < number && number ≤ Signal.last then
      print "kill" (signalName number ++ [Byte.lineFeed])
    else giveUp (utf8 "invalid signal number or exit status: " ++ text)

/-- Sends a signal. -/
def kill (arguments : List Bytes) : ShellM Nat := do
  match arguments with
  | (Byte.hyphen :: name) :: rest =>
    match signal? 1 name, name with
    | some signal, _ => sendAll signal rest
    | none, [Byte.hyphen] => sendAll 15 rest
    | none, letter :: attached =>
      if letter == Byte.of 'l' then
        listSignals (if rest.head? == some (utf8 "--") then rest.tail else rest)
      else if letter != Byte.of 's' then giveUp (utf8 "Illegal option -" ++ [letter])
      else
        let chosen := if attached.isEmpty then rest else attached :: rest
        let text := chosen.headD []
        let targets := if chosen[1]? == some (utf8 "--") then chosen.drop 2 else chosen.tail
        match signal? 1 text with
        | some signal => sendAll signal targets
        | none => giveUp (utf8 "invalid signal number or name: " ++ text)
    | none, [] => giveUp (utf8 "Illegal option -")
  | _ => sendAll 15 arguments

/-- Takes note of the signals that have come. -/
def noteSignals : ShellM Unit := do
  match ← ask .takeSignals with
  | .signals signals => modify fun state => { state with arrived := state.arrived ++ signals }
  | _ => pure ()

/-- Says what signal has ended a process, except for those that are the end of many a pipe. -/
def reportEnd (status : ExitStatus) : ShellM Unit := do
  match status with
  | .signaled signal =>
    if signal != Signal.interrupt && signal != Signal.pipe then
      warn (Signal.description signal ++ [Byte.lineFeed])
  | .exited _ => pure ()

/-- Forgets a process in the background. -/
def dropJob (pid : Pid) : ShellM Unit :=
  modify fun state =>
    { state with
      jobs := state.jobs.filter (· != pid)
      endedJobs := state.endedJobs.filter (·.1 != pid) }

/-- Takes note of the processes in the background that have ended. -/
def noteEnded : ShellM Unit := do
  for pid in (← get).jobs do
    match ← ask (.wait (some pid) false) with
    | .ended _ status =>
      modify fun state =>
        { state with
          jobs := state.jobs.filter (· != pid)
          endedJobs := (pid, status.code) :: state.endedJobs }
    | _ => pure ()

/-- Waits for a process in the background; nothing if a signal came first.  What signal has
ended the process is said if the process was asked for and ends now. -/
def waitFor (asked : Bool) (pid : Pid) : ShellM (Option Nat) := do
  match (← get).endedJobs.lookup pid with
  | some code => do
    dropJob pid
    return some code
  | none =>
    match ← ask (.wait (some pid) true) with
    | .ended _ status => do
      dropJob pid
      if asked then reportEnd status
      return some status.code
    | .failed errno =>
      if errno == .interrupted then do
        noteSignals
        return none
      else return some 127
    | _ => return some 127

/-- Waits for processes in the background. -/
def waitEach (asked : Bool) : List Pid → Nat → ShellM Nat
  | [], status => return status
  | pid :: pids, _ => do
    match ← waitFor asked pid with
    | some status => waitEach asked pids status
    | none => return 128 + ((← get).arrived.head?.getD 0)

/-- Waits for some processes in the background, or for all. -/
def wait (arguments : List Bytes) : ShellM Nat := do
  if arguments.isEmpty then do
    let status ← waitEach false (← get).jobs 0
    return if status > 128 && !(← get).arrived.isEmpty then status else 0
  else do
    let pids ← arguments.mapM fun text =>
      if text.head? == some Byte.percent then giveUp (utf8 "No such job: " ++ text)
      else numberOf text
    waitEach true pids 0

/-- Sets what is done about a signal. -/
def setTrap (signal : Signal) (action : Option Bytes) : ShellM Unit := do
  modify fun state =>
    let others := state.traps.filter (·.1 != signal)
    { state with
      traps := match action with
        | some text => others ++ [(signal, text)]
        | none => others }
  if signal != 0 then
    tell (.dispose signal (match action with
      | none => .standard
      | some [] => .ignore
      | some _ => .catch))

/-- Sets what is done about signals, up to the first name that is none. -/
def setTraps (action : Option Bytes) : List Bytes → ShellM Nat
  | [] => return 0
  | name :: names => do
    match signal? 0 name with
    | some signal => do
      setTrap signal action
      setTraps action names
    | none => do
      warn (utf8 "trap: " ++ name ++ utf8 ": bad trap\n")
      return 1

/-- Sets what is done about signals, or prints it. -/
def trap (arguments : List Bytes) : ShellM Nat := do
  let arguments := if arguments.head? == some (utf8 "--") then arguments.tail else arguments
  match arguments with
  | [] => do
    let traps := (← get).traps.mergeSort fun a b => a.1 ≤ b.1
    let lines := traps.map fun (signal, action) =>
      utf8 "trap -- " ++ inQuotes action ++ [Byte.space] ++ signalName signal ++ [Byte.lineFeed]
    print "trap" lines.flatten
  | first :: rest => do
    let (action, names) :=
      if rest.isEmpty then (none, [first])
      else if first == [Byte.hyphen] then (none, rest)
      else if (signal? 0 first).isSome then (none, first :: rest)
      else (some first, rest)
    setTraps action names

/-- Three octal digits. -/
def octalDigits (n : Nat) : Bytes :=
  [n / 512 % 8, n / 64 % 8, n / 8 % 8, n % 8].map fun digit => UInt8.ofNat (48 + digit)

/-- Sets the permissions that new files do not get, or prints them. -/
def umask (arguments : List Bytes) : ShellM Nat := do
  match arguments with
  | [] => do
    match ← ask (.setMask 0) with
    | .number mask => do
      tell (.setMask mask)
      print "umask" (octalDigits mask ++ [Byte.lineFeed])
    | _ => return 1
  | text :: _ => do
    if text.all fun b => 48 ≤ b && b < 56 then do
      let mask := text.foldl (fun n b => n * 8 + (b.toNat - 48)) 0
      tell (.setMask (mask % 512))
      return 0
    else giveUp (utf8 "Illegal number: " ++ text)

/-! ## The table -/

/-- The commands inside the shell that need nothing but the shell. -/
def builtins : List (String × (List Bytes → ShellM Nat)) :=
  [(":", fun _ => return 0), ("true", fun _ => return 0), ("false", fun _ => return 1),
    ("echo", echo), ("printf", printf), ("test", test), ("[", bracket),
    ("cd", changeDirectory), ("chdir", changeDirectory), ("pwd", fun _ => printDirectory),
    ("export", exportAll), ("readonly", freeze), ("unset", unset), ("local", hide),
    ("shift", shift), ("set", configure), ("read", read), ("kill", kill), ("wait", wait),
    ("trap", trap), ("umask", umask), ("times", fun _ => return 0),
    ("ulimit", fun _ => return 0), ("alias", fun _ => return 0), ("unalias", fun _ => return 0)]

/-- The command inside the shell with a name. -/
def builtin? (name : Bytes) : Option (List Bytes → ShellM Nat) :=
  (builtins.find? (utf8 ·.1 == name)).map (·.2)

/-- The commands of the interpreter. -/
def controls : List String :=
  ["break", "continue", "return", "exit", "eval", ".", "exec", "type", "hash"]

end Shell

end Host

end CueFront
