import CueFront.Host.Shell.Builtins
import CueFront.Host.Tool.Streams

/-!
# Tools that run programs and wait

These tools start other programs, send signals, wait, or say something about the host.
-/

namespace CueFront

namespace Host

namespace Tool

/-! ## Environments -/

/-- Puts a variable into an environment. -/
def withVariable (environment : List Bytes) (entry : Bytes) : List Bytes :=
  let name := entry.takeWhile (· != Byte.equals)
  let start := name ++ [Byte.equals]
  if environment.any start.isPrefixOf then
    environment.map fun other => if start.isPrefixOf other then entry else other
  else environment ++ [entry]

/-- Takes a variable out of an environment. -/
def withoutVariable (environment : List Bytes) (name : Bytes) : List Bytes :=
  environment.filter fun entry => !(name ++ [Byte.equals]).isPrefixOf entry

/-- Runs a program with another environment, or prints it. -/
def env : Tool := withOptions
    [⟨'i', "ignore-environment", false⟩, ⟨'u', "unset", true⟩, ⟨'0', "null", false⟩] false 125
    fun name arguments environment => do
  let bare := arguments.has 'i' || arguments.operands.head? == some [Byte.hyphen]
  let operands :=
    if arguments.operands.head? == some [Byte.hyphen] then arguments.operands.tail
    else arguments.operands
  let start := if bare then [] else environment
  let start := arguments.options.foldl (fun entries (letter, value) =>
    if letter == 'u' then withoutVariable entries value else entries) start
  let assignments := operands.takeWhile fun text => text.any (· == Byte.equals)
  let entries := assignments.foldl withVariable start
  match operands.drop assignments.length with
  | [] => do
    let ending : UInt8 := if arguments.has '0' then 0 else Byte.lineFeed
    say name (entries.map fun entry => entry ++ [ending]).flatten
    return 0
  | command => execute name entries command

/-- Prints the values of variables. -/
def printenv : Tool := withOptions [⟨'0', "null", false⟩] true 2
    fun name arguments environment => do
  if arguments.operands.isEmpty then do
    say name (environment.map ended).flatten
    return 0
  else do
    let codes ← arguments.operands.mapM fun variableName => do
      match (environment.find? (variableName ++ [Byte.equals]).isPrefixOf) with
      | some entry => do
        say name (ended (entry.drop (variableName.length + 1)))
        return 0
      | none => return 1
    return codes.foldl max 0

/-! ## Time -/

/-- A time like `0.5` or `2m`, in nanoseconds. -/
def duration? (text : Bytes) : Option Nat :=
  let digits := text.takeWhile Byte.isDigit
  let rest := text.drop digits.length
  let (fraction, rest) :=
    match rest with
    | Byte.dot :: rest => (rest.takeWhile Byte.isDigit, rest.dropWhile Byte.isDigit)
    | _ => (([] : Bytes), rest)
  if digits.isEmpty && fraction.isEmpty then
    if text == utf8 "infinity" || text == utf8 "inf" then some 1000000000000000000 else none
  else
    let unit? : Option Nat :=
      match rest with
      | [] => some 1
      | [b] =>
        if b == Byte.of 's' then some 1 else if b == Byte.of 'm' then some 60
        else if b == Byte.of 'h' then some 3600 else if b == Byte.of 'd' then some 86400 else none
      | _ => none
    unit?.map fun factor =>
      let small := (fraction ++ List.replicate (9 - fraction.length) 48).take 9
      (Decimal.value digits * 1000000000 + Decimal.value small) * factor

/-- Waits for a time. -/
def sleep : Tool := fun name arguments _ => do
  match arguments with
  | [] => misuse name (utf8 "missing operand") 1
  | _ =>
    match arguments.find? fun text => (duration? text).isNone with
    | some text => misuse name (utf8 "invalid time interval " ++ quoted text) 1
    | none => do
      let total := (arguments.filterMap duration?).foldl (· + ·) 0
      Task.tell (.sleep total)
      return 0

/-- Waits for a child up to a time, looking again and again; nothing if it still runs. -/
def waitUntil (pid : Pid) (deadline : Nat) : Nat → Task (Option Nat)
  | 0 => return none
  | fuel + 1 => do
    match ← Task.ask (.wait (some pid) false) with
    | .ended _ status => return some status.code
    | .failed _ => return some 127
    | _ =>
      match ← Task.ask .clock with
      | .number now =>
        if deadline ≤ now then return none
        else do
          Task.tell (.sleep 1000000)
          waitUntil pid deadline fuel
      | _ => return none

/-- Waits for a child. -/
def waitChild (pid : Pid) : Task Nat := do
  match ← Task.ask (.wait (some pid) true) with
  | .ended _ status => return status.code
  | _ => return 127

/-- Runs a program in a child. -/
def runChild (name : Bytes) (environment : List Bytes) (command : List Bytes) : Task Pid := do
  let pid ← Task.fork
  if pid == 0 then do
    let code ← execute name environment command
    Task.exit code
  else return pid

/-- Runs a program for a time only. -/
def timeout : Tool := withOptions
    [⟨'s', "signal", true⟩, ⟨'k', "kill-after", true⟩, ⟨'f', "foreground", false⟩,
      ⟨'p', "preserve-status", false⟩] false 125 fun name arguments environment => do
  let signal := ((arguments.value? 's').bind Signal.ofText?).getD 15
  match arguments.operands with
  | text :: command =>
    match duration? text with
    | none => misuse name (utf8 "invalid time interval " ++ quoted text) 125
    | some limit => do
      let start ← Task.ask .clock
      let pid ← runChild name environment command
      let now :=
        match start with
        | .number now => now
        | _ => 0
      if limit == 0 then waitChild pid
      else
        match ← waitUntil pid (now + limit) Task.ampleSteps with
        | some code => return code
        | none => do
          Task.tell (.kill pid signal)
          let code ←
            match arguments.value? 'k' |>.bind duration? with
            | none => waitChild pid
            | some more => do
              match ← waitUntil pid (now + limit + more) Task.ampleSteps with
              | some code => pure code
              | none => do
                Task.tell (.kill pid Signal.kill)
                waitChild pid
          return if arguments.has 'p' || code == 128 + Signal.kill then code else 124
  | [] => misuse name (utf8 "missing operand") 125

/-! ## Processes -/

/-- The process, or with a minus sign the group, that a text stands for. -/
def target? (text : Bytes) : Option Int :=
  match text with
  | Byte.hyphen :: digits =>
    if Decimal.isNumeral digits then some (-(Decimal.value digits)) else none
  | _ => if Decimal.isNumeral text then some (Decimal.value text) else none

/-- Sends a signal to processes. -/
def kill : Tool := fun name arguments _ => do
  let send (signal : Signal) (targets : List Bytes) : Task Nat := do
    let codes ← targets.mapM fun text => do
      match target? text with
      | none => do
        complain name (utf8 "failed to parse argument: " ++ shown text)
        return 1
      | some target =>
        match ← Task.ask (.kill target signal) with
        | .failed errno => do
          complain name (utf8 "(" ++ text ++ utf8 "): " ++ errno.message)
          return 1
        | _ => return 0
    return codes.foldl max 0
  match arguments with
  | [] => misuse name (utf8 "not enough arguments") 1
  | first :: rest =>
    if first == utf8 "-s" then
      match rest with
      | text :: targets => send ((Signal.ofText? text).getD 15) targets
      | [] => return 1
    else
      match first with
      | Byte.hyphen :: text =>
        match Signal.ofText? text with
        | some signal => send signal (rest.filter (· != utf8 "--"))
        | none => do
          complain name (utf8 "unknown signal: " ++ text)
          return 1
      | _ => send 15 arguments

/-- Runs a program in a session of its own. -/
def setsid : Tool := withOptions
    [⟨'w', "wait", false⟩, ⟨'f', "fork", false⟩, ⟨'c', "ctty", false⟩] false 1
    fun name arguments environment => do
  if arguments.operands.isEmpty then misuse name (utf8 "no command specified") 1
  else do
    let become : Task Nat := do
      Task.tell .newSession
      execute name environment arguments.operands
    let leads ←
      if arguments.has 'f' then pure true
      else do
        match ← Task.ask .newSession with
        | .failed _ => pure true
        | _ => pure false
    if leads then do
      let pid ← Task.fork
      if pid == 0 then become
      else if arguments.has 'w' then waitChild pid
      else return 0
    else execute name environment arguments.operands

/-- Runs a program that ignores the loss of its terminal. -/
def nohup : Tool := fun name arguments environment => do
  match arguments with
  | [] => misuse name (utf8 "missing operand") 125
  | command => do
    Task.tell (.dispose Signal.hangup .ignore)
    execute name environment command

/-- The words of a text: blanks separate, quotes and backslashes protect. -/
def wordsOf : Nat → Bytes → Option Bytes → List Bytes
  | 0, _, current => current.toList.map List.reverse
  | _ + 1, [], current => current.toList.map List.reverse
  | fuel + 1, b :: rest, current =>
    if Byte.isSpace b then
      match current with
      | some word => word.reverse :: wordsOf fuel rest none
      | none => wordsOf fuel rest none
    else if b == Byte.singleQuote || b == Byte.doubleQuote then
      let text := rest.takeWhile (· != b)
      wordsOf fuel (rest.drop (text.length + 1)) (some (text.reverse ++ current.getD []))
    else if b == Byte.backslash then
      match rest with
      | c :: rest => wordsOf fuel rest (some (c :: current.getD []))
      | [] => wordsOf fuel [] current
    else wordsOf fuel rest (some (b :: current.getD []))

/-- Lists of at most a number of words, given enough steps. -/
def groupsOf (size : Nat) : Nat → List Bytes → List (List Bytes)
  | 0, _ => []
  | fuel + 1, words =>
    if words.length ≤ size then [words]
    else words.take size :: groupsOf size fuel (words.drop size)

/-- Replaces every occurrence of a text, given enough steps. -/
def substitute (mark image : Bytes) : Nat → Bytes → Bytes
  | 0, text => text
  | _ + 1, [] => []
  | fuel + 1, b :: rest =>
    if !mark.isEmpty && mark.isPrefixOf (b :: rest) then
      image ++ substitute mark image fuel ((b :: rest).drop mark.length)
    else b :: substitute mark image fuel rest

/-- Runs a program with arguments from its input. -/
def xargs : Tool := withOptions
    [⟨'n', "max-args", true⟩, ⟨'I', "", true⟩, ⟨'r', "no-run-if-empty", false⟩,
      ⟨'0', "null", false⟩, ⟨'d', "delimiter", true⟩] false 1 fun name arguments environment => do
  match ← readInput name [Byte.hyphen] 0 with
  | none => return 1
  | some text => do
    let command := if arguments.operands.isEmpty then [utf8 "echo"] else arguments.operands
    let pieces (separator : UInt8) : List Bytes :=
      let all := Bytes.splitOn separator text
      if all.getLast? == some [] then all.dropLast else all
    let words :=
      if arguments.has '0' then pieces 0
      else
        match arguments.value? 'd' with
        | some delimiter => pieces (delimiter.headD 10)
        | none =>
          if arguments.has 'I' then pieces Byte.lineFeed
          else wordsOf (text.length + 1) text none
    let commands :=
      match arguments.value? 'I' with
      | some mark => words.map fun (word : Bytes) =>
        command.map fun (part : Bytes) => substitute mark word (part.length + 1) part
      | none =>
        let size := ((arguments.value? 'n').map Decimal.value).getD words.length
        if words.isEmpty then if arguments.has 'r' then [] else [command]
        else (groupsOf (max 1 size) (words.length + 1) words).map (command ++ ·)
    let codes ← commands.mapM fun command => do waitChild (← runChild name environment command)
    let worst := codes.foldl max 0
    return if worst == 0 then 0 else if worst ≤ 125 then 123 else worst

/-- Copies blocks of bytes. -/
def dd : Tool := fun name arguments _ => do
  let value? (key : String) : Option Bytes :=
    (arguments.find? (utf8 key ++ [Byte.equals]).isPrefixOf).map (·.drop (key.utf8ByteSize + 1))
  let size := ((value? "bs").bind amount?).getD 512
  let count := (value? "count").bind amount?
  let input ←
    match value? "if" with
    | none => pure (some 0)
    | some path => openInput name path
  let output ←
    match value? "of" with
    | none => pure (some 1)
    | some path => do
      match ← Task.ask (.openFile path { writes := true, creates := true, truncates := true }) with
      | .number descriptor => pure (some descriptor)
      | .failed errno => do
        complain name (utf8 "failed to open " ++ shown path ++ utf8 ": " ++ errno.message)
        pure none
      | _ => pure none
  match input, output with
  | some input, some output => do
    let rec go : Nat → Nat → Nat → Nat → Task (Nat × Nat)
      | 0, _, full, shorter => return (full, shorter)
      | fuel + 1, left, full, shorter => do
        if left == 0 then return (full, shorter)
        else
          match ← Task.readSome input size with
          | .ok [] | .error _ => return (full, shorter)
          | .ok block => do
            Task.tell (.write output block)
            if block.length == size then go fuel (left - 1) (full + 1) shorter
            else go fuel (left - 1) full (shorter + 1)
    let (full, shorter) ← go Task.ampleSteps (count.getD Task.ampleSteps) 0 0
    let records := Decimal.digits full ++ utf8 "+" ++ Decimal.digits shorter ++ utf8 " records "
    if value? "status" != some (utf8 "none") then do
      let _ ← Task.writeAll 2 (records ++ utf8 "in\n" ++ records ++ utf8 "out\n")
    return 0
  | _, _ => return 1

/-- Prints the name of the system. -/
def uname : Tool := fun name _ _ => do
  say name (utf8 "Linux\n")
  return 0

/-- Prints who runs the tool. -/
def whoami : Tool := fun name _ _ => do
  say name (utf8 "root\n")
  return 0

/-- Prints the numbers and names of who runs the tool. -/
def identity : Tool := withOptions
    [⟨'u', "user", false⟩, ⟨'g', "group", false⟩, ⟨'n', "name", false⟩, ⟨'G', "", false⟩] true 1
    fun name arguments _ => do
  let one := arguments.has 'u' || arguments.has 'g' || arguments.has 'G'
  say name
    (if one then if arguments.has 'n' then utf8 "root\n" else utf8 "0\n"
      else utf8 "uid=0(root) gid=0(root) groups=0(root)\n")
  return 0

/-- Does nothing, and succeeds. -/
def succeed : Tool := fun _ _ _ => return 0

/-- Does nothing, and fails. -/
def fail : Tool := fun _ _ _ => return 1

end Tool

end Host

end CueFront
