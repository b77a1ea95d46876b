import CueFront.Host.Shell.Builtins
import CueFront.Host.Shell.Expansion

/-!
# Running scripts

Commands run one after the other, each to its end.  A program runs in a child; the last
command of a shell that has nothing else to do takes the place of the shell.  A failure
that nobody looks at ends the shell if the option for it is on.

A shell takes more steps than any run has, counted down; the count is no part of what a
script can see.
-/

namespace CueFront

namespace Host

namespace Shell

/-! ## Children -/

/-- What a new child of the shell does first: it drops what its parent does about signals,
except that it still ignores what its parent ignores. -/
def enterChild : ShellM Unit := do
  for (signal, action) in (← get).traps do
    if signal != 0 && !action.isEmpty then tell (.dispose signal .standard)
  modify fun state =>
    { state with
      traps := state.traps.filter fun (signal, action) => signal != 0 && action.isEmpty
      arrived := []
      jobs := []
      endedJobs := [] }

/-- Waits for a child and says what signal has ended it. -/
def waitForeground : Nat → Pid → ShellM Nat
  | 0, _ => return 127
  | fuel + 1, pid => do
    match ← ask (.wait (some pid) true) with
    | .ended _ status => do
      reportEnd status
      noteEnded
      return status.code
    | .failed errno =>
      if errno == .interrupted then do
        noteSignals
        waitForeground fuel pid
      else return 127
    | _ => return 127

/-- Whether anything is to be done when the shell ends or a signal comes. -/
def hasTraps (state : State) : Bool := state.traps.any (!·.2.isEmpty)

/-! ## Redirects -/

/-- A descriptor, and where its old file is kept if it was open. -/
abbrev Saved := Descriptor × Option Descriptor

/-- Where files of a shell are kept while they are replaced. -/
def savedFrom : Descriptor := 10

/-- Keeps the file of a descriptor. -/
def save (descriptor : Descriptor) : ShellM Saved := do
  match ← ask (.saveAbove descriptor savedFrom) with
  | .number kept => return (descriptor, some kept)
  | _ => return (descriptor, none)

/-- Brings back the files of descriptors. -/
def restore (saved : List Saved) : ShellM Unit := do
  for (descriptor, kept) in saved do
    match kept with
    | some kept => do
      tell (.duplicate kept descriptor)
      tell (.close kept)
    | none => tell (.close descriptor)

/-- Does something; if it is given up, the files of descriptors are brought back. -/
def restoring {α : Type} (saved : List Saved) (action : ShellM α) : ShellM α :=
  tryCatch action fun problem => do
    restore saved
    throw problem

/-- Gives up the old files of descriptors. -/
def forgetSaved (saved : List Saved) : ShellM Unit := do
  for (_, kept) in saved do
    match kept with
    | some kept => tell (.close kept)
    | none => pure ()

/-- Moves a new descriptor to its place. -/
def moveTo (source target : Descriptor) : ShellM Unit := do
  if source != target then do
    tell (.duplicate source target)
    tell (.close source)

/-- The text for a file that could not be opened. -/
def openProblem (use : FileUse) (errno : Errno) : Bytes :=
  if errno == .noEntry || errno == .notDirectory then
    if use == .input then utf8 "No such file" else utf8 "Directory nonexistent"
  else errno.message

/-- How a redirect opens its file. -/
def openModeOf : FileUse → OpenMode
  | .input => { reads := true }
  | .output => { writes := true, creates := true, truncates := true }
  | .append => { writes := true, creates := true, appends := true }
  | .both => { reads := true, writes := true, creates := true }

/-- Makes a redirect; false if that fails. -/
def redirect (capture : Capture) : Redirect → ShellM Bool
  | .file descriptor use target => do
    let path ← expandText capture target
    match ← ask (.openFile path (openModeOf use)) with
    | .number opened => do
      moveTo opened descriptor
      return true
    | .failed errno => do
      let verb := if use == .input then utf8 "cannot open " else utf8 "cannot create "
      complain (verb ++ path ++ utf8 ": " ++ openProblem use errno)
      return false
    | _ => return false
  | .copy descriptor source => do
    let text ← expandText capture source
    if text == [Byte.hyphen] then do
      tell (.close descriptor)
      return true
    else if !(Decimal.isNumeral text && text.length == 1) then
      giveUp (utf8 "Syntax error: Bad fd number")
    else
      match ← ask (.duplicate (Decimal.value text) descriptor) with
      | .failed errno => do
        complain (text ++ utf8 ": " ++ errno.message)
        return false
      | _ => return true
  | .text descriptor body => do
    let text ← expandText capture body
    match ← ask .pipe with
    | .pair reading writing => do
      if text.length ≤ 4096 then do
        tell (.write writing text)
        tell (.close writing)
        moveTo reading descriptor
      else do
        if (← fork) == 0 then do
          tell (.close reading)
          tell (.write writing text)
          quit 0
        else do
          tell (.close writing)
          moveTo reading descriptor
      return true
    | _ => return false

/-- Makes redirects one after the other, and keeps the old files.  The files that were kept
are given with the latest first. -/
def redirectAll (capture : Capture) : List Redirect → List Saved → ShellM (Bool × List Saved)
  | [], saved => return (true, saved)
  | next :: others, saved => do
    let descriptor :=
      match next with
      | .file descriptor _ _ | .copy descriptor _ | .text descriptor _ => descriptor
    let entry ← save descriptor
    if ← redirect capture next then redirectAll capture others (entry :: saved)
    else return (false, entry :: saved)

/-! ## Finding programs -/

/-- The directories that programs are looked for in. -/
def searchPath (state : State) : List Bytes :=
  Bytes.splitOn Byte.colon ((state.value? (utf8 "PATH")).getD (utf8 "/usr/bin:/bin"))

/-- The paths a command can have. -/
def candidates (state : State) (name : Bytes) : List Bytes :=
  if name.any (· == Byte.slash) then [name]
  else (searchPath state).map fun directory =>
    Path.join (if directory.isEmpty then [Byte.dot] else directory) name

/-- The first of some paths that leads to a file of a kind. -/
def firstFile (fits : FileInfo → Bool) : List Bytes → ShellM (Option Bytes)
  | [] => return none
  | path :: paths => do
    match ← ask (.stat path true) with
    | .info info => if fits info then return some path else firstFile fits paths
    | _ => firstFile fits paths

/-- The path of a program. -/
def locate (name : Bytes) : ShellM (Option Bytes) := do
  firstFile (fun info => info.kind == .regular && Nat.land info.mode 0o111 != 0)
    (candidates (← get) name)

/-- The path of a script in the directories of programs. -/
def locateFile (name : Bytes) : ShellM (Option Bytes) := do
  firstFile (·.kind == .regular) (candidates (← get) name)

/-- Tries paths one after the other.  Gives the reason why none could be executed. -/
def tryExec (arguments environment : List Bytes) : List Bytes → Errno → ShellM (Errno × Bytes)
  | [], errno => return (errno, [])
  | path :: paths, errno => do
    match ← ask (.exec path arguments environment) with
    | .failed problem =>
      if problem == .noExec then return (problem, path)
      else if problem == .noEntry || problem == .notDirectory then
        tryExec arguments environment paths errno
      else tryExec arguments environment paths problem
    | _ => return (errno, path)

/-! ## The interpreter -/

/-- The flow behind a loop that is left or goes on; nothing if the loop goes on itself. -/
def afterBody : Flow → Option Flow
  | .next => none
  | .finish => some .finish
  | .leave loops => some (if loops ≤ 1 then .next else .leave (loops - 1))
  | .again loops => if loops ≤ 1 then none else some (.again (loops - 1))

/-- Runs something whose failure is looked at. -/
def testing (action : ShellM Flow) : ShellM Flow := do
  let before := (← get).tested
  modify ({ · with tested := true })
  let flow ← action
  modify ({ · with tested := before })
  return flow

/-- How many of the loops around it a command speaks of; none if there is no loop. -/
def loopsOf (arguments : List Bytes) : ShellM Nat := do
  let count ←
    match arguments with
    | text :: _ => numberOf text
    | [] => pure 1
  if count == 0 then giveUp (utf8 "Illegal number: " ++ arguments.headD [])
  else return min count (← get).loops

/-- Runs a loop. -/
def inLoop (action : ShellM Flow) : ShellM Flow := do
  modify fun state => { state with loops := state.loops + 1 }
  let flow ← action
  modify fun state => { state with loops := state.loops - 1 }
  return flow

/-- Runs a command of the shell. -/
def asCommand {α : Type} (name : Bytes) (action : ShellM α) : ShellM α := do
  let before := (← get).running
  modify ({ · with running := some name })
  let result ← action
  modify ({ · with running := before })
  return result

/-- What happens if something is given up. -/
def orElse {α : Type} (action other : ShellM α) : ShellM α := do
  let before := (← get).running
  tryCatch action fun _ => do
    modify ({ · with running := before })
    other

/-! ## What names stand for -/

/-- What a name is as a command, and whether it is one. -/
def describe (name : Bytes) : ShellM (Bytes × Bool) := do
  let state ← get
  if reserved.contains name then return (utf8 " is a shell keyword", true)
  else if (state.functions.lookup name).isSome then return (utf8 " is a shell function", true)
  else if isAmong specials name then return (utf8 " is a special shell builtin", true)
  else if isAmong controls name || (builtin? name).isSome then
    return (utf8 " is a shell builtin", true)
  else
    match ← locate name with
    | some path => return (utf8 " is " ++ path, true)
    | none => return (utf8 ": not found", false)

/-- Says what names are as commands. -/
def describeAll (names : List Bytes) : ShellM Nat := do
  let found ← names.mapM describe
  let lines := (names.zip found).map fun (name, text, _) => name ++ text ++ [Byte.lineFeed]
  let status ← print "type" lines.flatten
  return if found.all (·.2) then status else 127

/-- Prints what is run for a name. -/
def resolve (name : Bytes) : ShellM Nat := do
  let known := reserved.contains name || isAmong controls name || (builtin? name).isSome ||
    ((← get).functions.lookup name).isSome
  match ← (if known then pure (some name) else locate name) with
  | some path => print "command" (path ++ [Byte.lineFeed])
  | none => return 127

/-- Looks for programs. -/
def rehash (names : List Bytes) : ShellM Nat := do
  let statuses ← names.mapM fun name => do
    if (← describe name).2 then return 0
    else do
      complain (name ++ utf8 ": not found")
      return 1
  return statuses.foldl max 0

mutual

/-- Ends the shell with an exit code. -/
def leaveShell : Nat → Nat → ShellM Flow
  | 0, status => quit status
  | fuel + 1, status => do
    match (← get).traps.lookup 0 with
    | some (b :: action) => do
      modify fun state => { state with traps := state.traps.filter (·.1 != 0), running := none }
      let _ ← orElse (runText fuel (b :: action)) (quit 2)
      quit status
    | _ => quit status

/-- Runs what is all a shell does, then ends the shell. -/
def runToEnd : Nat → ShellM Flow → ShellM Flow
  | 0, _ => quit 0
  | fuel + 1, action => do
    let status ← orElse (do let _ ← action; return (← get).status) (return 2)
    leaveShell fuel status

/-- Does what is to be done about signals that have come. -/
def runTraps : Nat → ShellM Flow
  | 0 => return .next
  | fuel + 1 => do
    if hasTraps (← get) then noteSignals
    match (← get).arrived with
    | [] => return .next
    | signal :: others => do
      let status := (← get).status
      modify ({ · with arrived := others })
      let flow ←
        match (← get).traps.lookup signal with
        | some action => runText fuel action
        | none => pure .next
      match flow with
      | .next => do
        setStatus status
        runTraps fuel
      | flow => return flow

/-- Runs a script line by line. -/
def runScript : Nat → Script → ShellM Flow
  | 0, _ => return .next
  | fuel + 1, script => do
    if script.isDone then return .next
    else
      match readLine script with
      | .error mistake => do
        modify ({ · with line := mistake.line })
        giveUp mistake.text
      | .ok (command, rest) => do
        match ← (if (← get).isOn 'n' then pure .next else run fuel command false) with
        | .next => runScript fuel rest
        | flow => return flow

/-- Runs a text as a script. -/
def runText : Nat → Bytes → ShellM Flow
  | 0, _ => return .next
  | fuel + 1, text => runScript fuel { rest := text }

/-- Runs a command in a process of its own and gives its output. -/
def capture : Nat → Command → ShellM Bytes
  | 0, _ => return []
  | fuel + 1, body => do
    match ← ask .pipe with
    | .pair reading writing => do
      let pid ← fork
      if pid == 0 then do
        tell (.close reading)
        moveTo writing 1
        enterChild
        let _ ← runToEnd fuel (run fuel body true)
        return []
      else do
        tell (.close writing)
        let text ← perform (Task.readAll reading)
        tell (.close reading)
        let status ← waitForeground fuel pid
        modify ({ · with captured := some status })
        return match text with
          | .ok text => text
          | .error _ => []
    | _ => return []

/-- Ends the shell after a failure that nobody looks at, if it has to end. -/
def checkFailure : Nat → ShellM Flow
  | 0 => return .next
  | fuel + 1 => do
    let state ← get
    if state.status != 0 && state.isOn 'e' && !state.tested then leaveShell fuel state.status
    else return .next

/-- Runs a command.  The last command of a shell can take its place. -/
def run : Nat → Command → Bool → ShellM Flow
  | 0, _, _ => return .next
  | fuel + 1, command, last => do
    match command with
    | .nothing => return .next
    | .simple line assignments words redirects => do
      modify ({ · with line, captured := none })
      tell .compute
      match ← runSimple fuel assignments words redirects last with
      | .next => do
        match ← checkFailure fuel with
        | .next => runTraps fuel
        | flow => return flow
      | flow => return flow
    | .pipeline commands => do
      let pids ← startPipeline fuel commands none
      let statuses ← pids.mapM (waitForeground fuel)
      setStatus (statuses.getLast?.getD 0)
      checkFailure fuel
    | .negation command => do
      match ← testing (run fuel command false) with
      | .next => do
        setStatus (if (← get).status == 0 then 1 else 0)
        return .next
      | flow => return flow
    | .andThen first second => do
      match ← testing (run fuel first false) with
      | .next => if (← get).status == 0 then run fuel second last else return .next
      | flow => return flow
    | .orElse first second => do
      match ← testing (run fuel first false) with
      | .next => if (← get).status == 0 then return .next else run fuel second last
      | flow => return flow
    | .sequence first second => do
      match ← run fuel first false with
      | .next => run fuel second last
      | flow => return flow
    | .background command => do
      let pid ← fork
      if pid == 0 then do
        enterChild
        tell (.dispose Signal.interrupt .ignore)
        tell (.dispose Signal.quit .ignore)
        tell (.close 0)
        tell (.openFile (utf8 "/dev/null") { reads := true })
        runToEnd fuel (run fuel command true)
      else do
        modify fun state =>
          { state with background := some pid, jobs := state.jobs ++ [pid], status := 0 }
        return .next
    | .redirected command redirects => do
      let (made, saved) ← redirectAll (capture fuel) redirects []
      let flow ←
        if made then restoring saved (run fuel command false)
        else do
          setStatus 2
          checkFailure fuel
      restore saved
      return flow
    | .subshell body => do
      let inPlace := last && !hasTraps (← get)
      let pid ← if inPlace then pure 0 else fork
      if pid == 0 then do
        enterChild
        runToEnd fuel (run fuel body true)
      else do
        setStatus (← waitForeground fuel pid)
        checkFailure fuel
    | .conditional condition first second => do
      match ← testing (run fuel condition false) with
      | .next =>
        if (← get).status == 0 then run fuel first last
        else do
          setStatus 0
          run fuel second last
      | flow => return flow
    | .loop untilHolds condition body =>
      inLoop (runLoop fuel untilHolds condition body 0)
    | .forEach line name words body => do
      modify ({ · with line })
      let fields ←
        match words with
        | some words => expandAll (capture fuel) words
        | none => pure (← get).arguments
      setStatus 0
      inLoop (runEach fuel name fields body)
    | .select line word arms => do
      modify ({ · with line })
      let text ← expandText (capture fuel) word
      setStatus 0
      runArms fuel text arms last
    | .define name body => do
      modify fun state =>
        { state with
          functions := (name, body) :: state.functions.filter (·.1 != name), status := 0 }
      return .next

/-- Starts the commands of a pipeline; the input of the first is given.  Their processes. -/
def startPipeline : Nat → List Command → Option Descriptor → ShellM (List Pid)
  | 0, _, _ => return []
  | _ + 1, [], _ => return []
  | fuel + 1, command :: commands, input => do
    let ends ←
      if commands.isEmpty then pure none
      else do
        match ← ask .pipe with
        | .pair reading writing => pure (some (reading, writing))
        | _ => pure none
    let pid ← fork
    if pid == 0 then do
      enterChild
      match ends with
      | some (reading, _) => tell (.close reading)
      | none => pure ()
      match input with
      | some input => moveTo input 0
      | none => pure ()
      match ends with
      | some (_, writing) => moveTo writing 1
      | none => pure ()
      let _ ← runToEnd fuel (run fuel command true)
      return []
    else do
      match input with
      | some input => tell (.close input)
      | none => pure ()
      match ends with
      | some (_, writing) => tell (.close writing)
      | none => pure ()
      return pid :: (← startPipeline fuel commands (ends.map (·.1)))

/-- Runs a loop; the exit code is that of its last round. -/
def runLoop : Nat → Bool → Command → Command → Nat → ShellM Flow
  | 0, _, _, _, _ => return .next
  | fuel + 1, untilHolds, condition, body, status => do
    tell .compute
    match ← testing (run fuel condition false) with
    | .next =>
      if ((← get).status == 0) == untilHolds then do
        setStatus status
        return .next
      else do
        let flow ← run fuel body false
        match afterBody flow with
        | some flow => return flow
        | none => runLoop fuel untilHolds condition body (← get).status
    | flow =>
      match afterBody flow with
      | some flow => return flow
      | none => runLoop fuel untilHolds condition body status

/-- Runs a loop over fields. -/
def runEach : Nat → Bytes → List Bytes → Command → ShellM Flow
  | 0, _, _, _ => return .next
  | _ + 1, _, [], _ => return .next
  | fuel + 1, name, field :: fields, body => do
    assign name field
    let flow ← run fuel body false
    match afterBody flow with
    | some flow => return flow
    | none => runEach fuel name fields body

/-- Runs the first arm with a pattern that fits. -/
def runArms : Nat → Bytes → List (List Word × Command) → Bool → ShellM Flow
  | 0, _, _, _ => return .next
  | _ + 1, _, [], _ => return .next
  | fuel + 1, text, (patterns, body) :: arms, last => do
    let patterns ← patterns.mapM (expandPattern (capture fuel))
    if patterns.any (Glob.fits · text) then run fuel body last else runArms fuel text arms last

/-- Assigns the values of words to variables. -/
def runAssignments : Nat → List (Bytes × Word) → ShellM (List (Bytes × Bytes))
  | 0, _ => return []
  | _ + 1, [] => return []
  | fuel + 1, (name, word) :: others => do
    let value ← expandText (capture fuel) word
    return (name, value) :: (← runAssignments fuel others)

/-- Runs a simple command. -/
def runSimple : Nat → List (Bytes × Word) → List Word → List Redirect → Bool → ShellM Flow
  | 0, _, _, _, _ => return .next
  | fuel + 1, assignments, words, redirects, last => do
    let fields ← expandAll (capture fuel) words
    match fields with
    | [] => do
      let (made, saved) ← redirectAll (capture fuel) redirects []
      if made then
        for (name, word) in assignments do
          let value ← expandText (capture fuel) word
          restoring saved (assign name value)
      restore saved
      let captured := (← get).captured
      setStatus (if made then captured.getD 0 else 2)
      return .next
    | name :: arguments => do
      if (← get).isOn 'x' then
        warn (utf8 "+ " ++ Bytes.joinWith [Byte.space] fields ++ [Byte.lineFeed])
      let (made, saved) ← redirectAll (capture fuel) redirects []
      if !made then do
        restore saved
        setStatus 2
        if isAmong specials name then throw {} else return .next
      else do
        let values ← runAssignments fuel assignments
        let stays := isAmong specials name
        let before := (← get).vars
        for (name, value) in values do
          assign name value
          if !stays then
            modify fun state =>
              state.put name { (state.find? name).getD { value := none } with exported := true }
        let permanent := name == utf8 "exec" && arguments.isEmpty
        let flow ← restoring saved (runCommand fuel true name arguments last)
        if permanent then forgetSaved saved else restore saved
        if !stays then
          for (name, _) in values do
            modify fun state =>
              match before.lookup name with
              | some held => state.put name held
              | none => state.drop name
        return flow

/-- Runs a command that is a function, part of the shell or a program. -/
def runCommand : Nat → Bool → Bytes → List Bytes → Bool → ShellM Flow
  | 0, _, _, _, _ => return .next
  | fuel + 1, functionsToo, name, arguments, last => do
    let state ← get
    let function? := if functionsToo && !isAmong specials name then state.functions.lookup name
      else none
    match function? with
    | some body => runFunction fuel body arguments
    | none =>
      if isAmong controls name then do
        let flow := asCommand name (runControl fuel name arguments)
        if functionsToo && isAmong specials name then flow
        else orElse flow (do setStatus 2; return .next)
      else if name == utf8 "command" then runPlain fuel arguments last
      else
        match builtin? name with
        | some builtin => do
          let status := asCommand name (builtin arguments)
          if functionsToo && isAmong specials name then setStatus (← status)
          else setStatus (← orElse status (return 2))
          return .next
        | none =>
          if last && !hasTraps state then becomeProgram fuel name arguments
          else do
            let pid ← fork
            if pid == 0 then do
              enterChild
              becomeProgram fuel name arguments
            else do
              setStatus (← waitForeground fuel pid)
              return .next

/-- Runs a function. -/
def runFunction : Nat → Command → List Bytes → ShellM Flow
  | 0, _, _ => return .next
  | fuel + 1, body, arguments => do
    let before ← get
    set { before with arguments, hidden := [], inFunction := true, loops := 0 }
    let flow ← run fuel body false
    for (name, held) in (← get).hidden do
      modify fun state =>
        match held with
        | some held => state.put name held
        | none => state.drop name
    modify fun state =>
      { state with
        arguments := before.arguments, hidden := before.hidden
        inFunction := before.inFunction, loops := before.loops }
    return match flow with
      | .finish => .next
      | flow => flow

/-- Runs a command of the interpreter. -/
def runControl : Nat → Bytes → List Bytes → ShellM Flow
  | 0, _, _ => return .next
  | fuel + 1, name, arguments => do
    let given : ShellM Nat := do
      match arguments with
      | text :: _ => numberOf text
      | [] => return (← get).status
    if name == utf8 "break" || name == utf8 "continue" then do
      let loops ← loopsOf arguments
      setStatus 0
      return if loops == 0 then .next
        else if name == utf8 "break" then .leave loops else .again loops
    else if name == utf8 "return" then do
      setStatus (← given)
      return .finish
    else if name == utf8 "exit" then do leaveShell fuel (← given)
    else if name == utf8 "eval" then do
      setStatus 0
      runText fuel (Bytes.joinWith [Byte.space] arguments)
    else if name == utf8 "." then runFile fuel arguments
    else if name == utf8 "exec" then
      match arguments with
      | [] => do setStatus 0; return .next
      | program :: arguments => becomeProgram fuel program arguments
    else do
      setStatus (← (if name == utf8 "hash" then rehash else describeAll) arguments)
      return .next

/-- Runs a command that is no function, or says what it is. -/
def runPlain : Nat → List Bytes → Bool → ShellM Flow
  | 0, _, _ => return .next
  | fuel + 1, arguments, last => do
    match arguments with
    | [] => do setStatus 0; return .next
    | first :: rest =>
      match rest.head?, first == utf8 "-v", first == utf8 "-V" with
      | some name, true, _ => do
        setStatus (← asCommand (utf8 "command") (resolve name))
        return .next
      | some name, _, true => do
        setStatus (← asCommand (utf8 "command") (describeAll [name]))
        return .next
      | _, _, _ =>
        if first == utf8 "--" || first == utf8 "-p" then runPlain fuel rest last
        else runCommand fuel false first rest last

/-- Runs the commands in a file. -/
def runFile : Nat → List Bytes → ShellM Flow
  | 0, _ => return .next
  | _ + 1, [] => return .next
  | fuel + 1, name :: _ => do
    let path ← if name.any (· == Byte.slash) then pure (some name) else locateFile name
    match path with
    | none => giveUp (name ++ utf8 ": not found")
    | some path =>
      match ← ask (.openFile path { reads := true }) with
      | .number descriptor => do
        let text ← perform (Task.readAll descriptor)
        tell (.close descriptor)
        match text with
        | .ok text => do
          setStatus 0
          match ← asCommand path (runText fuel text) with
          | .finish => return .next
          | flow => return flow
        | .error _ => return .next
      | _ => giveUp (utf8 "cannot open " ++ name ++ utf8 ": No such file")

/-- Lets a program take the place of the shell.  A script without interpreter is run by the
shell itself. -/
def becomeProgram : Nat → Bytes → List Bytes → ShellM Flow
  | 0, _, _ => quit 127
  | fuel + 1, name, arguments => do
    let state ← get
    let (errno, path) ←
      tryExec (name :: arguments) state.environment (candidates state name) .noEntry
    if errno == .noExec then do
      match ← ask (.openFile path { reads := true }) with
      | .number descriptor => do
        let text ← perform (Task.readAll descriptor)
        tell (.close descriptor)
        modify fun state =>
          { vars := state.vars.filter (·.2.exported)
            arguments
            name := path
            pid := state.pid }
        runToEnd fuel (runText fuel (match text with
          | .ok text => text
          | .error _ => []))
      | _ => quit 127
    else do
      let missing := errno == .noEntry || name.isEmpty
      complain (name ++ utf8 ": " ++
        if errno == .noEntry then utf8 "not found" else errno.message)
      leaveShell fuel (if missing then 127 else 126)

end

/-! ## The program -/

/-- The variables of a new shell. -/
def startVariables (environment : List Bytes) (parent : Pid) (directory : Bytes) :
    List (Bytes × Variable) :=
  let given := environment.filterMap fun entry =>
    let (name, value) := splitAssignment entry
    if isName name then some (name, { value, exported := true : Variable }) else none
  let plain (name : String) (value : Bytes) : Bytes × Variable :=
    (utf8 name, { value := some value })
  let own : List (Bytes × Variable) :=
    [plain "IFS" [Byte.space, Byte.tab, Byte.lineFeed], plain "OPTIND" [Byte.one],
      plain "PPID" (Decimal.digits parent), plain "PS1" (utf8 "# "), plain "PS2" (utf8 "> "),
      plain "PS4" (utf8 "+ "), (utf8 "PWD", { value := some directory, exported := true })]
  let kept := given.filter fun entry =>
    !own.any (·.1 == entry.1) || entry.1 == utf8 "PS1" || entry.1 == utf8 "PS2"
  kept ++ own.filter fun entry => !kept.any (·.1 == entry.1)

/-- Runs a text with some arguments. -/
def runWith (name : Bytes) (arguments : List Bytes) (text : Bytes) : ShellM Flow := do
  modify ({ · with name, arguments, line := 1 })
  runText Task.ampleSteps text

/-- Runs what is read from a descriptor. -/
def runInput (name : Bytes) (arguments : List Bytes) (descriptor : Descriptor) : ShellM Flow := do
  match ← perform (Task.readAll descriptor) with
  | .ok text => runWith name arguments text
  | .error _ => return .next

/-- Runs the script that the arguments of a shell name. -/
def start (arguments : List Bytes) : ShellM Flow := do
  let zero := arguments.headD (utf8 "sh")
  modify ({ · with line := 0 })
  let options ← readOptions true arguments.length { rest := arguments.tail }
  match options.rest with
  | [] =>
    if options.command then giveUp (utf8 "-c requires an argument")
    else do
      turn true [Byte.of 's']
      runInput zero [] 0
  | first :: others =>
    if options.command then runWith (others.headD zero) others.tail first
    else if (← get).isOn 's' then runInput zero options.rest 0
    else
      match ← ask (.openFile first { reads := true }) with
      | .failed errno =>
        giveUp (utf8 "cannot open " ++ first ++ utf8 ": " ++ openProblem .input errno)
      | .number descriptor => do
        let text ← perform (Task.readAll descriptor)
        tell (.close descriptor)
        match text with
        | .ok text => runWith first others text
        | .error _ => return .next
      | _ => return .next

/-- The shell as a program. -/
def program (arguments environment : List Bytes) : Code :=
  let task : Task Unit := do
    let number (reply : Reply) : Nat :=
      match reply with
      | .number n => n
      | _ => 0
    let pid := number (← Task.ask .pid)
    let parent := number (← Task.ask .parentPid)
    let directory ←
      match ← Task.ask .workingDirectory with
      | .bytes path => pure path
      | .failed errno => do
        Task.tell (.write 2 (utf8 "sh: 0: getcwd() failed: " ++ errno.message ++ [Byte.lineFeed]))
        pure []
      | _ => pure []
    let state : State :=
      { vars := startVariables environment parent directory
        arguments := []
        name := arguments.headD (utf8 "sh")
        pid }
    let _ ← (runToEnd Task.ampleSteps (start arguments)).run state
    return ()
  task fun _ => .exit 0

end Shell

end Host

end CueFront
