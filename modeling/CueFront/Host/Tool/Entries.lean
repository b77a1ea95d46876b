import CueFront.Host.Condition
import CueFront.Host.Shell.Glob
import CueFront.Host.Tool.Basic

/-!
# Tools that work on the file tree

These tools make, move, remove and list files.
-/

namespace CueFront

namespace Host

namespace Tool

/-! ## Paths -/

/-- The path without slashes at its end. -/
def withoutSlashes (path : Bytes) : Bytes :=
  let trimmed := (path.reverse.dropWhile (· == Byte.slash)).reverse
  if trimmed.isEmpty && !path.isEmpty then [Byte.slash] else trimmed

/-- The last name of a path. -/
def lastName (path : Bytes) : Bytes :=
  let trimmed := withoutSlashes path
  if trimmed == [Byte.slash] then trimmed
  else (Bytes.splitOn Byte.slash trimmed).getLastD []

/-- Everything in front of the last name of a path. -/
def parentOf (path : Bytes) : Bytes :=
  let trimmed := withoutSlashes path
  match Bytes.splitLast? Byte.slash trimmed with
  | none => [Byte.dot]
  | some (front, _) => if front.isEmpty then [Byte.slash] else withoutSlashes front

/-- Prints the last names of paths. -/
def basename : Tool := withOptions
    [⟨'a', "multiple", false⟩, ⟨'s', "suffix", true⟩] false 1 fun name arguments _ => do
  let cutSuffix (suffix text : Bytes) : Bytes :=
    if suffix != text && suffix.isSuffixOf text then text.take (text.length - suffix.length)
    else text
  match arguments.operands with
  | [] => misuse name (utf8 "missing operand") 1
  | path :: others =>
    if arguments.has 'a' || arguments.has 's' then do
      let suffix := (arguments.value? 's').getD []
      say name ((path :: others).map fun path => ended (cutSuffix suffix (lastName path))).flatten
      return 0
    else
      match others with
      | [] => do say name (ended (lastName path)); return 0
      | [suffix] => do say name (ended (cutSuffix suffix (lastName path))); return 0
      | _ :: extra :: _ => misuse name (utf8 "extra operand " ++ quoted extra) 1

/-- Prints what stands in front of the last names of paths. -/
def dirname : Tool := withOptions [] false 1 fun name arguments _ => do
  if arguments.operands.isEmpty then misuse name (utf8 "missing operand") 1
  else do
    say name (arguments.operands.map fun path => ended (parentOf path)).flatten
    return 0

/-- Prints the working directory. -/
def pwd : Tool := fun name _ _ => do
  match ← Task.ask .workingDirectory with
  | .bytes path => do say name (ended path); return 0
  | _ => return 1

/-- The path without links and dots, given enough steps. -/
def resolvePath : Nat → Bytes → List Bytes → Task (Option Bytes)
  | 0, _, _ => return none
  | _ + 1, path, [] => return some (if path.isEmpty then [Byte.slash] else path)
  | fuel + 1, path, name :: names => do
    if name == [Byte.dot] then resolvePath fuel path names
    else if name == utf8 ".." then
      resolvePath fuel (((Bytes.splitLast? Byte.slash path).map (·.1)).getD []) names
    else do
      let here := path ++ Byte.slash :: name
      match ← Task.ask (.readLink here) with
      | .bytes target =>
        resolvePath fuel (if Path.isAbsolute target then [] else path) (Path.names target ++ names)
      | .failed errno =>
        if errno == .noEntry && !names.isEmpty then return none
        else resolvePath fuel here names
      | _ => return none

/-- The path from the root without links and dots. -/
def canonical (path : Bytes) : Task (Option Bytes) := do
  match ← Task.ask .workingDirectory with
  | .bytes directory => resolvePath 1000 [] (Path.names (Path.join directory path))
  | _ => return none

/-- Prints the targets of links, or paths without links. -/
def readlink : Tool := withOptions
    [⟨'f', "canonicalize", false⟩, ⟨'e', "", false⟩, ⟨'m', "", false⟩,
      ⟨'n', "no-newline", false⟩, ⟨'v', "", false⟩, ⟨'q', "", false⟩] true 1
    fun name arguments _ => do
  let whole := arguments.has 'f' || arguments.has 'e' || arguments.has 'm'
  if arguments.operands.isEmpty then misuse name (utf8 "missing operand") 1
  else do
    let codes ← arguments.operands.mapM fun path => do
      let result ←
        if whole then canonical path
        else do
          match ← Task.ask (.readLink path) with
          | .bytes target => pure (some target)
          | _ => pure none
      match result with
      | some text => do
        say name (if arguments.has 'n' then text else ended text)
        return 0
      | none => return 1
    return codes.foldl max 0

/-- Prints paths without links. -/
def realpath : Tool := withOptions [⟨'e', "", false⟩, ⟨'m', "", false⟩] true 1
    fun name arguments _ => do
  let codes ← arguments.operands.mapM fun path => do
    match ← canonical path with
    | some text => do say name (ended text); return 0
    | none => do complainOf name path .noEntry; return 1
  return codes.foldl max 0

/-! ## Making and removing -/

/-- Makes files that are missing. -/
def touch : Tool := withOptions
    [⟨'c', "no-create", false⟩, ⟨'a', "", false⟩, ⟨'m', "", false⟩, ⟨'d', "date", true⟩,
      ⟨'t', "", true⟩, ⟨'r', "reference", true⟩] true 1 fun name arguments _ => do
  if arguments.operands.isEmpty then misuse name (utf8 "missing file operand") 1
  else do
    let codes ← arguments.operands.mapM fun path => do
      match ← Task.ask (.stat path true) with
      | .info _ => return 0
      | _ =>
        if arguments.has 'c' then return 0
        else
          match ← Task.ask (.openFile path { writes := true, creates := true }) with
          | .number descriptor => do
            Task.tell (.close descriptor)
            return 0
          | .failed errno => do
            complain name (utf8 "cannot touch " ++ shown path ++ utf8 ": " ++ errno.message)
            return 1
          | _ => return 1
    return codes.foldl max 0

/-- The directories a path needs, the outermost first. -/
def ancestors (path : Bytes) : List Bytes :=
  let names := Path.names path
  let start := if Path.isAbsolute path then [Byte.slash] else []
  (List.range names.length).map fun n =>
    start ++ Bytes.joinWith [Byte.slash] (names.take (n + 1))

/-- Makes directories. -/
def mkdir : Tool := withOptions
    [⟨'p', "parents", false⟩, ⟨'m', "mode", true⟩, ⟨'v', "verbose", false⟩] true 1
    fun name arguments _ => do
  if arguments.operands.isEmpty then misuse name (utf8 "missing operand") 1
  else do
    let codes ← arguments.operands.mapM fun path => do
      let wanted := if arguments.has 'p' then ancestors path else [path]
      let failures ← wanted.mapM fun path => do
        match ← Task.ask (.makeDirectory path 0o777) with
        | .failed errno =>
          if !arguments.has 'p' then return some errno
          else
            match ← Task.ask (.stat path true) with
            | .info info => return if info.kind == .directory then none else some errno
            | _ => return some errno
        | _ => return none
      match failures.findSome? id with
      | some errno => do
        complain name (utf8 "cannot create directory " ++ quoted path ++ utf8 ": " ++ errno.message)
        return 1
      | none => return 0
    return codes.foldl max 0

/-- Removes empty directories. -/
def rmdir : Tool := withOptions [⟨'p', "parents", false⟩] true 1 fun name arguments _ => do
  let codes ← arguments.operands.mapM fun path => do
    match ← Task.ask (.removeDirectory path) with
    | .failed errno => do
      complain name (utf8 "failed to remove " ++ shown path ++ utf8 ": " ++ errno.message)
      return 1
    | _ => return 0
  return codes.foldl max 0

/-- Removes a file or a directory with everything in it, given enough steps. -/
def removeTree : Nat → Bytes → Task (Option Errno)
  | 0, _ => return some .tooManyLinks
  | fuel + 1, path => do
    match ← Task.ask (.stat path false) with
    | .info info =>
      if info.kind == .directory then do
        match ← Task.ask (.listDirectory path) with
        | .names names => do
          let failures ← names.mapM fun name => removeTree fuel (Path.join path name)
          match failures.findSome? id with
          | some errno => return some errno
          | none =>
            match ← Task.ask (.removeDirectory path) with
            | .failed errno => return some errno
            | _ => return none
        | _ => return some .accessDenied
      else
        match ← Task.ask (.unlink path) with
        | .failed errno => return some errno
        | _ => return none
    | .failed errno => return some errno
    | _ => return none

/-- Removes files. -/
def rm : Tool := withOptions
    [⟨'r', "recursive", false⟩, ⟨'R', "", false⟩, ⟨'f', "force", false⟩, ⟨'v', "", false⟩,
      ⟨'d', "dir", false⟩, ⟨'i', "", false⟩] true 1 fun name arguments _ => do
  let deep := arguments.has 'r' || arguments.has 'R'
  if arguments.operands.isEmpty && !arguments.has 'f' then misuse name (utf8 "missing operand") 1
  else do
    let codes ← arguments.operands.mapM fun path => do
      let failure ←
        if deep then removeTree 1000 path
        else do
          match ← Task.ask (.unlink path) with
          | .failed errno => pure (some errno)
          | _ => pure none
      match failure with
      | none => return 0
      | some errno =>
        if arguments.has 'f' && (errno == .noEntry || errno == .notDirectory) then return 0
        else do
          complain name (utf8 "cannot remove " ++ shown path ++ utf8 ": " ++ errno.message)
          return 1
    return codes.foldl max 0

/-! ## Copying, moving and linking -/

/-- The path of a file of its own name if the target is a directory, or the target itself. -/
def intoDirectory (source target : Bytes) : Task Bytes := do
  match ← Task.ask (.stat target true) with
  | .info info =>
    return if info.kind == .directory then Path.join target (lastName source) else target
  | _ => return target

/-- The sources and the target of a tool; nothing if there are too few arguments. -/
def sourcesAndTarget? (operands : List Bytes) : Option (List Bytes × Bytes) :=
  match operands.reverse with
  | target :: source :: others => some ((source :: others).reverse, target)
  | _ => none

/-- What a tool that needs a source and a target says if it has too few. -/
def fewOperands (name : Bytes) (operands : List Bytes) : Task Nat :=
  match operands with
  | [] => misuse name (utf8 "missing file operand") 1
  | path :: _ => misuse name (utf8 "missing destination file operand after " ++ shown path) 1

/-- Copies a file, or a directory with everything in it, given enough steps. -/
def copyTree (deep : Bool) : Nat → Bytes → Bytes → Task (Option Bytes)
  | 0, _, _ => return some []
  | fuel + 1, source, target => do
    match ← Task.ask (.stat source true) with
    | .failed errno =>
      return some (utf8 "cannot stat " ++ shown source ++ utf8 ": " ++ errno.message)
    | .info info =>
      if info.kind == .directory then
        if !deep then
          return some (utf8 "-r not specified; omitting directory " ++ shown source)
        else do
          Task.tell (.makeDirectory target 0o777)
          match ← Task.ask (.listDirectory source) with
          | .names names => do
            let failures ← names.mapM fun name =>
              copyTree deep fuel (Path.join source name) (Path.join target name)
            return failures.findSome? id
          | _ => return none
      else do
        match ← Task.ask (.openFile source { reads := true }) with
        | .number input => do
          let text ← Task.readAll input
          Task.tell (.close input)
          match text with
          | .error errno =>
            return some (utf8 "error reading " ++ shown source ++ utf8 ": " ++ errno.message)
          | .ok text => do
            let fresh := match ← Task.ask (.stat target true) with
              | .info _ => false
              | _ => true
            match ← Task.ask
                (.openFile target { writes := true, creates := true, truncates := true }) with
            | .number output => do
              Task.tell (.write output text)
              Task.tell (.close output)
              if fresh then Task.tell (.changeMode target info.mode)
              return none
            | .failed errno =>
              return some (utf8 "cannot create regular file " ++ shown target ++ utf8 ": " ++
                errno.message)
            | _ => return none
        | .failed errno =>
          return some (utf8 "cannot open " ++ shown source ++ utf8 " for reading: " ++
            errno.message)
        | _ => return none
    | _ => return none

/-- Copies files. -/
def cp : Tool := withOptions
    [⟨'r', "recursive", false⟩, ⟨'R', "", false⟩, ⟨'a', "archive", false⟩, ⟨'f', "", false⟩,
      ⟨'p', "", false⟩] true 1 fun name arguments _ => do
  match sourcesAndTarget? arguments.operands with
  | none => fewOperands name arguments.operands
  | some (sources, target) => do
    let deep := arguments.has 'r' || arguments.has 'R' || arguments.has 'a'
    let codes ← sources.mapM fun source => do
      match ← copyTree deep 1000 source (← intoDirectory source target) with
      | none => return 0
      | some problem => do complain name problem; return 1
    return codes.foldl max 0

/-- Moves files. -/
def mv : Tool := withOptions [⟨'f', "force", false⟩, ⟨'n', "", false⟩] true 1
    fun name arguments _ => do
  match sourcesAndTarget? arguments.operands with
  | none => fewOperands name arguments.operands
  | some (sources, target) => do
    let codes ← sources.mapM fun source => do
      let place ← intoDirectory source target
      match ← Task.ask (.stat source false) with
      | .info _ =>
        match ← Task.ask (.rename source place) with
        | .failed errno => do
          complain name (utf8 "cannot move " ++ shown source ++ utf8 " to " ++ shown place ++
            utf8 ": " ++ errno.message)
          return 1
        | _ => return 0
      | .failed errno => do
        complain name (utf8 "cannot stat " ++ shown source ++ utf8 ": " ++ errno.message)
        return 1
      | _ => return 1
    return codes.foldl max 0

/-- Makes links. -/
def ln : Tool := withOptions
    [⟨'s', "symbolic", false⟩, ⟨'f', "force", false⟩, ⟨'n', "", false⟩, ⟨'T', "", false⟩] true 1
    fun name arguments _ => do
  let operands := arguments.operands
  let sources := sourcesAndTarget?
    (if operands.length == 1 then operands ++ [utf8 "."] else operands)
  match sources with
  | none => fewOperands name operands
  | some (sources, target) => do
    let codes ← sources.mapM fun source => do
      let place ← if arguments.has 'T' then pure target else intoDirectory source target
      if arguments.has 'f' then Task.tell (.unlink place)
      let call : Syscall :=
        if arguments.has 's' then .makeLink source place else .hardLink source place
      match ← Task.ask call with
      | .failed errno => do
        let kind := if arguments.has 's' then utf8 "symbolic" else utf8 "hard"
        complain name (utf8 "failed to create " ++ kind ++ utf8 " link " ++ shown place ++
          utf8 ": " ++ errno.message)
        return 1
      | _ => return 0
    return codes.foldl max 0

/-! ## Permissions -/

/-- The permissions that a change like `u+x` or `755` makes of permissions. -/
def changedMode (change : Bytes) (mode : Nat) : Option Nat :=
  if change.all (fun b => 48 ≤ b && b ≤ 55) && !change.isEmpty then
    some (change.foldl (fun n b => n * 8 + (b.toNat - 48)) 0)
  else
    (Bytes.splitOn Byte.comma change).foldlM (fun mode clause =>
      let who := clause.takeWhile fun b => "ugoa".any fun c => Byte.of c == b
      match clause.drop who.length with
      | operator :: letters =>
        let everyone := who.isEmpty || who.any (· == Byte.of 'a')
        let shifts := (if everyone || who.any (· == Byte.of 'u') then [64] else []) ++
          (if everyone || who.any (· == Byte.of 'g') then [8] else []) ++
          (if everyone || who.any (· == Byte.of 'o') then [1] else [])
        let value (letter : UInt8) : Nat :=
          if letter == Byte.of 'r' then 4 else if letter == Byte.of 'w' then 2
          else if letter == Byte.of 'x' then 1 else 0
        let bits := letters.foldl (fun n letter => Nat.lor n (value letter)) 0
        let all := shifts.foldl (fun n shift => Nat.lor n (bits * shift)) 0
        let mask := shifts.foldl (fun n shift => Nat.lor n (7 * shift)) 0
        if operator == Byte.plus then some (Nat.lor mode all)
        else if operator == Byte.hyphen then some (mode - Nat.land mode all)
        else if operator == Byte.equals then some (Nat.lor (mode - Nat.land mode mask) all)
        else none
      | [] => none) mode

/-- Changes permissions. -/
def chmod : Tool := fun name arguments _ => do
  let arguments := arguments.filter fun text => text != utf8 "-R" && text != utf8 "-f"
  match arguments with
  | [] => misuse name (utf8 "missing operand") 1
  | [change] => misuse name (utf8 "missing operand after " ++ quoted change) 1
  | change :: paths => do
    let codes ← paths.mapM fun path => do
      match ← Task.ask (.stat path true) with
      | .info info =>
        match changedMode change info.mode with
        | none => do
          let _ ← misuse name (utf8 "invalid mode: " ++ quoted change) 1
          return 1
        | some mode => do
          Task.tell (.changeMode path mode)
          return 0
      | .failed errno => do
        complain name (utf8 "cannot access " ++ shown path ++ utf8 ": " ++ errno.message)
        return 1
      | _ => return 1
    return codes.foldl max 0

/-! ## Listing -/

/-- Prints the names in directories. -/
def ls : Tool := withOptions
    [⟨'a', "all", false⟩, ⟨'A', "almost-all", false⟩, ⟨'1', "", false⟩, ⟨'d', "directory", false⟩,
      ⟨'l', "", false⟩, ⟨'F', "classify", false⟩, ⟨'p', "", false⟩, ⟨'r', "reverse", false⟩,
      ⟨'R', "recursive", false⟩, ⟨'t', "", false⟩, ⟨'C', "", false⟩] true 2
    fun name arguments _ => do
  let operands := if arguments.operands.isEmpty then [[Byte.dot]] else arguments.operands
  let inOrder (names : List Bytes) : List Bytes :=
    let sorted := names.mergeSort Bytes.precedes
    if arguments.has 'r' then sorted.reverse else sorted
  let infos ← (inOrder operands).mapM fun path => do
    match ← Task.ask (.stat path true) with
    | .info info => return (path, some info)
    | .failed errno => do
      complain name (utf8 "cannot access " ++ shown path ++ utf8 ": " ++ errno.message)
      return (path, none)
    | _ => return (path, none)
  let known := infos.filterMap fun (path, info) => info.map fun info => (path, info)
  let (directories, files) := known.partition fun (_, info) =>
    info.kind == .directory && !arguments.has 'd'
  say name (files.map fun (path, _) => ended path).flatten
  let headers := operands.length > 1
  let mut first := files.isEmpty
  for (path, _) in directories do
    match ← Task.ask (.listDirectory path) with
    | .names names => do
      let names := names.filter fun entry =>
        entry.head? != some Byte.dot || arguments.has 'a' || arguments.has 'A'
      let dots := if arguments.has 'a' then [[Byte.dot], utf8 ".."] else []
      let header :=
        if headers then (if first then [] else [Byte.lineFeed]) ++ path ++ utf8 ":\n" else []
      let marked ← (inOrder (dots ++ names)).mapM fun entry => do
        if arguments.has 'F' || arguments.has 'p' then do
          match ← Task.ask (.stat (Path.join path entry) false) with
          | .info info =>
            return entry ++ (if info.kind == .directory then [Byte.slash] else [])
          | _ => return entry
        else return entry
      say name (header ++ (marked.map ended).flatten)
      first := false
    | _ => pure ()
  return if known.length == infos.length then 0 else 2

/-! ## Conditions -/

/-- Asks whether a condition holds. -/
def test : Tool := fun name arguments _ => do
  let bracketed := lastName name == [Byte.openBracket]
  if bracketed && arguments.getLast? != some [Byte.closeBracket] then do
    complain name (utf8 "missing " ++ quoted [Byte.closeBracket])
    return 2
  else
    match ← (Condition.read (if bracketed then arguments.dropLast else arguments)).evaluate with
    | .error problem => do complain name problem; return 2
    | .ok holds => return if holds then 0 else 1

end Tool

end Host

end CueFront
