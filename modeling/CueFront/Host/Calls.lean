import CueFront.Host.Kernel

/-!
# The calls of the host

`Kernel.perform` answers a system call of a process, or says that the process has to wait.
A call that waits is tried again until it can be answered or a caught signal interrupts it.
An exec that works has no answer: the process goes on with other code.
-/

namespace CueFront

namespace Host

/-- What comes of a system call. -/
inductive Verdict where
  /-- It is answered. -/
  | answer (reply : Reply)
  /-- It waits. -/
  | wait
  /-- A part of the bytes was written, and the rest is still to be written. -/
  | partly (count : Nat)
  /-- The process goes on with other code. -/
  | become (code : Code)
  /-- The process is gone. -/
  | gone

namespace Kernel

/-! ## What calls cost -/

/-- What writing a number of bytes costs, in nanoseconds.  Who writes without an end is
slower than who reads. -/
def writeCost (count : Nat) : Nat := 1000 + 10 * count

/-- What a call costs, in nanoseconds.  Computing is a call too. -/
def costOf : Syscall → Nat
  | .compute => 6000
  | .write _ bytes => writeCost bytes.length
  | _ => 1000

/-- What a fork costs. -/
def forkCost : Nat := 100000

/-- How long a program takes to start. -/
def startCost : Nat := 1000000

/-! ## Paths of the process table -/

/-- The fields of the status line of a process. -/
def statusLine (process : Process) : Bytes :=
  let state := if process.isEnded then utf8 "Z" else utf8 "R"
  let numbers := [process.parent, process.group, process.session, 0]
  Bytes.joinWith [Byte.space]
    ([Decimal.digits process.pid, utf8 "(" ++ process.command ++ utf8 ")", state] ++
      numbers.map Decimal.digits ++ [utf8 "-1"] ++ List.replicate 44 (utf8 "0")) ++ [Byte.lineFeed]

/-- What a path of the process table leads to.  Listing one's own descriptors takes one more. -/
inductive TableEntry where
  /-- A text. -/
  | text (bytes : Bytes)
  /-- The open file behind a descriptor. -/
  | descriptor (file : OpenFile)
  /-- The program of a process. -/
  | program (name : Bytes)
  /-- A directory of names. -/
  | names (names : List Bytes)
  /-- Nothing. -/
  | missing

/-- The entry of the process table that a path leads to, if it is such a path. -/
def tableEntry? (kernel : Kernel) (process : Process) (path : Bytes) : Option TableEntry :=
  let self := Decimal.digits process.pid
  let ofProcess (who : Bytes) (rest : List Bytes) : TableEntry :=
    let pid := if who == utf8 "self" then self else who
    match kernel.processes.find? fun other => Decimal.digits other.pid == pid with
    | none => .missing
    | some other =>
      match rest with
      | [] => .names [utf8 "comm", utf8 "exe", utf8 "fd", utf8 "stat"]
      | [name] =>
        if name == utf8 "stat" then .text (statusLine other)
        else if name == utf8 "comm" then .text (other.command ++ [Byte.lineFeed])
        else if name == utf8 "exe" then .program (utf8 "/usr/bin/" ++ other.command)
        else if name == utf8 "fd" then
          let own := if other.pid == process.pid then [process.freeFrom 0] else []
          .names ((other.slots.map (·.1) ++ own).map Decimal.digits)
        else .missing
      | [name, number] =>
        if name == utf8 "fd" then
          match Decimal.readUpTo? 1048576 number with
          | none => .missing
          | some descriptor =>
            match kernel.fileOf? other descriptor with
            | some (_, file) => .descriptor file
            | none => .missing
        else .missing
      | _ => .missing
  if !Path.isAbsolute path then none
  else
    match Store.namesOf path with
    | proc :: rest =>
      if proc == utf8 "proc" then
        match rest with
        | [] => some (.names (kernel.processes.map fun other => Decimal.digits other.pid))
        | who :: rest => some (ofProcess who rest)
      else if path == utf8 "/dev/stdin" then some (ofProcess self [utf8 "fd", utf8 "0"])
      else if path == utf8 "/dev/stdout" then some (ofProcess self [utf8 "fd", utf8 "1"])
      else if path == utf8 "/dev/stderr" then some (ofProcess self [utf8 "fd", utf8 "2"])
      else if proc == utf8 "dev" && rest.head? == some (utf8 "fd") then
        some (ofProcess self rest)
      else none
    | [] => none

/-! ## Opening files -/

/-- Opens what a path leads to. -/
def openPath (kernel : Kernel) (process : Process) (path : Bytes) (mode : OpenMode) :
    Except Errno (OpenFile × Kernel) := do
  match kernel.tableEntry? process path with
  | some (.text bytes) => return (⟨.text bytes, path, mode, 0, false⟩, kernel)
  | some (.descriptor file) =>
    return ({ file with mode, offset := 0, nonblocking := false }, kernel)
  | some (.program _) => return (⟨.text programBytes, path, mode, 0, false⟩, kernel)
  | some (.names _) => .error .isDirectory
  | some .missing => .error .noEntry
  | none =>
    match ← kernel.store.walk process.directory path true with
    | .missing directory name =>
      if !mode.creates then .error .noEntry
      else
        let bits := Nat.land 0o666 (0o777 - Nat.land process.mask 0o777)
        let (id, store) := kernel.store.create (Store.idAt directory) name ⟨.data [], bits⟩
        return (⟨.file id, Store.pathOf ((name, id) :: directory), mode, 0, false⟩,
          { kernel with store })
    | .found place =>
      let id := Store.idAt place
      match kernel.store.node? id with
      | none => .error .noEntry
      | some node =>
        let name := Store.pathOf place
        match node.content with
        | .directory _ =>
          if mode.writes || mode.creates then .error .isDirectory
          else return (⟨.directory id, name, mode, 0, false⟩, kernel)
        | .device kind => return (⟨.device kind, name, mode, 0, false⟩, kernel)
        | .link _ => .error .tooManyLinks
        | .program _ =>
          if mode.writes then .error ⟨26⟩ else return (⟨.file id, name, mode, 0, false⟩, kernel)
        | .data _ =>
          let store :=
            if mode.truncates then kernel.store.put id { node with content := .data [] }
            else kernel.store
          return (⟨.file id, name, mode, 0, false⟩, { kernel with store })

/-- What is known about a file of the store. -/
def infoOf (node : FileNode) (id : FileId) : FileInfo :=
  match node.content with
  | .data bytes => ⟨.regular, node.mode, bytes.length, id⟩
  | .program _ => ⟨.regular, node.mode, programBytes.length, id⟩
  | .directory _ => ⟨.directory, node.mode, 4096, id⟩
  | .link target => ⟨.link, node.mode, target.length, id⟩
  | .device _ => ⟨.device, node.mode, 0, id⟩

/-- What is known about an open file. -/
def infoOfFile (kernel : Kernel) (file : OpenFile) : FileInfo :=
  match file.source with
  | .file id | .directory id =>
    match kernel.store.node? id with
    | some node => infoOf node id
    | none => ⟨.regular, 0o644, 0, id⟩
  | .device _ => ⟨.device, 0o666, 0, 0⟩
  | .pipeReader pipe | .pipeWriter pipe => ⟨.pipe, 0o600, 0, pipe⟩
  | .text _ => ⟨.regular, 0o444, 0, 0⟩

/-- What is known about the file a path leads to. -/
def statPath (kernel : Kernel) (process : Process) (path : Bytes) (follow : Bool) :
    Except Errno FileInfo := do
  match kernel.tableEntry? process path with
  | some (.text _) => return ⟨.regular, 0o444, 0, 0⟩
  | some (.descriptor file) =>
    return if follow then kernel.infoOfFile file else ⟨.link, 0o700, 64, 0⟩
  | some (.program _) => return ⟨if follow then .regular else .link, 0o755, 0, 0⟩
  | some (.names _) => return ⟨.directory, 0o555, 0, 0⟩
  | some .missing => .error .noEntry
  | none =>
    let place ← kernel.store.find process.directory path follow
    match kernel.store.node? (Store.idAt place) with
    | some node => return infoOf node (Store.idAt place)
    | none => .error .noEntry

/-! ## Executing programs -/

/-- The longest argument, with the NUL behind it. -/
def longestArgument : Nat := 131072

/-- The most bytes that arguments and environment take together. -/
def mostArguments : Nat := 2097152

/-- How much of a script is looked at for its interpreter. -/
def interpreterLine : Nat := 255

/-- How many scripts can be the interpreters of one another. -/
def mostInterpreters : Nat := 5

/-- The interpreter that a script names, and the one argument it gives to it. -/
def interpreter? (script : Bytes) : Option (Bytes × Option Bytes) :=
  let isBlank (b : UInt8) := b == Byte.space || b == Byte.tab
  match script with
  | Byte.hash :: Byte.bang :: rest =>
    let line := (rest.take interpreterLine).takeWhile fun b => b != Byte.lineFeed && b != 0
    let line := ((line.dropWhile isBlank).reverse.dropWhile isBlank).reverse
    let name := line.takeWhile (!isBlank ·)
    let argument := (line.drop name.length).dropWhile isBlank
    if name.isEmpty then none else some (name, if argument.isEmpty then none else some argument)
  | _ => none

/-- Whether arguments and environment are too long. -/
def tooLong (arguments environment : List Bytes) : Bool :=
  let texts := arguments ++ environment
  texts.any (fun text => longestArgument ≤ text.length) ||
    mostArguments < texts.foldl (fun sum text => sum + text.length + 9) 0

/-- The file a path leads to, if it may be executed. -/
def executable (kernel : Kernel) (directory : Place) (path : Bytes) : Except Errno FileNode := do
  let node ← kernel.store.findNode directory path true
  if Store.FileNode.isRegular node && Store.FileNode.mayExecute node then return node
  else .error .accessDenied

/-- The code that a path stands for.  A script is code for its interpreter. -/
def loadPath (kernel : Kernel) (directory : Place) (environment : List Bytes) :
    Nat → Bytes → List Bytes → Except Errno Code
  | 0, _, _ => .error .tooManyLinks
  | depth + 1, path, arguments => do
    match (← kernel.executable directory path).content with
    | .program name =>
      match kernel.loader name arguments environment with
      | some code => return code
      | none => .error .noExec
    | .data bytes =>
      match interpreter? bytes with
      | none => .error .noExec
      | some (name, argument) =>
        kernel.loadPath directory environment depth name
          (name :: argument.toList ++ path :: arguments.tail)
    | _ => .error .accessDenied

/-- Lets a process execute what a path leads to. -/
def execute (kernel : Kernel) (process : Process) (path : Bytes)
    (arguments environment : List Bytes) : Except Errno (Code × Kernel) := do
  let _ ← kernel.executable process.directory path
  if tooLong (path :: arguments) environment then .error .argumentsTooLong
  else
    let code ← kernel.loadPath process.directory environment mostInterpreters path arguments
    let closing := process.slots.filter (·.2.closeOnExec)
    let kernel := closing.foldl (fun kernel slot =>
      (kernel.closeDescriptor process.pid slot.1).2) kernel
    let kernel := kernel.modifyProcess process.pid fun process =>
      { process with
        caught := [], arrived := []
        command := ((Path.names path).getLast?.getD []).take 15
        ready := kernel.now + startCost }
    return (code, kernel)

/-! ## Answering calls -/

/-- A verdict from an answer that may have failed. -/
def verdictOf {α : Type} (reply : α → Reply) : Except Errno α → Verdict
  | .ok value => .answer (reply value)
  | .error errno => .answer (.failed errno)

/-- The path of the working directory of a process, if the directory was not removed. -/
def workingDirectory (kernel : Kernel) (process : Process) : Except Errno Bytes :=
  match kernel.store.currentPath? (Store.idAt process.directory) with
  | some path => .ok path
  | none => .error .noEntry

/-- Answers a call that changes the store only. -/
def changingStore (kernel : Kernel) (change : Except Errno Store) : Verdict × Kernel :=
  match change with
  | .ok store => (.answer .done, { kernel with store })
  | .error errno => (.answer (.failed errno), kernel)

/-- Answers a read. -/
def performRead (kernel : Kernel) (process : Process) (descriptor : Descriptor) (count : Nat) :
    Verdict × Kernel :=
  match kernel.fileOf? process descriptor with
  | none => (.answer (.failed .badDescriptor), kernel)
  | some (number, file) =>
    match kernel.readFile number file count with
    | (.answer result, kernel) => (verdictOf .bytes result, kernel)
    | (.wait, kernel) => (.wait, kernel)

/-- Answers a write.  Writing to a pipe that nobody reads raises a signal. -/
def performWrite (kernel : Kernel) (process : Process) (descriptor : Descriptor)
    (bytes : Bytes) : Verdict × Kernel :=
  match kernel.fileOf? process descriptor with
  | none => (.answer (.failed .badDescriptor), kernel)
  | some (number, file) =>
    match kernel.writeFile number file bytes with
    | (.wait, kernel) => (.wait, kernel)
    | (.answer (.ok count), kernel) =>
      if file.nonblocking || (bytes.drop count).isEmpty then (.answer (.number count), kernel)
      else (.partly count, kernel)
    | (.answer (.error errno), kernel) =>
      if errno == .brokenPipe then
        let kernel := kernel.deliver process Signal.pipe
        match kernel.process? process.pid with
        | some after =>
          if after.isEnded then (.gone, kernel) else (.answer (.failed errno), kernel)
        | none => (.gone, kernel)
      else (.answer (.failed errno), kernel)

/-- Puts a copy of a descriptor in place of another. -/
def performDuplicate (kernel : Kernel) (process : Process) (source target : Descriptor)
    (closeOnExec : Bool) : Verdict × Kernel :=
  match process.slot? source with
  | none => (.answer (.failed .badDescriptor), kernel)
  | some slot =>
    let kernel :=
      if source == target then kernel else (kernel.closeDescriptor process.pid target).2
    (.answer (.number target),
      kernel.modifyProcess process.pid fun process =>
        process.withSlot target ⟨slot.file, closeOnExec⟩)

/-- Sends a signal for a process. -/
def performKill (kernel : Kernel) (process : Process) (target : Int) (signal : Signal) :
    Verdict × Kernel :=
  let fits (other : Process) : Bool :=
    if target > 0 then other.pid == target.toNat
    else if target == 0 then other.group == process.group
    else if target == -1 then other.pid != process.pid && other.pid != initPid
    else other.group == (-target).toNat
  if signal > Signal.last then (.answer (.failed .invalid), kernel)
  else
    let (delivered, kernel) := kernel.signalAll fits signal
    match kernel.process? process.pid with
    | none => (.gone, kernel)
    | some after =>
      if after.isEnded then (.gone, kernel)
      else if delivered || target == initPid then (.answer .done, kernel)
      else (.answer (.failed .noProcess), kernel)

/-- Waits for a child of a process. -/
def performWait (kernel : Kernel) (process : Process) (pid : Option Pid) (block : Bool) :
    Verdict × Kernel :=
  match kernel.endedChild process.pid pid with
  | .ok (child, status) => (.answer (.ended child status), kernel.forget child)
  | .error false => (.answer (.failed .noChild), kernel)
  | .error true => if block then (.wait, kernel) else (.answer .done, kernel)

/-- Sleeps until a time that was set when the sleep began. -/
def performSleep (kernel : Kernel) (process : Process) (nanoseconds : Nat) : Verdict × Kernel :=
  match process.sleepEnd with
  | none =>
    let wake := kernel.now + nanoseconds
    (.wait, kernel.putProcess { process with sleepEnd := some wake })
  | some wake =>
    if wake ≤ kernel.now then
      (.answer .done, kernel.putProcess { process with sleepEnd := none })
    else (.wait, kernel)

/-- Sets what a process does about a signal. -/
def withDisposition (process : Process) (signal : Signal) (disposition : Disposition) : Process :=
  let ignored := process.ignored.filter (· != signal)
  let caught := process.caught.filter (· != signal)
  match disposition with
  | .standard => { process with ignored, caught }
  | .ignore => { process with ignored := signal :: ignored, caught }
  | .catch => { process with ignored, caught := signal :: caught }

/-- Answers a system call of a process. -/
def perform (kernel : Kernel) (process : Process) (call : Syscall) : Verdict × Kernel :=
  match call with
  | .read descriptor count => kernel.performRead process descriptor count
  | .write descriptor bytes => kernel.performWrite process descriptor bytes
  | .openFile path mode =>
    match kernel.openPath process path mode with
    | .error errno => (.answer (.failed errno), kernel)
    | .ok (file, kernel) =>
      let (descriptor, kernel) := kernel.install process.pid file false
      (.answer (.number descriptor), kernel)
  | .close descriptor =>
    let (closed, kernel) := kernel.closeDescriptor process.pid descriptor
    (.answer (if closed then .done else .failed .badDescriptor), kernel)
  | .duplicate source target => kernel.performDuplicate process source target false
  | .saveAbove source least =>
    kernel.performDuplicate process source (process.freeFrom least) true
  | .keepOnExec descriptor =>
    match process.slot? descriptor with
    | none => (.answer (.failed .badDescriptor), kernel)
    | some slot => (.answer .done,
      kernel.putProcess (process.withSlot descriptor { slot with closeOnExec := false }))
  | .pipe =>
    let ((reading, writing), kernel) := kernel.makePipe process.pid false
    (.answer (.pair reading writing), kernel)
  | .exec path arguments environment =>
    match kernel.execute process path arguments environment with
    | .ok (code, kernel) => (.become code, kernel)
    | .error errno => (.answer (.failed errno), kernel)
  | .wait pid block => kernel.performWait process pid block
  | .kill target signal => kernel.performKill process target signal
  | .dispose signal disposition =>
    (.answer .done, kernel.putProcess (withDisposition process signal disposition))
  | .takeSignals =>
    (.answer (.signals process.arrived), kernel.putProcess { process with arrived := [] })
  | .pid => (.answer (.number process.pid), kernel)
  | .parentPid => (.answer (.number process.parent), kernel)
  | .setGroup pid group =>
    let pid := if pid == 0 then process.pid else pid
    let group := if group == 0 then pid else group
    (.answer .done, kernel.modifyProcess pid fun process => { process with group })
  | .newSession =>
    if process.group == process.pid then (.answer (.failed .notPermitted), kernel)
    else (.answer (.number process.pid),
      kernel.putProcess { process with group := process.pid, session := process.pid })
  | .sleep nanoseconds => kernel.performSleep process nanoseconds
  | .compute => (.answer .done, kernel)
  | .clock => (.answer (.number kernel.now), kernel)
  | .stat path follow => (verdictOf .info (kernel.statPath process path follow), kernel)
  | .statDescriptor descriptor =>
    match kernel.fileOf? process descriptor with
    | some (_, file) => (.answer (.info (kernel.infoOfFile file)), kernel)
    | none => (.answer (.failed .badDescriptor), kernel)
  | .readLink path =>
    match kernel.tableEntry? process path with
    | some (.descriptor file) => (.answer (.bytes file.name), kernel)
    | some (.program name) => (.answer (.bytes name), kernel)
    | some .missing => (.answer (.failed .noEntry), kernel)
    | some _ => (.answer (.failed .invalid), kernel)
    | none =>
      match kernel.store.findNode process.directory path false with
      | .ok ⟨.link target, _⟩ => (.answer (.bytes target), kernel)
      | .ok _ => (.answer (.failed .invalid), kernel)
      | .error errno => (.answer (.failed errno), kernel)
  | .listDirectory path =>
    match kernel.tableEntry? process path with
    | some (.names names) => (.answer (.names names), kernel)
    | _ =>
      match kernel.store.findNode process.directory path true with
      | .ok ⟨.directory entries, _⟩ => (.answer (.names (entries.map (·.1))), kernel)
      | .ok _ => (.answer (.failed .notDirectory), kernel)
      | .error errno => (.answer (.failed errno), kernel)
  | .makeDirectory path mode =>
    let bits := Nat.land mode (0o777 - Nat.land process.mask 0o777)
    kernel.changingStore (kernel.store.makeDirectory process.directory path bits)
  | .unlink path => kernel.changingStore (kernel.store.unlink process.directory path)
  | .removeDirectory path =>
    kernel.changingStore (kernel.store.removeDirectory process.directory path)
  | .rename source target =>
    kernel.changingStore (kernel.store.rename process.directory source target)
  | .makeLink target path =>
    kernel.changingStore
      ((kernel.store.createAt process.directory path ⟨.link target, 0o777⟩).map (·.2))
  | .hardLink source path =>
    kernel.changingStore do
      let place ← kernel.store.find process.directory source false
      match ← kernel.store.walk process.directory path false with
      | .found _ => .error .fileExists
      | .missing directory name =>
        return kernel.store.enter (Store.idAt directory) name (Store.idAt place)
  | .changeMode path mode =>
    kernel.changingStore (kernel.store.changeMode process.directory path mode)
  | .changeDirectory path =>
    match kernel.store.find process.directory path true with
    | .error errno => (.answer (.failed errno), kernel)
    | .ok place =>
      if (kernel.store.entries? (Store.idAt place)).isNone then
        (.answer (.failed .notDirectory), kernel)
      else (.answer .done, kernel.putProcess { process with directory := place })
  | .workingDirectory => (verdictOf .bytes (kernel.workingDirectory process), kernel)
  | .setMask mask =>
    (.answer (.number process.mask), kernel.putProcess { process with mask })

end Kernel

end Host

end CueFront
