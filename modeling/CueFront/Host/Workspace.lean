import CueFront.Host.Image
import CueFront.Host.Schedule
import CueFront.Service

/-!
# A place to work in

A workspace is a host with an empty directory, and the front end as a process in that
directory.  Files can be put there, and plans of the front end are carried out there.
-/

namespace CueFront

namespace Host

/-- A host with the front end on it. -/
structure Workspace where
  /-- The host. -/
  kernel : Kernel
  /-- The environment of the front end. -/
  environment : List Bytes

namespace Workspace

/-- The process of the front end. -/
def caller : Pid := 1000

/-- The directory of a workspace. -/
def root : Bytes := utf8 "/tmp/workspace"

/-- The search path of the front end. -/
def searchPathEntry : Bytes := utf8 "PATH="

/-- A new workspace. -/
def fresh : Workspace :=
  let store := Image.store.withFile [] root ⟨.directory [], 0o755⟩
  let place := (store.find [] root true).toOption.getD []
  let process : Process :=
    { pid := caller, parent := Kernel.initPid, group := caller, session := caller
      command := utf8 "front", slots := [], directory := place, mask := 0o022
      activity := .serving }
  let kernel : Kernel :=
    { store, processes := [process], nextPid := caller + 1, loader := Image.load }
  let terminal : OpenFile :=
    ⟨.device .null, utf8 "/dev/null", { reads := true, writes := true }, 0, false⟩
  let kernel := (List.range 3).foldl
    (fun kernel _ => (kernel.install caller terminal false).2) kernel
  { kernel, environment := [searchPathEntry ++ utf8 "/usr/bin:/bin"] }

/-! ## Files -/

/-- The place of the front end's directory. -/
def directory (workspace : Workspace) : Place :=
  ((workspace.kernel.process? caller).map (·.directory)).getD []

/-- What is put into a workspace. -/
inductive FileContent where
  /-- A regular file. -/
  | text (bytes : Bytes)
  /-- A directory. -/
  | directory
  /-- A symbolic link. -/
  | link (target : Bytes)
  /-- Nothing: what is there is taken away. -/
  | remove
  /-- What is there already. -/
  | keep
deriving Repr

/-- A change of the files of a workspace. -/
structure FileChange where
  /-- The path. -/
  path : Bytes
  /-- What is put there. -/
  content : FileContent
  /-- The permissions. -/
  mode : Option Nat := none
deriving Repr

/-- The first line of a shell script. -/
def scriptHeader : Bytes := utf8 "#!/bin/sh\n"

/-- A change that puts a shell script somewhere. -/
def FileChange.script (path text : Bytes) (mode : Option Nat) : FileChange :=
  { path, content := .text (scriptHeader ++ text), mode := some (mode.getD 0o755) }

/-- Writes a regular file, new or old. -/
def writeFile (store : Store) (place : Place) (path bytes : Bytes) : Store :=
  match store.walk place path true with
  | .ok (.found found) =>
    let id := Store.idAt found
    match store.node? id with
    | some ⟨.data _, mode⟩ => store.put id ⟨.data bytes, mode⟩
    | _ => store
  | .ok (.missing above name) => (store.create (Store.idAt above) name ⟨.data bytes, 0o644⟩).2
  | .error _ => store

/-- Puts what a change wants at its place. -/
def putContent (store : Store) (place : Place) (change : FileChange) : Store :=
  let path := change.path
  let withParents : Store :=
    match Bytes.splitLast? Byte.slash path with
    | some (parent, _) => store.makeDirectories place parent
    | none => store
  match change.content with
  | .text bytes => writeFile withParents place path bytes
  | .directory => store.makeDirectories place path
  | .link target => withParents.withFile place path ⟨.link target, 0o777⟩
  | .remove => store.removeAll place path
  | .keep => store

/-- Makes a change. -/
def change (workspace : Workspace) (change : FileChange) : Workspace :=
  let place := workspace.directory
  let store := putContent workspace.kernel.store place change
  let mode :=
    match change.content with
    | .text _ => some (change.mode.getD 0o644)
    | _ => change.mode
  let store :=
    match mode with
    | some mode => (store.changeMode place change.path mode).toOption.getD store
    | none => store
  { workspace with kernel := { workspace.kernel with store } }

/-- Makes changes in order. -/
def changeAll (workspace : Workspace) (changes : List FileChange) : Workspace :=
  changes.foldl Workspace.change workspace

/-! ## The environment -/

/-- Sets a variable, or takes it away. -/
def setVariable (workspace : Workspace) (name : Bytes) (value : Option Bytes) : Workspace :=
  let others := Tool.withoutVariable workspace.environment name
  { workspace with
    environment := match value with
      | some value => others ++ [name ++ [Byte.equals] ++ value]
      | none => others }

/-- What the front end finds on this host.  The host has no reader for documents, so a
settings file or a message bundle that can be opened is refused. -/
def files (workspace : Workspace) : Files :=
  let place := workspace.directory
  let store := workspace.kernel.store
  let node? (path : Bytes) : Option FileNode := (store.findNode place path true).toOption
  let refusal : Fault :=
    { category := .input
      message := utf8 "Documents cannot be read here."
      code := utf8 "unreadable_document" }
  { workingDirectory := store.currentPath? (Store.idAt place)
    rooted := store.isAbsolute_currentPath? (Store.idAt place)
    isRegular := fun path => (node? path).any Store.FileNode.isRegular
    isExecutable := fun path => (node? path).any fun node =>
      Store.FileNode.isRegular node && Store.FileNode.mayExecute node
    contents? := fun path => (node? path).map fun node =>
      match node.content with
      | .data bytes => bytes
      | .program _ => Kernel.programBytes
      | _ => []
    settings? := fun path => (node? path).map fun _ => .error refusal
    messages? := fun path => (node? path).map fun _ => .error refusal }

/-- What a service finds around it on this host. -/
def surroundings (workspace : Workspace) : Surroundings where
  files := workspace.files
  searchPath := Locale.valueOf searchPathEntry workspace.environment

/-! ## Runs -/

/-- Runs calls of tools side by side. -/
def runAll (workspace : Workspace) (calls : List (Invocation × TokenRule)) :
    List RunReport × Workspace :=
  let jobs := calls.map fun (call, token) =>
    (({ call, environment := workspace.environment } : Run.Job), token)
  let (kernel, reports) := Machine.runJobs workspace.kernel caller jobs
  (reports, { workspace with kernel })

/-- Runs one call of a tool. -/
def run (workspace : Workspace) (call : Invocation) (token : TokenRule) :
    RunReport × Workspace :=
  let (reports, workspace) := workspace.runAll [(call, token)]
  (reports.headD Machine.unfinished, workspace)

/-- Carries out a plan. -/
def carryOut {α : Type} (workspace : Workspace) (token : TokenRule) (plan : Plan α) :
    α × Workspace :=
  plan.carryOut (m := StateM Workspace) (fun call => fun workspace => workspace.run call token)
    workspace

end Workspace

end Host

end CueFront
