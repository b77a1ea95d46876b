import CueFront.Errno
import CueFront.Path

/-!
# The file tree

Files are kept by number; directories map names to numbers.  A `Place` is a way down from
the root, so it knows the directory above, and the name under which everything on the way
was found.  `Store.walk` follows a path from a place: dots, links and all.  The host runs
as the superuser, so permissions are looked at for execution only.
-/

namespace CueFront

namespace Host

/-- The number of a file. -/
abbrev FileId := Nat

/-- A device. -/
inductive Device where
  /-- Reads nothing and takes everything. -/
  | null
  /-- Reads zero bytes without end. -/
  | zero
  /-- Reads zero bytes and takes nothing. -/
  | full
deriving DecidableEq, Repr

/-- What a file is. -/
inductive Content where
  /-- A regular file. -/
  | data (bytes : Bytes)
  /-- A program of the host, by its name. -/
  | program (name : Bytes)
  /-- A directory. -/
  | directory (entries : List (Bytes × FileId))
  /-- A symbolic link. -/
  | link (target : Bytes)
  /-- A device. -/
  | device (kind : Device)
deriving Repr

/-- A file and its permissions. -/
structure FileNode where
  /-- What it is. -/
  content : Content
  /-- Its permission bits. -/
  mode : Nat
deriving Repr

/-- All files. -/
structure Store where
  /-- The files by number. -/
  nodes : List (FileId × FileNode)
  /-- The number of the next file. -/
  next : FileId

/-- A way down from the root: names and files, the last first.  The root is the empty way. -/
abbrev Place := List (Bytes × FileId)

namespace Store

/-- The number of the root directory. -/
def rootId : FileId := 0

/-- A store with an empty root directory. -/
def empty : Store := ⟨[(rootId, ⟨.directory [], 0o755⟩)], 1⟩

/-- The file at a place. -/
def idAt (place : Place) : FileId :=
  match place with
  | [] => rootId
  | (_, id) :: _ => id

/-- The file with a number. -/
def node? (store : Store) (id : FileId) : Option FileNode := store.nodes.lookup id

/-- Puts a file in place of the one with its number. -/
def put (store : Store) (id : FileId) (node : FileNode) : Store :=
  { store with nodes := (id, node) :: store.nodes.filter (·.1 != id) }

/-- The entries of a directory. -/
def entries? (store : Store) (id : FileId) : Option (List (Bytes × FileId)) :=
  match store.node? id with
  | some ⟨.directory entries, _⟩ => some entries
  | _ => none

/-- The absolute path of a place. -/
def pathOf (place : Place) : Bytes :=
  if place.isEmpty then [Byte.slash]
  else (place.reverse.map fun part => Byte.slash :: part.1).flatten

theorem isAbsolute_pathOf (place : Place) : Path.isAbsolute (pathOf place) = true := by
  cases shape : place.reverse with
  | nil =>
    obtain rfl : place = [] := by simpa using shape
    rfl
  | cons part parts =>
    have filled : place.isEmpty = false := by
      cases place with
      | nil => cases shape
      | cons _ _ => rfl
    simp [pathOf, filled, shape, Path.isAbsolute]

/-! ## Where a directory is -/

/-- The directory that has a file, and the name the file has there. -/
def above? (store : Store) (id : FileId) : Option (Bytes × FileId) :=
  store.nodes.findSome? fun (directory, node) =>
    match node.content with
    | .directory entries => (entries.find? (·.2 == id)).map fun entry => (entry.1, directory)
    | _ => none

/-- Whether a directory is in the tree. -/
def isKept (store : Store) (id : FileId) : Bool := id == rootId || (store.above? id).isSome

/-- The place of a directory as the tree is now, given enough steps up. -/
def placeOf? (store : Store) : Nat → FileId → Option Place
  | 0, _ => none
  | steps + 1, id => do
    if id == rootId then return []
    let (name, directory) ← store.above? id
    return (name, id) :: (← store.placeOf? steps directory)

/-- The absolute path of a directory as the tree is now.  One that was removed has none. -/
def currentPath? (store : Store) (id : FileId) : Option Bytes :=
  (store.placeOf? (store.nodes.length + 1) id).map pathOf

theorem isAbsolute_currentPath? (store : Store) (id : FileId) :
    (store.currentPath? id).all Path.isAbsolute = true := by
  rw [currentPath?, Option.all_map]
  cases store.placeOf? (store.nodes.length + 1) id with
  | none => rfl
  | some place => exact isAbsolute_pathOf place

/-! ## Walking a path -/

/-- The longest name. -/
def longestName : Nat := 255

/-- The longest path. -/
def longestPath : Nat := 4095

/-- How many symbolic links a walk follows. -/
def mostLinks : Nat := 40

/-- Where a walk ends. -/
inductive Arrival where
  /-- At a file. -/
  | found (place : Place)
  /-- At a directory that has no such name. -/
  | missing (directory : Place) (name : Bytes)

/-- The names of a path. -/
def namesOf (path : Bytes) : List Bytes := Path.names path

/-- Follows names from a place.  What a link leads to is left to `jump`, which gets its target,
the place of the link and the names behind it.  The last link is followed if `follow` says so.  A
directory that was removed takes no new names. -/
def walkNamesBy (store : Store) (follow : Bool)
    (jump : Bytes → Place → List Bytes → Except Errno Arrival) (place : Place) :
    List Bytes → Except Errno Arrival
  | [] => .ok (.found place)
  | name :: rest =>
    match store.entries? (idAt place) with
    | none => .error .notDirectory
    | some entries =>
      if name.length > longestName then .error .nameTooLong
      else if name == [Byte.dot] then walkNamesBy store follow jump place rest
      else if name == utf8 ".." then walkNamesBy store follow jump place.tail rest
      else
        match entries.lookup name with
        | none =>
          if rest.isEmpty && store.isKept (idAt place) then .ok (.missing place name)
          else .error .noEntry
        | some id =>
          match store.node? id with
          | some ⟨.link target, _⟩ =>
            if rest.isEmpty && !follow then .ok (.found ((name, id) :: place))
            else jump target place rest
          | _ => walkNamesBy store follow jump ((name, id) :: place) rest

/-- Follows names from a place, and so many links at most. -/
def walkNames (store : Store) (follow : Bool) :
    (links : Nat) → Place → List Bytes → Except Errno Arrival
  | 0 => store.walkNamesBy follow fun _ _ _ => .error .tooManyLinks
  | links + 1 => store.walkNamesBy follow fun target place rest =>
    if target.isEmpty then .error .noEntry
    else walkNames store follow links (if Path.isAbsolute target then [] else place)
      (namesOf target ++ rest)

/-- Follows a path from a place.  A slash at the end asks for a directory. -/
def walk (store : Store) (place : Place) (path : Bytes) (follow : Bool) : Except Errno Arrival :=
  let path := path.untilNul
  if path.isEmpty then .error .noEntry
  else if path.length > longestPath then .error .nameTooLong
  else
    let start := if Path.isAbsolute path then [] else place
    let slashed := !Path.endsWithName path
    match walkNames store (follow || slashed) mostLinks start (namesOf path) with
    | .ok (.found found) =>
      if slashed && (store.entries? (idAt found)).isNone then .error .notDirectory
      else .ok (.found found)
    | arrival => arrival

/-- The place a path leads to. -/
def find (store : Store) (place : Place) (path : Bytes) (follow : Bool) : Except Errno Place :=
  match store.walk place path follow with
  | .ok (.found found) => .ok found
  | .ok (.missing _ _) => .error .noEntry
  | .error errno => .error errno

/-- The file a path leads to. -/
def findNode (store : Store) (place : Place) (path : Bytes) (follow : Bool) :
    Except Errno FileNode := do
  let found ← store.find place path follow
  match store.node? (idAt found) with
  | some node => .ok node
  | none => .error .noEntry

/-! ## Changing the tree -/

/-- Changes the entries of a directory. -/
def updateEntries (store : Store) (directory : FileId)
    (change : List (Bytes × FileId) → List (Bytes × FileId)) : Store :=
  match store.node? directory with
  | some ⟨.directory entries, mode⟩ => store.put directory ⟨.directory (change entries), mode⟩
  | _ => store

/-- Enters a file under a name. -/
def enter (store : Store) (directory : FileId) (name : Bytes) (id : FileId) : Store :=
  store.updateEntries directory fun entries => entries.filter (·.1 != name) ++ [(name, id)]

/-- Takes a name out of a directory. -/
def drop (store : Store) (directory : FileId) (name : Bytes) : Store :=
  store.updateEntries directory fun entries => entries.filter (·.1 != name)

/-- Makes a new file under a name. -/
def create (store : Store) (directory : FileId) (name : Bytes) (node : FileNode) :
    FileId × Store :=
  let id := store.next
  let store := { store.put id node with next := id + 1 }
  (id, store.enter directory name id)

/-- Makes a new file where a path leads, if there is none. -/
def createAt (store : Store) (place : Place) (path : Bytes) (node : FileNode) :
    Except Errno (FileId × Store) := do
  match ← store.walk place path false with
  | .found _ => .error .fileExists
  | .missing directory name => .ok (store.create (idAt directory) name node)

/-- The store with a file where a path leads; what is there already stays. -/
def withFile (store : Store) (place : Place) (path : Bytes) (node : FileNode) : Store :=
  match store.createAt place path node with
  | .ok (_, store) => store
  | .error _ => store

/-- Makes a directory. -/
def makeDirectory (store : Store) (place : Place) (path : Bytes) (mode : Nat) :
    Except Errno Store := do
  let trimmed := (path.reverse.dropWhile (· == Byte.slash)).reverse
  if trimmed.isEmpty then .error .fileExists
  else return (← store.createAt place trimmed ⟨.directory [], mode⟩).2

/-- Makes all directories of a path that are missing. -/
def makeDirectories (store : Store) (place : Place) (path : Bytes) : Store :=
  let parts := namesOf path
  let lead := if Path.isAbsolute path then [Byte.slash] else []
  (parts.foldl (fun (state : Bytes × Store) name =>
    let here := Path.join state.1 name
    match state.2.makeDirectory place here 0o755 with
    | .ok store => (here, store)
    | .error _ => (here, state.2)) (lead, store)).2

/-- Removes a name that is no directory. -/
def unlink (store : Store) (place : Place) (path : Bytes) : Except Errno Store := do
  match ← store.find place path false with
  | [] => .error .isDirectory
  | (name, id) :: above =>
    if (store.entries? id).isSome then .error .isDirectory
    else .ok (store.drop (idAt above) name)

/-- Removes an empty directory. -/
def removeDirectory (store : Store) (place : Place) (path : Bytes) : Except Errno Store := do
  match ← store.find place path false with
  | [] => .error .notEmpty
  | (name, id) :: above =>
    match store.entries? id with
    | none => .error .notDirectory
    | some [] => .ok (store.drop (idAt above) name)
    | some _ => .error .notEmpty

/-- Takes away a name with everything below it. -/
def removeAll (store : Store) (place : Place) (path : Bytes) : Store :=
  match store.find place path false with
  | .ok ((name, id) :: above) => (store.drop (idAt above) name).updateEntries id fun _ => []
  | _ => store

/-- Gives a file another name. -/
def rename (store : Store) (place : Place) (source target : Bytes) : Except Errno Store := do
  match ← store.find place source false with
  | [] => .error .notPermitted
  | (name, id) :: above =>
    let move (directory : Place) (newName : Bytes) : Store :=
      (store.drop (idAt above) name).enter (idAt directory) newName id
    match ← store.walk place target false with
    | .missing directory newName => .ok (move directory newName)
    | .found [] => .error .notPermitted
    | .found ((newName, old) :: directory) =>
      if old == id then .ok store
      else
        match store.entries? old, store.entries? id with
        | some _, none => .error .isDirectory
        | none, some _ => .error .notDirectory
        | some (_ :: _), some _ => .error .notEmpty
        | _, _ => .ok (move directory newName)

/-- Changes the permissions of a file. -/
def changeMode (store : Store) (place : Place) (path : Bytes) (mode : Nat) :
    Except Errno Store := do
  let found ← store.find place path true
  let node ← store.findNode place path true
  .ok (store.put (idAt found) { node with mode })

/-! ## Questions about files -/

/-- Whether a file may be executed by someone. -/
def FileNode.mayExecute (node : FileNode) : Bool := Nat.land node.mode 0o111 != 0

/-- Whether a file is regular. -/
def FileNode.isRegular (node : FileNode) : Bool :=
  match node.content with
  | .data _ | .program _ => true
  | _ => false

end Store

end Host

end CueFront
