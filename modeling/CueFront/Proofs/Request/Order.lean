import CueFront.Proofs.Request.Spelling

/-!
# The order of the arguments

Behind the command a command line is made of blocks: a flag with its value, a switch, or a file.
A block changes one part of the options and looks at no other, so what the options are in the end
can be read off the blocks part by part: the last value of each flag (`value?_afterAll`), the
switches that occur (`isOn_afterAll`), and the file.  Two command lines that agree on these parts
mean the same (`Block.SameMeaning`) and are read alike.  Blocks that change places mean the same, if
the values of one flag stay in their order (`Block.Reordered.sameMeaning`).

The checks come after all words are read, in an order of their own.  They look at the options, and
ask the file system one question, whether the file is a regular file (`toRequest_congr`).
-/

namespace CueFront

/-- A part of a command line behind the command. -/
inductive Block where
  /-- A flag and its value, which may look like anything. -/
  | flag (name : ValueFlag) (text : Bytes)
  /-- A switch. -/
  | switch (name : Switch)
  /-- A file, which does not look like an option. -/
  | file (path : Bytes) (plain : ¬ utf8 "--" <+: path)
deriving DecidableEq

namespace Block

/-- The words of a block. -/
def words : Block → List Bytes
  | .flag name text => [name.name, text]
  | .switch name => [name.name]
  | .file path _ => [path]

/-- The words of a command line behind the command. -/
def spell (blocks : List Block) : List Bytes := blocks.flatMap words

/-- The value a block gives a flag. -/
def value? (name : ValueFlag) : Block → Option Bytes
  | .flag other text => if other = name then some text else none
  | _ => none

/-- The file a block names. -/
def file? : Block → Option Bytes
  | .file path _ => some path
  | _ => none

/-- The values of a flag, in order. -/
def values (name : ValueFlag) (blocks : List Block) : List Bytes := blocks.filterMap (value? name)

/-- The files that are named, in order. -/
def paths (blocks : List Block) : List Bytes := blocks.filterMap file?

/-- The blocks change places, and the values of one flag stay in order. -/
structure Reordered (blocks other : List Block) : Prop where
  /-- The blocks are the same. -/
  perm : blocks.Perm other
  /-- The values of one flag keep their order. -/
  inOrder : ∀ flag, values flag blocks = values flag other

/-- The blocks ask for the same. -/
structure SameMeaning (blocks other : List Block) : Prop where
  /-- The last value of each flag is the same. -/
  last : ∀ flag, (values flag blocks).getLast? = (values flag other).getLast?
  /-- The same switches occur. -/
  switches : ∀ switch, .switch switch ∈ blocks ↔ .switch switch ∈ other
  /-- The same files are named. -/
  paths : paths blocks = Block.paths other

variable {blocks other : List Block}

theorem Reordered.sameMeaning (reordered : Reordered blocks other)
    (single : (Block.paths blocks).length ≤ 1) : SameMeaning blocks other where
  last flag := by rw [reordered.inOrder flag]
  switches switch := reordered.perm.mem_iff
  paths := by
    have perm : (Block.paths blocks).Perm (Block.paths other) := reordered.perm.filterMap file?
    cases named : Block.paths blocks with
    | nil => exact (named ▸ perm).nil_eq
    | cons path more =>
      obtain rfl : more = [] := by simpa [named] using single
      exact (named ▸ perm).singleton_eq

end Block

namespace Options

/-! ## The parts of options -/

/-- The value of a flag. -/
def value? (options : Options) : ValueFlag → Option Bytes
  | .config => options.config
  | .cue => options.cue
  | .timeout => options.timeout
  | .exitPolicy => options.exitPolicy

/-- Whether a switch is on. -/
def isOn (options : Options) : Switch → Bool
  | .json => options.json
  | .verbose => options.verbose

theorem ext_parts {options other : Options} (file : options.file = other.file)
    (value? : ∀ flag, options.value? flag = other.value? flag)
    (isOn : ∀ switch, options.isOn switch = other.isOn switch) : options = other := by
  obtain ⟨_, _, _, _, _, _, _⟩ := options
  obtain ⟨_, _, _, _, _, _, _⟩ := other
  obtain rfl := file
  obtain rfl := value? .config
  obtain rfl := value? .cue
  obtain rfl := value? .timeout
  obtain rfl := value? .exitPolicy
  obtain rfl := isOn .json
  obtain rfl := isOn .verbose
  rfl

/-! ## What a block changes -/

/-- The options with what a block says. -/
def after (options : Options) : Block → Options
  | .flag name text => options.set name text
  | .switch name => options.turnOn name
  | .file path _ => { options with file := some path }

variable (options : Options) (block : Block)

theorem file_after : (options.after block).file = block.file?.or options.file := by
  cases block with
  | flag name text => cases name <;> rfl
  | switch name => cases name <;> rfl
  | file path plain => rfl

theorem value?_after (flag : ValueFlag) :
    (options.after block).value? flag = (block.value? flag).or (options.value? flag) := by
  cases block with
  | flag other text => cases other <;> cases flag <;> rfl
  | switch other => cases other <;> cases flag <;> rfl
  | file path plain => cases flag <;> rfl

theorem isOn_after (switch : Switch) :
    (options.after block).isOn switch = true ↔
      .switch switch = block ∨ options.isOn switch = true := by
  cases block with
  | flag name text => cases name <;> cases switch <;> simp [after, set, isOn]
  | switch other => cases other <;> cases switch <;> simp [after, turnOn, isOn]
  | file path plain => cases switch <;> simp [after, isOn]

/-! ## What many blocks change -/

section Fold

variable {α β γ : Type}

/-- If each step may write a part that nothing else changes, the part is what was written last. -/
theorem foldl_last {step : α → β → α} (part : α → Option γ) (write : β → Option γ)
    (writes : ∀ state item, part (step state item) = (write item).or (part state))
    (items : List β) (state : α) :
    part (items.foldl step state) = (items.filterMap write).getLast?.or (part state) := by
  induction items generalizing state with
  | nil => rfl
  | cons item rest ih =>
    rw [List.foldl_cons, ih, writes, List.filterMap_cons]
    cases write item with
    | none => rfl
    | some written =>
      rw [List.getLast?_cons]
      cases (rest.filterMap write).getLast? <;> rfl

end Fold

/-- The options with what many blocks say. -/
def afterAll (options : Options) (blocks : List Block) : Options := blocks.foldl after options

variable (blocks : List Block)

/-- The last path counts. -/
theorem file_afterAll :
    (options.afterAll blocks).file = (Block.paths blocks).getLast?.or options.file :=
  foldl_last Options.file Block.file? file_after blocks options

/-- The last value of a flag counts. -/
theorem value?_afterAll (flag : ValueFlag) : (options.afterAll blocks).value? flag =
    (Block.values flag blocks).getLast?.or (options.value? flag) :=
  foldl_last (·.value? flag) (Block.value? flag)
    (fun options block => options.value?_after block flag) blocks options

/-- A switch is on if it occurs anywhere. -/
theorem isOn_afterAll (switch : Switch) : (options.afterAll blocks).isOn switch = true ↔
    .switch switch ∈ blocks ∨ options.isOn switch = true := by
  induction blocks generalizing options with
  | nil => simp [afterAll]
  | cons block rest ih =>
    have step : options.afterAll (block :: rest) = (options.after block).afterAll rest := rfl
    rw [step, ih, isOn_after, List.mem_cons, ← or_assoc, or_comm (a := .switch switch ∈ rest)]

variable {options blocks} {other : List Block}

/-- Blocks with the same meaning change the options alike. -/
theorem afterAll_congr (same : Block.SameMeaning blocks other) :
    options.afterAll blocks = options.afterAll other := by
  refine ext_parts ?_ (fun flag => ?_) fun switch => ?_
  · rw [file_afterAll, file_afterAll, same.paths]
  · rw [value?_afterAll, value?_afterAll, same.last]
  · rw [Bool.eq_iff_iff, isOn_afterAll, isOn_afterAll, same.switches]

/-- A block is read at one go, unless it names a second file. -/
theorem scan_block (options : Options) (block : Block) (rest : List Bytes) :
    options.scan (block.words ++ rest) =
      if block.file?.isSome ∧ options.file.isSome then .error .secondFile
      else (options.after block).scan rest := by
  cases block with
  | flag name text => exact scan_of_valueFlag (Word.of_valueFlag name)
  | switch name => exact scan_of_switch (Word.of_name name)
  | file path plain =>
    have named : Word.of path = .file := Word.of_eq_file_iff.mpr plain
    have spelled : Block.words (.file path plain) ++ rest = path :: rest := rfl
    rw [spelled]
    by_cases there : options.file.isSome
    · rw [scan_of_second named there, if_pos ⟨rfl, there⟩]
    · rw [scan_of_file named there, if_neg fun both => there both.2]
      rfl

/-- With one file at most, every block is read. -/
theorem scan_blocks (single : (options.file.toList ++ Block.paths blocks).length ≤ 1) :
    options.scan (Block.spell blocks) = .ok (options.afterAll blocks) := by
  induction blocks generalizing options with
  | nil => rfl
  | cons block rest ih =>
    have spelled : Block.spell (block :: rest) = block.words ++ Block.spell rest := rfl
    have step : options.afterAll (block :: rest) = (options.after block).afterAll rest := rfl
    have paths : Block.paths (block :: rest) = block.file?.toList ++ Block.paths rest := by
      rw [Block.paths, List.filterMap_cons]
      cases block.file? <;> rfl
    have notSecond : ¬ (block.file?.isSome ∧ options.file.isSome) := by
      rintro ⟨named, given⟩
      obtain ⟨path, named⟩ := Option.isSome_iff_exists.mp named
      obtain ⟨other, given⟩ := Option.isSome_iff_exists.mp given
      rw [paths, named, given] at single
      simp at single
    rw [spelled, step, scan_block, if_neg notSecond]
    refine ih ?_
    rw [paths] at single
    rw [file_after]
    cases named : block.file? with
    | none => simpa [named] using single
    | some path =>
      have single : (path :: Block.paths rest).length ≤ 1 := by
        refine Nat.le_trans ?_ single
        simp [named]
      exact single

/-- The checks ask the file system whether the file is a regular file, and nothing else. -/
theorem toRequest_congr {files others : Files} {command : Command}
    (agree : ∀ path, options.file = some path → files.isRegular path = others.isRegular path) :
    options.toRequest files command = options.toRequest others command := by
  have same : options.checkFile files = options.checkFile others := by
    rw [checkFile, checkFile]
    cases given : options.file with
    | none => rfl
    | some path => simp only [agree path given]
  simp only [toRequest, same]

end Options

namespace Request

variable {files others : Files} {blocks other : List Block}

/-- A command line of blocks with one path at most is read block by block. -/
theorem read_blocks (files : Files) (word : Bytes) (single : (Block.paths blocks).length ≤ 1) :
    read files (word :: Block.spell blocks) = match Command.ofName? word with
      | none => .error (.unknownCommand word)
      | some command => (({} : Options).afterAll blocks).toRequest files command := by
  have scanned : ({} : Options).scan (Block.spell blocks) = .ok (({} : Options).afterAll blocks) :=
    Options.scan_blocks single
  rw [read, scanned]
  rfl

/-- Command lines with the same meaning are read alike on file systems that agree on the file. -/
theorem read_congr (word : Bytes) (single : (Block.paths blocks).length ≤ 1)
    (same : Block.SameMeaning blocks other)
    (agree : ∀ path ∈ Block.paths blocks, files.isRegular path = others.isRegular path) :
    read files (word :: Block.spell blocks) = read others (word :: Block.spell other) := by
  rw [read_blocks files word single, read_blocks others word (same.paths ▸ single),
    ← Options.afterAll_congr same]
  cases Command.ofName? word with
  | none => rfl
  | some command =>
    refine Options.toRequest_congr fun path given => agree path ?_
    rw [Options.file_afterAll, Option.or_none] at given
    exact List.mem_of_getLast? given

/-- The order of the arguments does not count.

* If the blocks of a command line with one file at most change places, and the blocks of one flag
  stay in their order, the same request is read or the same error is found.
* What is read depends on the last value of each flag, on the switches that occur and on the file,
  and on the file system only through whether that file is a regular file. -/
theorem read_order (word : Bytes) (blocks other : List Block)
    (single : (Block.paths blocks).length ≤ 1) :
    (Block.Reordered blocks other → ∀ files,
      read files (word :: Block.spell blocks) = read files (word :: Block.spell other)) ∧
    (Block.SameMeaning blocks other → ∀ files others : Files,
      (∀ path ∈ Block.paths blocks, files.isRegular path = others.isRegular path) →
      read files (word :: Block.spell blocks) = read others (word :: Block.spell other)) := by
  refine ⟨fun reordered files => ?_, fun same files others agree => ?_⟩
  · exact read_congr word single (reordered.sameMeaning single) fun _ _ => rfl
  · exact read_congr word single same agree

/-- Two timeouts, of which the first could not be used, and a tool that looks like a switch. -/
def spreadBlocks : List Block :=
  [.flag .timeout (utf8 "0"), .file (utf8 "a.cue") (by decide), .flag .cue (utf8 "--json"),
    .switch .verbose, .flag .exitPolicy (utf8 "parse"), .flag .timeout (utf8 "007")]

/-- The same blocks in another order, the timeouts in theirs. -/
def shuffledBlocks : List Block :=
  [.switch .verbose, .flag .timeout (utf8 "0"), .flag .exitPolicy (utf8 "parse"),
    .flag .timeout (utf8 "007"), .flag .cue (utf8 "--json"), .file (utf8 "a.cue") (by decide)]

/-- What they ask for, without the timeout that does not count. -/
def briefBlocks : List Block :=
  [.flag .cue (utf8 "--json"), .flag .timeout (utf8 "007"), .switch .verbose,
    .file (utf8 "a.cue") (by decide), .flag .exitPolicy (utf8 "parse")]

/-- Every path leads to a regular file. -/
def allFiles : Files := { lonelyFile with isRegular := fun _ => true }

theorem shuffledBlocks_read :
    let request : Request := {
      command := .check
      file := some (utf8 "a.cue")
      executablePath := some (utf8 "--json")
      timeout := some 7
      exitPolicy := some (utf8 "parse")
      verbose := true }
    (Block.paths spreadBlocks).length ≤ 1 ∧ Block.Reordered spreadBlocks shuffledBlocks ∧
      Block.SameMeaning spreadBlocks briefBlocks ∧
      read lonelyFile (utf8 "vet" :: Block.spell shuffledBlocks) = .ok request ∧
      read allFiles (utf8 "vet" :: Block.spell briefBlocks) = .ok request := by
  intro request
  have single : (Block.paths spreadBlocks).length ≤ 1 := by decide
  have reordered : Block.Reordered spreadBlocks shuffledBlocks :=
    ⟨by decide, fun flag => by cases flag <;> decide⟩
  have same : Block.SameMeaning spreadBlocks briefBlocks :=
    ⟨fun flag => by cases flag <;> decide, fun switch => by cases switch <;> decide, by decide⟩
  have spread : read lonelyFile (utf8 "vet" :: Block.spell spreadBlocks) = .ok request := rfl
  obtain ⟨shuffled, -⟩ := read_order (utf8 "vet") spreadBlocks shuffledBlocks single
  obtain ⟨-, brief⟩ := read_order (utf8 "vet") spreadBlocks briefBlocks single
  exact ⟨single, reordered, same, (shuffled reordered lonelyFile).symm.trans spread,
    (brief same lonelyFile allFiles (by decide)).symm.trans spread⟩

end Request

end CueFront
