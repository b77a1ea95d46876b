import CueFront.Search
import Mathlib.Logic.ExistsUnique

/-!
# Where the tool is found

A search path is a list of entries with colons between them.  `IsEntries` says so without a way to
take the path apart, and every search path has its entries in one way (`isEntries_iff`).  An entry
offers the tool if it is not empty and leads to an executable file.  The first entry that does so
decides (`candidate?_eq_some`), and the search looks at nothing else: empty entries may come and go,
and two search paths one behind the other are searched one after the other
(`candidate?_append`).

A configured path is used or refused, and then the search path has no part in it.  What is found is
a path from the root to an executable file, on a file system where relative paths start from the
working directory (`Files.Rooted`).  If the working directory was removed, a relative path has no
form from the root, and it is used as it is.
-/

namespace CueFront

namespace Bytes

variable {sep : UInt8} {text piece : Bytes}

theorem splitOn_eq (sep : UInt8) (text : Bytes) : splitOn sep text = List.splitOn sep text := by
  induction text with
  | nil => rfl
  | cons b rest ih =>
    rw [List.splitOn_cons_eq_if_modifyHead, ← ih, splitOn, List.foldr_cons, ← splitOn]
    cases pieces : splitOn sep rest with
    | nil => exact absurd (ih ▸ pieces) (List.splitOn_ne_nil sep rest)
    | cons piece more => rfl

theorem splitOn_ne_nil (sep : UInt8) (text : Bytes) : splitOn sep text ≠ [] := by
  rw [splitOn_eq]
  exact List.splitOn_ne_nil sep text

theorem splitOn_append (sep : UInt8) (front back : Bytes) :
    splitOn sep (front ++ sep :: back) = splitOn sep front ++ splitOn sep back := by
  simp only [splitOn_eq, List.splitOn_append_cons_self]

/-- The pieces of a text make up the text. -/
theorem joinWith_splitOn (sep : UInt8) (text : Bytes) :
    joinWith [sep] (splitOn sep text) = text := by
  rw [splitOn_eq]
  exact List.intercalate_splitOn sep

/-- A piece holds bytes of the text, and no separator. -/
theorem mem_of_mem_splitOn (here : piece ∈ splitOn sep text) :
    ∀ b ∈ piece, b ∈ text ∧ b ≠ sep := by
  induction text generalizing piece with
  | nil =>
    obtain rfl : piece = [] := by simpa [splitOn] using here
    exact fun b inside => absurd inside List.not_mem_nil
  | cons a rest ih =>
    have later {piece : Bytes} (here : piece ∈ splitOn sep rest) :
        ∀ b ∈ piece, b ∈ a :: rest ∧ b ≠ sep := fun b inside =>
      ⟨List.mem_cons_of_mem _ (ih here b inside).1, (ih here b inside).2⟩
    rw [splitOn_eq, List.splitOn_cons_eq_if_modifyHead, ← splitOn_eq] at here
    split at here
    · rcases List.mem_cons.mp here with rfl | here
      · exact fun b inside => absurd inside List.not_mem_nil
      · exact later here
    · next other =>
      cases pieces : splitOn sep rest with
      | nil => exact absurd pieces (splitOn_ne_nil sep rest)
      | cons first more =>
        rw [pieces] at here
        rcases List.mem_cons.mp here with rfl | here
        · intro b inside
          rcases List.mem_cons.mp inside with rfl | inside
          · exact ⟨List.mem_cons_self, by simpa using other⟩
          · exact later (pieces ▸ List.mem_cons_self) b inside
        · exact later (pieces ▸ List.mem_cons_of_mem _ here)

end Bytes

namespace Path

variable {directory name path : Bytes} {workingDirectory : Option Bytes}

theorem isAbsolute_join (rooted : isAbsolute directory = true) :
    isAbsolute (join directory name) = true := by
  cases directory with
  | nil => cases rooted
  | cons b rest =>
    rw [join]
    split
    · next bare => simpa using bare
    · split <;> exact rooted

theorem join_of_isAbsolute (rooted : isAbsolute name = true) : join directory name = name := by
  rw [join, rooted, Bool.true_or, if_pos rfl]

theorem join_ne_nil (named : directory ≠ []) : join directory name ≠ [] := by
  rw [join]
  split
  · next bare =>
    have rooted : isAbsolute name = true := by simpa [named] using bare
    rintro rfl
    cases rooted
  · split <;> simp [named]

/-- The empty path has no form from the root, and neither has a relative one without a working
directory.  All others have. -/
theorem absolute?_eq_none :
    absolute? workingDirectory path = none ↔
      path = [] ∨ workingDirectory = none ∧ isAbsolute path = false := by
  cases path with
  | nil => simp [absolute?]
  | cons b rest => cases rooted : isAbsolute (b :: rest) <;> simp [absolute?, rooted]

/-- With a working directory, the form from the root is the path as seen from there. -/
theorem join_of_absolute? {seen : Bytes} (told : absolute? (some directory) path = some seen) :
    join directory path = seen := by
  rw [absolute?] at told
  split at told
  · cases told
  · split at told
    · next here =>
      rw [join_of_isAbsolute here]
      exact Option.some.inj told
    · exact Option.some.inj told

/-- The form from the root starts at the root. -/
theorem isAbsolute_of_absolute? {seen : Bytes} (rooted : workingDirectory.all isAbsolute = true)
    (told : absolute? workingDirectory path = some seen) : isAbsolute seen = true := by
  cases workingDirectory with
  | some directory => exact join_of_absolute? told ▸ isAbsolute_join rooted
  | none =>
    by_cases here : isAbsolute path = true
    · simp_all [absolute?]
    · simp [absolute?, here] at told

end Path

/-- Relative paths can be told from the root: there is a working directory, and the form of a path
from the root leads where the path leads. -/
structure Files.Rooted (files : Files) : Prop where
  /-- There is a working directory. -/
  there : files.workingDirectory ≠ none
  /-- The form from the root names the same file. -/
  same : ∀ path seen, Path.absolute? files.workingDirectory path = some seen →
    files.isExecutable seen = files.isExecutable path

namespace Search

/-! ## Absolute paths -/

section Absolute

variable {files : Files} {path : Bytes}

/-- What cannot be told from the root stays as it is. -/
theorem absolute_of_lost
    (lost : path = [] ∨ files.workingDirectory = none ∧ Path.isAbsolute path = false) :
    absolute files path = path := by
  rw [absolute, Path.absolute?_eq_none.mpr lost, Option.getD_none]

/-- A path that is not empty has a form from the root if it is absolute or has a working directory
to start from. -/
theorem absolute?_eq_some (named : path ≠ [])
    (told : files.workingDirectory ≠ none ∨ Path.isAbsolute path = true) :
    Path.absolute? files.workingDirectory path = some (absolute files path) := by
  cases seen : Path.absolute? files.workingDirectory path with
  | some _ => rw [absolute, seen, Option.getD_some]
  | none =>
    obtain ⟨gone, relative⟩ := (Path.absolute?_eq_none.mp seen).resolve_left named
    rcases told with there | rooted
    · exact absurd gone there
    · cases relative.symm.trans rooted

theorem isAbsolute_absolute (named : path ≠ [])
    (told : files.workingDirectory ≠ none ∨ Path.isAbsolute path = true) :
    Path.isAbsolute (absolute files path) = true :=
  Path.isAbsolute_of_absolute? files.rooted (absolute?_eq_some named told)

end Absolute

/-! ## The search path -/

/-- The texts are the entries of a search path: written with a colon between each two they are the
path, and they hold no colon themselves. -/
structure IsEntries (searchPath : Bytes) (entries : List Bytes) : Prop where
  /-- There is one entry at least. -/
  nonempty : entries ≠ []
  /-- No entry holds a colon. -/
  apart : ∀ entry ∈ entries, Byte.colon ∉ entry
  /-- Together they are the search path. -/
  joined : Bytes.joinWith [Byte.colon] entries = searchPath

/-- The entry is not empty, and the tool is an executable file in it. -/
def Offers (files : Files) (tool entry : Bytes) : Prop :=
  entry ≠ [] ∧ files.isExecutable (Path.join entry tool) = true

instance (files : Files) (tool entry : Bytes) : Decidable (Offers files tool entry) :=
  inferInstanceAs (Decidable (_ ∧ _))

variable {files : Files} {tool searchPath path : Bytes} {entries entries' : List Bytes}

/-- The entries of a search path are what it is split into. -/
theorem isEntries_iff :
    IsEntries searchPath entries ↔ entries = Bytes.splitOn Byte.colon searchPath := by
  constructor
  · rintro ⟨nonempty, apart, rfl⟩
    rw [Bytes.splitOn_eq]
    exact (List.splitOn_intercalate Byte.colon apart nonempty).symm
  · rintro rfl
    refine ⟨Bytes.splitOn_ne_nil _ _, fun entry here inside => ?_, Bytes.joinWith_splitOn _ _⟩
    exact (Bytes.mem_of_mem_splitOn here _ inside).2 rfl

/-! ## The first that offers the tool -/

/-- The first place in the entries where the tool is. -/
def candidate? (files : Files) (tool : Bytes) (entries : List Bytes) : Option Bytes :=
  ((entries.filter (· ≠ [])).map (Path.join · tool)).find? files.isExecutable

/-- What is found if this is the first place where the tool is. -/
def found (files : Files) (tool : Bytes) : Option Bytes → Except SearchError Bytes
  | some candidate => .ok (absolute files candidate)
  | none => .error (.notFound tool)

theorem directories_eq (isEntries : IsEntries searchPath entries) :
    directories searchPath = entries.filter (· ≠ []) := by
  rw [directories, ← isEntries_iff.mp isEntries]
  refine List.filter_congr fun entry _ => ?_
  cases entry <;> rfl

/-- The search takes the candidate of the entries. -/
theorem find_eq_found (isEntries : IsEntries searchPath entries) :
    find files searchPath tool = found files tool (candidate? files tool entries) := by
  rw [find, directories_eq isEntries]
  rfl

/-- The candidate is below the first entry that offers the tool. -/
theorem candidate?_eq (files : Files) (tool : Bytes) (entries : List Bytes) :
    candidate? files tool entries =
      (entries.find? fun entry => decide (Offers files tool entry)).map (Path.join · tool) := by
  rw [candidate?, List.find?_map, List.find?_filter]
  congr 2
  funext entry
  exact decide_eq_decide.mpr (by simp [Offers])

/-- A candidate comes from an entry that offers the tool, and no entry before it does. -/
theorem candidate?_eq_some {candidate : Bytes} :
    candidate? files tool entries = some candidate ↔
      ∃ before entry after, entries = before ++ entry :: after ∧ Offers files tool entry ∧
        (∀ earlier ∈ before, ¬ Offers files tool earlier) ∧ Path.join entry tool = candidate := by
  rw [candidate?_eq]
  simp only [Option.map_eq_some_iff, List.find?_eq_some_iff_append, decide_eq_true_eq,
    Bool.not_eq_true', decide_eq_false_iff_not]
  constructor
  · rintro ⟨entry, ⟨offers, before, after, rfl, none_⟩, same⟩
    exact ⟨before, entry, after, rfl, offers, none_, same⟩
  · rintro ⟨before, entry, after, rfl, offers, none_, same⟩
    exact ⟨entry, ⟨offers, before, after, rfl, none_⟩, same⟩

theorem candidate?_eq_none :
    candidate? files tool entries = none ↔ ∀ entry ∈ entries, ¬ Offers files tool entry := by
  rw [candidate?_eq]
  simp

theorem candidate?_append (files : Files) (tool : Bytes) (first second : List Bytes) :
    candidate? files tool (first ++ second) =
      (candidate? files tool first).or (candidate? files tool second) := by
  rw [candidate?, List.filter_append, List.map_append, List.find?_append]
  rfl

/-- The tool is found in the first entry that offers it. -/
theorem found_candidate?_eq_ok :
    found files tool (candidate? files tool entries) = .ok path ↔
      ∃ before entry after, entries = before ++ entry :: after ∧ Offers files tool entry ∧
        (∀ earlier ∈ before, ¬ Offers files tool earlier) ∧
        absolute files (Path.join entry tool) = path := by
  constructor
  · intro success
    cases first : candidate? files tool entries with
    | none =>
      rw [first] at success
      cases success
    | some candidate =>
      obtain ⟨before, entry, after, same, offers, none_, rfl⟩ := candidate?_eq_some.mp first
      rw [first] at success
      cases success
      exact ⟨before, entry, after, same, offers, none_, rfl⟩
  · rintro ⟨before, entry, after, same, offers, none_, rfl⟩
    rw [candidate?_eq_some.mpr ⟨before, entry, after, same, offers, none_, rfl⟩, found]

theorem found_or (first second : Option Bytes) :
    found files tool (first.or second) = (found files tool first <|> found files tool second) := by
  cases first with
  | some candidate => rfl
  | none => cases second <;> rfl

/-- One search path behind another is searched behind it. -/
theorem find_append (files : Files) (first second tool : Bytes) :
    find files (first ++ Byte.colon :: second) tool =
      (find files first tool <|> find files second tool) := by
  have whole := Bytes.splitOn_append Byte.colon first second
  rw [find_eq_found (isEntries_iff.mpr rfl), find_eq_found (isEntries_iff.mpr rfl),
    find_eq_found (isEntries_iff.mpr rfl), whole, candidate?_append, found_or]

/-- Empty entries do not count. -/
theorem find_congr {first second : Bytes} (isEntries : IsEntries first entries)
    (isEntries' : IsEntries second entries')
    (same : entries.filter (· ≠ []) = entries'.filter (· ≠ [])) :
    find files first tool = find files second tool := by
  rw [find_eq_found isEntries, find_eq_found isEntries', candidate?, candidate?, same]

theorem found_iff (isEntries : IsEntries searchPath entries) :
    (∃ path, find files searchPath tool = .ok path) ↔
      ∃ entry ∈ entries, Offers files tool entry := by
  rw [find_eq_found isEntries]
  cases first : candidate? files tool entries with
  | none =>
    refine ⟨nofun, fun ⟨entry, here, offers⟩ => ?_⟩
    exact absurd offers (candidate?_eq_none.mp first entry here)
  | some candidate =>
    obtain ⟨before, entry, after, rfl, offers, -⟩ := candidate?_eq_some.mp first
    exact ⟨fun _ => ⟨entry, by simp, offers⟩, fun _ => ⟨_, rfl⟩⟩

theorem find_of_unoffered (isEntries : IsEntries searchPath entries)
    (unoffered : ∀ entry ∈ entries, ¬ Offers files tool entry) :
    find files searchPath tool = .error (.notFound tool) := by
  rw [find_eq_found isEntries, candidate?_eq_none.mpr unoffered]
  rfl

/-- The search along the search path.

* A search path has its entries in one way.
* The first entry that offers the tool decides, and the tool is found there exactly if there is such
  an entry.  What is found is the path as seen from the root, if there is a working directory.
* Behind another search path, a search path counts only if nothing is found in the first.
* Empty entries do not count, wherever they stand and however many there are.  If there are no
  others nothing is found, whatever the working directory holds. -/
theorem find_takes_first (files : Files) (tool : Bytes) :
    (∀ searchPath, ∃! entries, IsEntries searchPath entries) ∧
    (∀ searchPath entries, IsEntries searchPath entries →
      ((∃ path, find files searchPath tool = .ok path) ↔
        ∃ entry ∈ entries, Offers files tool entry) ∧
      (∀ path, find files searchPath tool = .ok path ↔
        ∃ before entry after, entries = before ++ entry :: after ∧ Offers files tool entry ∧
          (∀ earlier ∈ before, ¬ Offers files tool earlier) ∧
          absolute files (Path.join entry tool) = path) ∧
      (files.workingDirectory ≠ none → ∀ entry ∈ entries, entry ≠ [] →
        Path.absolute? files.workingDirectory (Path.join entry tool) =
          some (absolute files (Path.join entry tool))) ∧
      ((∀ entry ∈ entries, ¬ Offers files tool entry) →
        find files searchPath tool = .error (.notFound tool))) ∧
    (∀ first second, find files (first ++ Byte.colon :: second) tool =
      (find files first tool <|> find files second tool)) ∧
    (∀ first second entries entries', IsEntries first entries → IsEntries second entries' →
      entries.filter (· ≠ []) = entries'.filter (· ≠ []) →
      find files first tool = find files second tool) ∧
    ∀ searchPath, (∀ b ∈ searchPath, b = Byte.colon) →
      find files searchPath tool = .error (.notFound tool) := by
  refine ⟨fun searchPath => ?_,
    fun searchPath entries isEntries => ⟨?_, fun path => ?_, fun there entry _ named => ?_, ?_⟩,
    fun first second => find_append files first second tool,
    fun first second entries entries' => find_congr, fun searchPath empty => ?_⟩
  · exact ⟨_, isEntries_iff.mpr rfl, fun _ => isEntries_iff.mp⟩
  · exact found_iff isEntries
  · rw [find_eq_found isEntries]
    exact found_candidate?_eq_ok
  · exact absolute?_eq_some (Path.join_ne_nil named) (.inl there)
  · exact find_of_unoffered isEntries
  · refine find_of_unoffered (isEntries_iff.mpr rfl) fun entry here offers => offers.1 ?_
    refine List.eq_nil_iff_forall_not_mem.mpr fun b inside => ?_
    obtain ⟨here', other⟩ := Bytes.mem_of_mem_splitOn here b inside
    exact other (empty b here')

/-- The tool is in the working directory, in a directory below it and in one at the root. -/
def crowdedFiles : Files :=
  { Files.bare with
    isExecutable := fun path =>
      [utf8 "/work/cue", utf8 "/work/tools/cue", utf8 "/bin/cue"].contains
        (Path.join (utf8 "/work") path) }

/-- The first entry that has the tool decides, empty entries in front of it do not, and a search
path of empty entries finds nothing. -/
theorem crowdedFiles_searched :
    let searchPath := utf8 ":/usr/bin::tools:/bin"
    let entries := [[], utf8 "/usr/bin", [], utf8 "tools", utf8 "/bin"]
    let tidy := utf8 "/usr/bin:tools:/bin"
    IsEntries searchPath entries ∧
      find crowdedFiles searchPath (utf8 "cue") = .ok (utf8 "/work/tools/cue") ∧
      find crowdedFiles tidy (utf8 "cue") = .ok (utf8 "/work/tools/cue") ∧
      find crowdedFiles (utf8 "/usr/bin") (utf8 "cue") = .error (.notFound (utf8 "cue")) ∧
      find crowdedFiles (utf8 "::") (utf8 "cue") = .error (.notFound (utf8 "cue")) := by
  intro searchPath entries tidy
  obtain ⟨-, searched, -, tidied, nothing⟩ := find_takes_first crowdedFiles (utf8 "cue")
  have isEntries : IsEntries searchPath entries := ⟨by decide, by decide, rfl⟩
  have isTidy : IsEntries tidy [utf8 "/usr/bin", utf8 "tools", utf8 "/bin"] :=
    ⟨by decide, by decide, rfl⟩
  have isOne : IsEntries (utf8 "/usr/bin") [utf8 "/usr/bin"] := ⟨by decide, by decide, rfl⟩
  have found : find crowdedFiles searchPath (utf8 "cue") = .ok (utf8 "/work/tools/cue") :=
    ((searched searchPath entries isEntries).2.1 _).mpr
      ⟨[[], utf8 "/usr/bin", []], utf8 "tools", [utf8 "/bin"], rfl, by decide, by decide, rfl⟩
  have colons : utf8 "::" = List.replicate 2 Byte.colon := rfl
  refine ⟨isEntries, found, ?_, (searched _ _ isOne).2.2.2 (by decide),
    nothing _ fun b inside => List.eq_of_mem_replicate (colons ▸ inside)⟩
  exact (tidied _ _ _ _ isTidy isEntries rfl).trans found

/-! ## The configured path -/

variable {given : Bytes}

/-- What is found is a path from the root that leads to an executable file. -/
theorem absolute_sound (rooted : files.Rooted) (named : path ≠ [])
    (executable : files.isExecutable path = true) :
    Path.isAbsolute (absolute files path) = true ∧
      files.isExecutable (absolute files path) = true := by
  have told := absolute?_eq_some named (.inl rooted.there)
  exact ⟨isAbsolute_absolute named (.inl rooted.there), (rooted.same _ _ told).trans executable⟩

/-- What the search finds is an absolute path to a program, where paths can be told from the
root. -/
theorem find_sound (rooted : files.Rooted) (success : find files searchPath tool = .ok path) :
    Path.isAbsolute path = true ∧ files.isExecutable path = true := by
  rw [find_eq_found (isEntries_iff.mpr rfl)] at success
  cases first : candidate? files tool (Bytes.splitOn Byte.colon searchPath) with
  | none =>
    rw [first] at success
    cases success
  | some candidate =>
    obtain ⟨-, entry, -, -, ⟨named, executable⟩, -, rfl⟩ := candidate?_eq_some.mp first
    rw [first] at success
    cases success
    exact absolute_sound rooted (Path.join_ne_nil named) executable

/-- A tool that is configured is taken or refused, and nothing is searched. -/
theorem locate_given (files : Files) (searchPath tool : Bytes) (named : given ≠ []) :
    locate files searchPath (some given) tool =
      .quiet (if files.isExecutable given then .ok (absolute files given)
        else .error (.notExecutable given)) := by
  have filled : given.isEmpty = false := by simpa using named
  simp only [locate, resolve, Option.getD_some, filled]
  rfl

theorem locate_absent {configured : Option Bytes} (files : Files) (searchPath tool : Bytes)
    (absent : configured = none ∨ configured = some []) :
    (locate files searchPath configured tool).value = find files searchPath tool := by
  rcases absent with rfl | rfl <;> rfl

/-- What is located is an absolute path to a program, where paths can be told from the root. -/
theorem locate_sound {configured : Option Bytes} (rooted : files.Rooted)
    (success : (locate files searchPath configured tool).value = .ok path) :
    Path.isAbsolute path = true ∧ files.isExecutable path = true := by
  by_cases absent : configured = none ∨ configured = some []
  · rw [locate_absent files searchPath tool absent] at success
    exact find_sound rooted success
  · cases configured with
    | none => exact absurd (.inl rfl) absent
    | some given =>
      have named : given ≠ [] := fun empty => absent (.inr (congrArg some empty))
      simp only [locate_given files searchPath tool named, Logged.quiet] at success
      split at success
      · next executable =>
        cases success
        exact absolute_sound rooted named executable
      · cases success

/-- What comes of looking for the tool.

* If it is found, it is found at a path from the root that leads to an executable file.
* A path that is configured decides alone: neither the search path nor the name of the tool has a
  part in the result or in the log.  It is used if it leads to an executable file, as seen from the
  root if there is a working directory.  Otherwise the tool is not found, and the code says that it
  is the configured path.
* Without one, or with an empty one, the search path is searched. -/
theorem located_tool (files : Files) (searchPath tool : Bytes) (configured : Option Bytes) :
    let located := locate files searchPath configured tool
    (files.Rooted → ∀ path, located.value = .ok path →
      Path.isAbsolute path = true ∧ files.isExecutable path = true) ∧
    (∀ given, configured = some given → given ≠ [] →
      (∀ otherPath otherTool, locate files otherPath configured otherTool = located) ∧
      ((∃ path, located.value = .ok path) ↔ files.isExecutable given = true) ∧
      (files.isExecutable given = true →
        located.value = .ok (absolute files given) ∧
          (files.workingDirectory ≠ none →
            Path.absolute? files.workingDirectory given = some (absolute files given))) ∧
      (files.isExecutable given = false →
        ∃ error, located.value = .error error ∧
          error.toFault.code = utf8 "user_path_not_found")) ∧
    (configured = none ∨ configured = some [] → located.value = find files searchPath tool) := by
  intro located
  refine ⟨fun rooted path success => locate_sound rooted success, fun given same named => ?_,
    locate_absent files searchPath tool⟩
  subst same
  have result := locate_given files searchPath tool named
  refine ⟨fun otherPath otherTool => ?_, ?_, fun executable => ?_, fun missing => ?_⟩
  · exact (locate_given files otherPath otherTool named).trans result.symm
  · simp only [located, result, Logged.quiet]
    cases files.isExecutable given <;> simp
  · refine ⟨?_, fun there => absolute?_eq_some named (.inl there)⟩
    simp only [located, result, Logged.quiet, executable, if_true]
  · refine ⟨.notExecutable given, ?_, rfl⟩
    simp only [located, result, Logged.quiet, missing, Bool.false_eq_true, if_false]

theorem crowdedFiles_rooted : crowdedFiles.Rooted where
  there := nofun
  same path seen told := by
    have rooted : Path.isAbsolute seen = true :=
      Path.isAbsolute_of_absolute? crowdedFiles.rooted told
    show List.contains _ (Path.join (utf8 "/work") seen) = List.contains _ _
    rw [Path.join_of_isAbsolute rooted, Path.join_of_absolute? told]

/-- A configured path that leads nowhere is not made up for by the search path, and one that leads
to the tool is used, though the search path leads to another. -/
theorem crowdedFiles_located :
    let located (configured : Option Bytes) :=
      locate crowdedFiles (utf8 "/bin") configured (utf8 "cue")
    crowdedFiles.Rooted ∧
      (located (some (utf8 "tools/cue"))).value = .ok (utf8 "/work/tools/cue") ∧
      Path.isAbsolute (utf8 "/work/tools/cue") = true ∧
      crowdedFiles.isExecutable (utf8 "/work/tools/cue") = true ∧
      (∃ error, (located (some (utf8 "/opt/cue"))).value = .error error ∧
        error.toFault.code = utf8 "user_path_not_found") ∧
      (located (some [])).value = find crowdedFiles (utf8 "/bin") (utf8 "cue") := by
  intro located
  have rooted := crowdedFiles_rooted
  obtain ⟨sound, used, -⟩ :=
    located_tool crowdedFiles (utf8 "/bin") (utf8 "cue") (some (utf8 "tools/cue"))
  obtain ⟨-, refused, -⟩ :=
    located_tool crowdedFiles (utf8 "/bin") (utf8 "cue") (some (utf8 "/opt/cue"))
  obtain ⟨-, -, searched⟩ := located_tool crowdedFiles (utf8 "/bin") (utf8 "cue") (some [])
  obtain ⟨success, -⟩ := (used _ rfl (by decide)).2.2.1 rfl
  obtain ⟨fromRoot, executable⟩ := sound rooted _ success
  exact ⟨rooted, success, fromRoot, executable, (refused _ rfl (by decide)).2.2.2 rfl,
    searched (.inr rfl)⟩

end Search

end CueFront
