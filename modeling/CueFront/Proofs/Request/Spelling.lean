import CueFront.Proofs.Decimal
import CueFront.Proofs.Request

/-!
# Requests spelled out

A request can be spelled out as a command line: the command, the file, and an option for every
other part that is given.  `Request.Valid` says which requests make sense on a file system,
without a look at how they are read.

Reading accepts exactly the valid requests.  A valid request that is spelled out is read back
(`read_spell`), whatever the values of its options look like: a value stands behind its flag and
is taken as it is.  The file has no flag in front of it, so it must not look like one.  And a
request that was read is valid (`valid_of_read`), because every part of a valid request is what
one of the checks asks for.
-/

namespace CueFront

variable {files : Files} {command : Command} {request : Request}

/-! ## Words that name a file -/

theorem optionMark_isPrefixOf_valueFlag (flag : ValueFlag) :
    optionMark.isPrefixOf flag.name = true := by
  cases flag <;> decide

theorem optionMark_isPrefixOf_switch (switch : Switch) :
    optionMark.isPrefixOf switch.name = true := by
  cases switch <;> decide

theorem Word.of_valueFlag (flag : ValueFlag) : Word.of flag.name = .valueFlag flag := by
  cases flag <;> decide

/-- A word names a file exactly if it does not start as an option does. -/
theorem Word.of_eq_file {word : Bytes} :
    Word.of word = .file ↔ optionMark.isPrefixOf word = false := by
  simp only [Word.of]
  split
  · next flag found =>
    obtain rfl : flag.name = word := by simpa using List.find?_some found
    simp [optionMark_isPrefixOf_valueFlag]
  · split
    · next switch found =>
      obtain rfl : switch.name = word := by simpa using List.find?_some found
      simp [optionMark_isPrefixOf_switch]
    · split
      · next marked => simp [marked]
      · next unmarked => exact ⟨fun _ => Bool.eq_false_iff.mpr unmarked, fun _ => rfl⟩

/-- A word is a path exactly if it does not start like an option. -/
theorem Word.of_eq_file_iff {word : Bytes} : Word.of word = .file ↔ ¬ optionMark <+: word := by
  rw [of_eq_file, Bool.eq_false_iff, ne_eq, List.isPrefixOf_iff_prefix]

/-- The file that is read is a word that names one. -/
theorem Options.file_of_scan {options read : Options} {words : List Bytes}
    (scanned : options.scan words = .ok read) :
    read.file = options.file ∨ ∃ word, read.file = some word ∧ Word.of word = .file := by
  have reads := reads_of_scan scanned
  clear scanned
  induction reads with
  | done options => exact .inl rfl
  | @value options _ _ value _ flag is later ih =>
    have same : (options.set flag value).file = options.file := by cases flag <;> rfl
    exact same ▸ ih
  | @switch options _ _ _ switch is later ih => exact options.turnOn_file switch ▸ ih
  | @file _ _ word _ is missing later ih =>
    rcases ih with here | other
    · exact .inr ⟨word, here, is⟩
    · exact .inr other

/-! ## Spelling -/

/-- The words of an option that takes a value. -/
def ValueFlag.spell (flag : ValueFlag) : Option Bytes → List Bytes
  | some value => [flag.name, value]
  | none => []

/-- The words of a switch. -/
def Switch.spell (switch : Switch) (on : Bool) : List Bytes := if on then [switch.name] else []

namespace Options

/-- The options of a request. -/
def ofRequest (request : Request) : Options where
  file := request.file
  config := request.configFile
  cue := request.executablePath
  timeout := request.timeout.map Decimal.digits
  exitPolicy := request.exitPolicy
  json := request.reportFormat == .json
  verbose := request.verbose

/-- The words for options. -/
def spell (options : Options) : List Bytes :=
  options.file.toList ++
    (ValueFlag.config.spell options.config ++
    (ValueFlag.cue.spell options.cue ++
    (ValueFlag.timeout.spell options.timeout ++
    (ValueFlag.exitPolicy.spell options.exitPolicy ++
    (Switch.json.spell options.json ++ Switch.verbose.spell options.verbose)))))

variable {options : Options}

theorem scan_spell_valueFlag (options : Options) (flag : ValueFlag) (value : Option Bytes)
    (rest : List Bytes) :
    options.scan (flag.spell value ++ rest) =
      (value.elim options (options.set flag)).scan rest := by
  cases value with
  | none => rfl
  | some value => exact scan_of_valueFlag (Word.of_valueFlag flag)

theorem elim_set (options : Options) (flag : ValueFlag) (value : Option Bytes) :
    value.elim options (options.set flag) = match flag with
      | .config => { options with config := value.or options.config }
      | .cue => { options with cue := value.or options.cue }
      | .timeout => { options with timeout := value.or options.timeout }
      | .exitPolicy => { options with exitPolicy := value.or options.exitPolicy } := by
  cases flag <;> cases value <;> rfl

theorem scan_spell_switch (options : Options) (switch : Switch) (on : Bool) (rest : List Bytes) :
    options.scan (switch.spell on ++ rest) =
      (bif on then options.turnOn switch else options).scan rest := by
  cases on with
  | false => rfl
  | true => exact scan_of_switch (Word.of_name switch)

/-- Options that are spelled out are read back, if the file does not look like an option. -/
theorem scan_spell (named : ∀ path, options.file = some path → Word.of path = .file) :
    ({} : Options).scan options.spell = .ok options := by
  have first (rest : List Bytes) : ({} : Options).scan (options.file.toList ++ rest) =
      ({ file := options.file } : Options).scan rest := by
    cases given : options.file with
    | none => rfl
    | some path => exact scan_of_file (named path given) nofun
  rw [spell, first, scan_spell_valueFlag, scan_spell_valueFlag, scan_spell_valueFlag,
    scan_spell_valueFlag, scan_spell_switch, ← List.append_nil (Switch.verbose.spell _),
    scan_spell_switch]
  simp only [elim_set, Option.or_none]
  obtain ⟨file, config, cue, timeout, exitPolicy, json, verbose⟩ := options
  cases json <;> cases verbose <;> rfl

end Options

namespace Request

/-- A request as a command line. -/
def spell (request : Request) : List Bytes :=
  request.command.name :: (Options.ofRequest request).spell

/-! ## Valid requests -/

/-- The request makes sense on a file system. -/
structure Valid (files : Files) (request : Request) : Prop where
  /-- A check has a file. -/
  file_of_check : request.command = .check → request.file.isSome
  /-- The file is a regular file, and its name does not look like an option. -/
  regular : ∀ path, request.file = some path →
    files.isRegular path = true ∧ ¬ utf8 "--" <+: path
  /-- Only a check is reported as a document. -/
  check_of_json : request.reportFormat = .json → request.command = .check
  /-- The timeout is ten minutes at most. -/
  timeout_bounds : ∀ milliseconds, request.timeout = some milliseconds →
    1 ≤ milliseconds ∧ milliseconds ≤ 600000
  /-- The exit policy is one of the two there are. -/
  policy_known : ∀ name, request.exitPolicy = some name →
    name = utf8 "parse" ∨ name = utf8 "discard"

end Request

/-! ## The checks, one by one -/

theorem Command.ofName?_name (command : Command) : Command.ofName? command.name = some command := by
  cases command <;> decide

/-- A timeout is read if it is a number that fits a word and is within the bounds. -/
theorem readTimeout_eq_ok {text : Bytes} {milliseconds : Nat} :
    readTimeout text = .ok milliseconds ↔
      Decimal.readUpTo? largestTimeoutWord text = some milliseconds ∧
        1 ≤ milliseconds ∧ milliseconds ≤ longestTimeout := by
  rw [readTimeout]
  cases Decimal.readUpTo? largestTimeoutWord text with
  | none => simp
  | some n =>
    simp only [Option.some.injEq, Bool.or_eq_true, beq_iff_eq, decide_eq_true_eq]
    split
    · next bad =>
      refine ⟨nofun, ?_⟩
      rintro ⟨rfl, least, most⟩
      omega
    · next good =>
      refine ⟨fun same => ?_, fun same => congrArg _ same.1⟩
      cases same
      exact ⟨rfl, by omega, by omega⟩

theorem ExitPolicy.read_name (policy : ExitPolicy) : ExitPolicy.read policy.name = .ok policy := by
  cases policy <;> rfl

theorem ExitPolicy.name_of_read {name : Bytes} {policy : ExitPolicy}
    (known : ExitPolicy.read name = .ok policy) : policy.name = name := by
  rw [ExitPolicy.read] at known
  split at known
  · next found =>
    cases known
    simpa using List.find?_some found
  · cases known

namespace Options

variable {options : Options}

theorem checkFilePresent_eq_ok : options.checkFilePresent command = .ok () ↔
    (command = .check → options.file.isSome) := by
  rw [checkFilePresent]
  cases command <;> cases options.file <;> simp

theorem checkFormat_eq_ok : options.checkFormat command = .ok () ↔
    (options.json = true → command = .check) := by
  rw [checkFormat]
  cases command <;> cases options.json <;> simp

theorem checkFile_eq_ok : options.checkFile files = .ok () ↔
    ∀ path, options.file = some path → files.isRegular path = true := by
  rw [checkFile]
  cases options.file with
  | none => simp
  | some path => by_cases regular : files.isRegular path = true <;> simp [regular]

theorem checkPolicy_eq_ok : options.checkPolicy = .ok () ↔
    ∀ name, options.exitPolicy = some name → ∃ policy : ExitPolicy, policy.name = name := by
  rw [checkPolicy]
  cases options.exitPolicy with
  | none => simp
  | some name =>
    simp only [Option.some.injEq, forall_eq']
    cases read : ExitPolicy.read name with
    | error error =>
      refine ⟨nofun, fun known => ?_⟩
      obtain ⟨policy, rfl⟩ := known
      cases (ExitPolicy.read_name policy).symm.trans read
    | ok policy => exact ⟨fun _ => ⟨policy, ExitPolicy.name_of_read read⟩, fun _ => rfl⟩

theorem readTimeout?_eq_ok {timeout : Option Nat} : options.readTimeout? = .ok timeout ↔
    match options.timeout with
    | some text => ∃ milliseconds, timeout = some milliseconds ∧
        readTimeout text = .ok milliseconds
    | none => timeout = none := by
  rw [readTimeout?]
  cases options.timeout with
  | none => simp [eq_comm]
  | some text =>
    cases read : readTimeout text with
    | error error => simp [Except.map, read]
    | ok milliseconds => simp [Except.map, read, eq_comm]

end Options

namespace Request

/-! ## Reading accepts exactly the valid requests -/

/-- A valid request is made from its own options. -/
theorem toRequest_ofRequest (valid : request.Valid files) :
    (Options.ofRequest request).toRequest files request.command = .ok request := by
  refine Options.toRequest_eq_ok_iff.mpr ⟨?_, ?_, ?_, ?_, request.timeout, ?_, ?_⟩
  · exact Options.checkFilePresent_eq_ok.mpr valid.file_of_check
  · refine Options.checkFormat_eq_ok.mpr fun json => valid.check_of_json ?_
    simpa [Options.ofRequest] using json
  · exact Options.checkFile_eq_ok.mpr fun path named => (valid.regular path named).1
  · refine Options.checkPolicy_eq_ok.mpr fun name given => ?_
    rcases valid.policy_known name given with rfl | rfl
    · exact ⟨.parse, rfl⟩
    · exact ⟨.discard, rfl⟩
  · rw [Options.readTimeout?_eq_ok]
    cases given : request.timeout with
    | none => simp [Options.ofRequest, given]
    | some milliseconds =>
      obtain ⟨least, most⟩ := valid.timeout_bounds milliseconds given
      have fits : milliseconds ≤ largestTimeoutWord := Nat.le_trans most (by decide)
      simp only [Options.ofRequest, given, Option.map_some]
      exact ⟨milliseconds, rfl, readTimeout_eq_ok.mpr ⟨Decimal.readUpTo?_digits fits, least, most⟩⟩
  · obtain ⟨command, file, config, path, timeout, policy, format, verbose⟩ := request
    cases format <;> rfl

/-- A valid request that is spelled out is read back. -/
theorem read_of_valid (valid : request.Valid files) : read files request.spell = .ok request := by
  have named : ∀ path, (Options.ofRequest request).file = some path → Word.of path = .file :=
    fun path given => Word.of_eq_file_iff.mpr (valid.regular path given).2
  rw [spell, read, Command.ofName?_name]
  simp only [Options.scan_spell named]
  exact toRequest_ofRequest valid

/-- A request that was read is valid. -/
theorem valid_of_read {arguments : List Bytes} (accepted : read files arguments = .ok request) :
    request.Valid files := by
  obtain ⟨word, words, command, options, -, scanned, accepted⟩ := read_eq_ok accepted
  obtain ⟨present, fits, regular, known, timeout, timed, rfl⟩ :=
    Options.toRequest_eq_ok_iff.mp accepted
  refine ⟨Options.checkFilePresent_eq_ok.mp present, fun path given => ⟨?_, ?_⟩, fun json => ?_,
    fun milliseconds given => ?_, fun name given => ?_⟩
  · exact Options.checkFile_eq_ok.mp regular path given
  · rcases Options.file_of_scan scanned with none_ | ⟨word, given', isFile⟩
    · cases given.symm.trans none_
    · cases given.symm.trans given'
      exact Word.of_eq_file_iff.mp isFile
  · refine Options.checkFormat_eq_ok.mp fits ?_
    cases on : options.json with
    | true => rfl
    | false => simp [on] at json
  · cases given
    rw [Options.readTimeout?_eq_ok] at timed
    split at timed
    · obtain ⟨_, same, read⟩ := timed
      cases same
      exact (readTimeout_eq_ok.mp read).2
    · cases timed
  · obtain ⟨policy, rfl⟩ := Options.checkPolicy_eq_ok.mp known name given
    cases policy
    · exact .inl rfl
    · exact .inr rfl

/-- The settings of a valid request can be used, if it names no settings file. -/
theorem settings_of_valid (valid : request.Valid files) (default_ : request.configFile = none) :
    ∃ settings, request.settings files = .ok settings := by
  have base : request.baseSettings files = .ok {} := by rw [baseSettings, default_]
  cases given : request.exitPolicy with
  | none => exact ⟨_, by rw [settings, base, given]; rfl⟩
  | some name =>
    rcases valid.policy_known name given with rfl | rfl
    · exact ⟨_, by rw [settings, base, given]; rfl⟩
    · exact ⟨_, by rw [settings, base, given]; rfl⟩

/-- The command line accepts exactly the valid requests.

* A valid request that is spelled out is read back as it is.
* A request that was read from any command line is valid.  So spelling it out and reading it
  again gives it back, and if it names no settings file its settings can be used. -/
theorem read_spell (files : Files) :
    (∀ request : Request, request.Valid files → read files request.spell = .ok request) ∧
    ∀ arguments request, read files arguments = .ok request →
      request.Valid files ∧ read files request.spell = .ok request ∧
      (request.configFile = none → ∃ settings, request.settings files = .ok settings) := by
  refine ⟨fun request valid => read_of_valid valid, fun arguments request accepted => ?_⟩
  have valid := valid_of_read accepted
  exact ⟨valid, read_of_valid valid, settings_of_valid valid⟩

/-- A directory with one file. -/
def lonelyFile : Files := { Files.bare with isRegular := (· == utf8 "a.cue") }

/-- The values of its options look like flags. -/
def oddRequest : Request where
  command := .check
  file := some (utf8 "a.cue")
  configFile := some (utf8 "--json")
  executablePath := some []
  timeout := some 600000
  exitPolicy := some (utf8 "discard")

/-- The words name the tool twice, first as `--cue`, and write the timeout with zeros. -/
def longWords : List Bytes :=
  [utf8 "fmt", utf8 "--cue", utf8 "--cue", utf8 "--timeout-ms", utf8 "007", utf8 "--cue",
    utf8 "--verbose"]

/-- The request they make: the last tool counts, and it is no switch. -/
def shortRequest : Request where
  command := .format
  executablePath := some (utf8 "--verbose")
  timeout := some 7

theorem odd_requests_are_read_back :
    oddRequest.Valid lonelyFile ∧ read lonelyFile oddRequest.spell = .ok oddRequest ∧
      read lonelyFile longWords = .ok shortRequest ∧
      read lonelyFile shortRequest.spell = .ok shortRequest ∧
      ∃ settings, shortRequest.settings lonelyFile = .ok settings := by
  have valid : oddRequest.Valid lonelyFile := by
    refine ⟨fun _ => rfl, ?_, nofun, ?_, ?_⟩
    · rintro path ⟨⟩
      exact ⟨by decide, by decide⟩
    · rintro milliseconds ⟨⟩
      exact ⟨by decide, by decide⟩
    · rintro name ⟨⟩
      exact .inr rfl
  have accepted : read lonelyFile longWords = .ok shortRequest := by rfl
  obtain ⟨back, readable⟩ := read_spell lonelyFile
  obtain ⟨-, again, usable⟩ := readable longWords shortRequest accepted
  exact ⟨valid, back oddRequest valid, accepted, again, usable rfl⟩

end Request

end CueFront
