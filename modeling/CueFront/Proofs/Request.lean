import CueFront.Request

/-!
# Reading requests

Words are read from left to right, and what is read is added to the options read before.  So a
command line can be cut wherever an option is expected, and the parts are read one after the
other (`scan_append`).  A switch does not look at the options and no option looks at a switch,
so it may be turned on before the others or after them (`scan_turnOn`).  The `scan_of_*` lemmas
say what one word does, by its kind.

The checks read every option but `--verbose`.  A request with it is accepted exactly if the
request without it is, and is the same but for being loud (`read_verbose`); so are its settings
(`settings_loud`).
-/

namespace CueFront

variable {files : Files} {command : Command} {request : Request}

theorem bind_eq_ok {ε α β : Type} {first : Except ε α} {next : α → Except ε β} {b : β} :
    first >>= next = .ok b ↔ ∃ a, first = .ok a ∧ next a = .ok b := by
  cases first with
  | error error => simp [bind, Except.bind]
  | ok a => simp [bind, Except.bind]

theorem bind_eq_error {ε α β : Type} {first : Except ε α} {next : α → Except ε β} {error : ε} :
    first >>= next = .error error ↔
      first = .error error ∨ ∃ a, first = .ok a ∧ next a = .error error := by
  cases first with
  | error error => simp [bind, Except.bind]
  | ok a => simp [bind, Except.bind]

theorem Word.name_of_valueFlag {word : Bytes} {flag : ValueFlag}
    (is : Word.of word = .valueFlag flag) : flag.name = word := by
  simp only [Word.of] at is
  split at is
  · next found =>
    cases is
    simpa using List.find?_some found
  · split at is
    · cases is
    · split at is <;> cases is

theorem Word.name_of_switch {word : Bytes} {switch : Switch} (is : Word.of word = .switch switch) :
    switch.name = word := by
  simp only [Word.of] at is
  split at is
  · cases is
  · split at is
    · next found =>
      cases is
      simpa using List.find?_some found
    · split at is <;> cases is

theorem Word.of_name (switch : Switch) : Word.of switch.name = .switch switch := by
  cases switch <;> decide

/-- Behind these words an option is expected: every flag that takes a value has one. -/
inductive ExpectsOption : List Bytes → Prop where
  | start : ExpectsOption []
  | value {word value : Bytes} {rest : List Bytes} {flag : ValueFlag}
      (takes : Word.of word = .valueFlag flag) (whole : ExpectsOption rest) :
      ExpectsOption (word :: value :: rest)
  | other {word : Bytes} {rest : List Bytes} (alone : ∀ flag, Word.of word ≠ .valueFlag flag)
      (whole : ExpectsOption rest) : ExpectsOption (word :: rest)

namespace Options

variable {options : Options} {word value : Bytes} {rest before after words : List Bytes}
  {flag : ValueFlag} {switch : Switch}

/-! ## One word -/

theorem scan_of_missing (is : Word.of word = .valueFlag flag) :
    options.scan [word] = .error (.missingValue flag) := by
  rw [scan.eq_def]
  simp only [is]

theorem scan_of_valueFlag (is : Word.of word = .valueFlag flag) :
    options.scan (word :: value :: rest) = (options.set flag value).scan rest := by
  rw [scan.eq_def]
  simp only [is]

theorem scan_of_switch (is : Word.of word = .switch switch) :
    options.scan (word :: rest) = (options.turnOn switch).scan rest := by
  rw [scan.eq_def]
  simp only [is]

theorem scan_of_unknown (is : Word.of word = .unknown) :
    options.scan (word :: rest) = .error (.unknownArgument word) := by
  rw [scan.eq_def]
  simp only [is]

theorem scan_of_second (is : Word.of word = .file) (there : options.file.isSome) :
    options.scan (word :: rest) = .error .secondFile := by
  rw [scan.eq_def]
  simp only [is, there, if_true]

theorem scan_of_file (is : Word.of word = .file) (missing : ¬ options.file.isSome) :
    options.scan (word :: rest) = { options with file := some word }.scan rest := by
  rw [scan.eq_def]
  simp only [is, if_neg missing]

/-! ## Many words -/

/-- Words are read in parts, if the first part is whole. -/
theorem scan_append (whole : ExpectsOption before) :
    options.scan (before ++ after) = options.scan before >>= (·.scan after) := by
  induction whole generalizing options with
  | start => rfl
  | value takes whole ih =>
    rw [List.cons_append, List.cons_append, scan_of_valueFlag takes, scan_of_valueFlag takes, ih]
  | @other word rest alone whole ih =>
    rw [List.cons_append]
    cases is : Word.of word with
    | valueFlag flag => exact absurd is (alone flag)
    | switch switch => rw [scan_of_switch is, scan_of_switch is, ih]
    | unknown =>
      rw [scan_of_unknown is, scan_of_unknown is]
      rfl
    | file =>
      by_cases there : options.file.isSome
      · rw [scan_of_second is there, scan_of_second is there]
        rfl
      · rw [scan_of_file is there, scan_of_file is there, ih]

/-- It does not matter whether a switch or a value comes first. -/
theorem turnOn_set (options : Options) (switch : Switch) (flag : ValueFlag) (value : Bytes) :
    (options.turnOn switch).set flag value = (options.set flag value).turnOn switch := by
  cases switch <;> cases flag <;> rfl

theorem turnOn_comm (options : Options) (switch other : Switch) :
    (options.turnOn switch).turnOn other = (options.turnOn other).turnOn switch := by
  cases switch <;> cases other <;> rfl

@[simp] theorem turnOn_file (options : Options) (switch : Switch) :
    (options.turnOn switch).file = options.file := by
  cases switch <;> rfl

/-- It does not matter whether a switch is turned on before the words are read or after that. -/
theorem scan_turnOn (options : Options) (switch : Switch) (words : List Bytes) :
    (options.turnOn switch).scan words = (·.turnOn switch) <$> options.scan words := by
  induction options, words using scan.induct with
  | case1 options => rfl
  | case2 options word flag is =>
    rw [scan_of_missing is, scan_of_missing is]
    rfl
  | case3 options word flag value rest is ih =>
    rw [scan_of_valueFlag is, scan_of_valueFlag is, turnOn_set, ih]
  | case4 options word other rest is ih =>
    rw [scan_of_switch is, scan_of_switch is, turnOn_comm, ih]
  | case5 options word rest is =>
    rw [scan_of_unknown is, scan_of_unknown is]
    rfl
  | case6 options word rest is there =>
    rw [scan_of_second is there, scan_of_second is (by rwa [turnOn_file])]
    rfl
  | case7 options word rest is missing ih =>
    have named : { options.turnOn switch with file := some word } =
        ({ options with file := some word } : Options).turnOn switch := by
      cases switch <;> rfl
    rw [scan_of_file is missing, scan_of_file is (by rwa [turnOn_file]), named, ih]

/-- A switch among the words is turned on once the others are read. -/
theorem scan_switch (whole : ExpectsOption before) (switch : Switch) :
    options.scan (before ++ switch.name :: after) =
      (·.turnOn switch) <$> options.scan (before ++ after) := by
  rw [scan_append whole, scan_append whole, map_bind]
  refine bind_congr fun read => ?_
  rw [scan_of_switch (Word.of_name switch), scan_turnOn]

/-- The words are read to their end, one step for each kind of word, and turn the first options
into the last. -/
inductive Reads : Options → List Bytes → Options → Prop where
  /-- No word is left. -/
  | done (options : Options) : Reads options [] options
  /-- A flag takes the next word as its value. -/
  | value {options read : Options} {word value : Bytes} {rest : List Bytes} {flag : ValueFlag}
      (is : Word.of word = .valueFlag flag) (later : Reads (options.set flag value) rest read) :
      Reads options (word :: value :: rest) read
  /-- A switch is turned on. -/
  | switch {options read : Options} {word : Bytes} {rest : List Bytes} {switch : Switch}
      (is : Word.of word = .switch switch) (later : Reads (options.turnOn switch) rest read) :
      Reads options (word :: rest) read
  /-- The file is named for the first time. -/
  | file {options read : Options} {word : Bytes} {rest : List Bytes} (is : Word.of word = .file)
      (missing : ¬ options.file.isSome)
      (later : Reads { options with file := some word } rest read) :
      Reads options (word :: rest) read

/-- A scan that succeeds reads the words to their end. -/
theorem reads_of_scan {read : Options} (scanned : options.scan words = .ok read) :
    Reads options words read := by
  induction options, words using scan.induct with
  | case1 options =>
    cases scanned
    exact .done _
  | case2 options word flag is =>
    rw [scan_of_missing is] at scanned
    cases scanned
  | case3 options word flag value rest is ih =>
    rw [scan_of_valueFlag is] at scanned
    exact .value is (ih scanned)
  | case4 options word switch rest is ih =>
    rw [scan_of_switch is] at scanned
    exact .switch is (ih scanned)
  | case5 options word rest is =>
    rw [scan_of_unknown is] at scanned
    cases scanned
  | case6 options word rest is there =>
    rw [scan_of_second is there] at scanned
    cases scanned
  | case7 options word rest is missing ih =>
    rw [scan_of_file is missing] at scanned
    exact .file is missing (ih scanned)

/-- A report in JSON is asked for by its switch only. -/
theorem json_of_scan {read : Options} (absent : Switch.json.name ∉ words)
    (scanned : options.scan words = .ok read) : read.json = options.json := by
  have reads := reads_of_scan scanned
  clear scanned
  induction reads with
  | done options => rfl
  | @value _ _ _ _ _ flag is later ih =>
    rw [ih (by simp_all)]
    cases flag <;> rfl
  | @switch _ _ _ _ switch is later ih =>
    rw [ih (by simp_all)]
    cases switch with
    | json => simp [Word.name_of_switch is] at absent
    | verbose => rfl
  | file is missing later ih => exact ih (by simp_all)

/-! ## Options that are accepted -/

/-- Options are accepted if every check passes, and then they are kept as they are. -/
theorem toRequest_eq_ok_iff : options.toRequest files command = .ok request ↔
    options.checkFilePresent command = .ok () ∧ options.checkFormat command = .ok () ∧
      options.checkFile files = .ok () ∧ options.checkPolicy = .ok () ∧
      ∃ timeout, options.readTimeout? = .ok timeout ∧ request = {
        command
        file := options.file
        configFile := options.config
        executablePath := options.cue
        timeout
        exitPolicy := options.exitPolicy
        reportFormat := if options.json then .json else .text
        verbose := options.verbose } := by
  constructor
  · intro accepted
    obtain ⟨_, present, accepted⟩ := bind_eq_ok.mp accepted
    obtain ⟨_, fits, accepted⟩ := bind_eq_ok.mp accepted
    obtain ⟨_, regular, accepted⟩ := bind_eq_ok.mp accepted
    obtain ⟨timeout, timed, accepted⟩ := bind_eq_ok.mp accepted
    obtain ⟨_, known, accepted⟩ := bind_eq_ok.mp accepted
    exact ⟨present, fits, regular, known, timeout, timed, (Except.ok.inj accepted).symm⟩
  · rintro ⟨present, fits, regular, known, timeout, timed, rfl⟩
    simp only [toRequest, present, fits, regular, timed, known]
    rfl

/-- A request that is made has a file if it needs one, and the rest comes from the options. -/
theorem toRequest_eq_ok (accepted : options.toRequest files command = .ok request) :
    options.checkFilePresent command = .ok () ∧ ∃ timeout, request = {
      command
      file := options.file
      configFile := options.config
      executablePath := options.cue
      timeout
      exitPolicy := options.exitPolicy
      reportFormat := if options.json then .json else .text
      verbose := options.verbose } := by
  obtain ⟨present, -, -, -, timeout, -, made⟩ := toRequest_eq_ok_iff.mp accepted
  exact ⟨present, timeout, made⟩

theorem file_of_present (present : options.checkFilePresent .check = .ok ()) :
    ∃ path, options.file = some path := by
  cases named : options.file with
  | none => simp [checkFilePresent, named] at present
  | some path => exact ⟨path, rfl⟩

end Options

namespace Request

variable {arguments : List Bytes}

/-- A command line that is read names a command, and its options make the request. -/
theorem read_eq_ok (accepted : read files arguments = .ok request) :
    ∃ word words command options, arguments = word :: words ∧
      ({} : Options).scan words = .ok options ∧
      options.toRequest files command = .ok request := by
  cases arguments with
  | nil => cases accepted
  | cons word words =>
    rw [read] at accepted
    split at accepted
    · cases accepted
    · next command named =>
      obtain ⟨options, scanned, accepted⟩ := bind_eq_ok.mp accepted
      exact ⟨word, words, command, options, rfl, scanned, accepted⟩

/-- A check has a file. -/
theorem file_of_read (accepted : read files arguments = .ok request)
    (check : request.command = .check) : ∃ path, request.file = some path := by
  obtain ⟨-, -, command, options, -, -, accepted⟩ := read_eq_ok accepted
  obtain ⟨present, timeout, rfl⟩ := Options.toRequest_eq_ok accepted
  cases check
  exact Options.file_of_present present

/-- Without the switch for it there is no report in JSON. -/
theorem reportFormat_of_read (accepted : read files arguments = .ok request)
    (absent : Switch.json.name ∉ arguments) : request.reportFormat = .text := by
  obtain ⟨word, words, command, options, rfl, scanned, accepted⟩ := read_eq_ok accepted
  obtain ⟨-, timeout, rfl⟩ := Options.toRequest_eq_ok accepted
  have off := Options.json_of_scan (List.not_mem_of_not_mem_cons absent) scanned
  simp only [off, Bool.false_eq_true, if_false]

/-! ## Loud requests -/

/-- The request with a log that holds everything. -/
def loud (request : Request) : Request := { request with verbose := true }

end Request

/-- The settings with a log that holds everything. -/
def Settings.loud (settings : Settings) : Settings := { settings with logLevel := .debug }

/-- The switch for verbose output makes the request a loud one and changes nothing else. -/
theorem Options.toRequest_verbose (options : Options) :
    (options.turnOn .verbose).toRequest files command =
      Request.loud <$> options.toRequest files command := by
  simp only [toRequest, map_bind]
  rfl

/-- Being loud is all that `--verbose` asks for, and it may stand wherever an option may. -/
theorem Request.read_verbose {word : Bytes} {before after : List Bytes}
    (whole : ExpectsOption before) :
    read files (word :: (before ++ Switch.verbose.name :: after)) =
      Request.loud <$> read files (word :: (before ++ after)) := by
  rw [read, read]
  cases Command.ofName? word with
  | none => rfl
  | some command =>
    simp only [Options.scan_switch whole, bind_map_left, map_bind, Options.toRequest_verbose]

theorem Request.settings_loud (request : Request) :
    request.loud.settings files = Settings.loud <$> request.settings files := by
  have base : request.loud.baseSettings files = request.baseSettings files := rfl
  rw [settings, settings, base, map_bind]
  refine bind_congr fun settings => ?_
  cases policy : request.exitPolicy with
  | none => simp [loud, policy, Settings.loud]
  | some name => simp [loud, policy, Settings.loud]

end CueFront
