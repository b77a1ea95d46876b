import CueFront.Proofs.Request.Order

/-!
# The timeout is read exactly

The value of the timeout may be any word.  A numeral of a number between one and the longest timeout
is that timeout, however many zeros it starts with.  Any other numeral of a number that fits a word
of 32 bits is out of bounds, and every other value is no number at all, the numerals above that
included: no number wraps into the bounds (`readTimeout_eq_ok_iff`, `readTimeout_eq_outOfBounds`,
`readTimeout_eq_invalid`).

The timeout is checked behind the words, the command's file and format, and the file itself, and
before the exit policy.  So for a command line that gets past the checks in front of it, what is
read follows from the last value of the timeout and from the exit policy (`read_timeout`).  The
words of such a command line are blocks (`Options.exists_blocks`), which say what the last value is.
-/

namespace CueFront

variable {files : Files} {command : Command} {text : Bytes}

/-! ## Words that are read -/

namespace Options

variable {options read : Options} {words : List Bytes} {blocks : List Block}

/-- Words that can be read are the words of blocks. -/
theorem exists_blocks (scanned : options.scan words = .ok read) :
    ∃ blocks, words = Block.spell blocks := by
  have reads := reads_of_scan scanned
  clear scanned
  induction reads with
  | done options => exact ⟨[], rfl⟩
  | @value _ _ _ value _ flag is later ih =>
    obtain ⟨blocks, rfl⟩ := ih
    obtain rfl := Word.name_of_valueFlag is
    exact ⟨.flag flag value :: blocks, rfl⟩
  | @switch _ _ _ _ switch is later ih =>
    obtain ⟨blocks, rfl⟩ := ih
    obtain rfl := Word.name_of_switch is
    exact ⟨.switch switch :: blocks, rfl⟩
  | @file _ _ word _ is missing later ih =>
    obtain ⟨blocks, rfl⟩ := ih
    exact ⟨.file word (Word.of_eq_file_iff.mp is) :: blocks, rfl⟩

/-- Blocks that can be read are read one after the other. -/
theorem eq_afterAll (scanned : options.scan (Block.spell blocks) = .ok read) :
    read = options.afterAll blocks := by
  induction blocks generalizing options with
  | nil => exact (Except.ok.inj scanned).symm
  | cons block rest ih =>
    have spelled : Block.spell (block :: rest) = block.words ++ Block.spell rest := rfl
    rw [spelled, scan_block] at scanned
    split at scanned
    · cases scanned
    · exact ih scanned

/-- The last value of the timeout counts. -/
theorem timeout_of_scan (scanned : ({} : Options).scan (Block.spell blocks) = .ok read)
    (last : (Block.values .timeout blocks).getLast? = some text) : read.timeout = some text := by
  have given := ({} : Options).value?_afterAll blocks .timeout
  rw [← eq_afterAll scanned, last] at given
  exact given

end Options

/-! ## The value of the timeout -/

theorem readTimeout_eq_ok_iff {milliseconds : Nat} :
    readTimeout text = .ok milliseconds ↔ Decimal.Denotes 1 600000 text milliseconds := by
  rw [readTimeout_eq_ok, Decimal.readUpTo?_eq_some, Decimal.denotes_iff, longestTimeout]
  constructor
  · rintro ⟨⟨numeral, same, -⟩, least, most⟩
    exact ⟨numeral, same, least, most⟩
  · rintro ⟨numeral, same, least, most⟩
    exact ⟨⟨numeral, same, Nat.le_trans most (by decide)⟩, least, most⟩

theorem readTimeout_eq_outOfBounds :
    readTimeout text = .error .timeoutOutOfBounds ↔
      ∃ n, Decimal.Denotes 0 0 text n ∨ Decimal.Denotes 600001 4294967295 text n := by
  have read : readTimeout text = .error .timeoutOutOfBounds ↔
      ∃ n, Decimal.readUpTo? largestTimeoutWord text = some n ∧ (n = 0 ∨ longestTimeout < n) := by
    rw [readTimeout]
    cases Decimal.readUpTo? largestTimeoutWord text with
    | none => simp
    | some n => by_cases bad : n = 0 ∨ longestTimeout < n <;> simp [bad]
  rw [read]
  refine exists_congr fun n => ?_
  rw [Decimal.readUpTo?_eq_some, Decimal.denotes_iff, Decimal.denotes_iff, largestTimeoutWord,
    longestTimeout]
  constructor
  · rintro ⟨⟨numeral, same, fits⟩, rfl | large⟩
    · exact .inl ⟨numeral, same, Nat.le_refl 0, Nat.le_refl 0⟩
    · exact .inr ⟨numeral, same, large, fits⟩
  · rintro (⟨numeral, same, -, zero⟩ | ⟨numeral, same, large, fits⟩)
    · exact ⟨⟨numeral, same, Nat.le_trans zero (Nat.zero_le _)⟩, .inl (Nat.le_zero.mp zero)⟩
    · exact ⟨⟨numeral, same, fits⟩, .inr large⟩

theorem readTimeout_eq_invalid :
    readTimeout text = .error .invalidTimeout ↔
      text = [] ∨ (∃ b ∈ text, Byte.isDigit b = false) ∨ 4294967296 ≤ Decimal.value text := by
  have refused : readTimeout text = .error .invalidTimeout ↔
      Decimal.readUpTo? largestTimeoutWord text = none := by
    rw [readTimeout]
    cases Decimal.readUpTo? largestTimeoutWord text with
    | none => simp
    | some n =>
      simp only [reduceCtorEq, iff_false]
      split <;> simp
  exact refused.trans Decimal.readUpTo?_eq_none

theorem readTimeout_ne_settings (text : Bytes) (reason : SettingsError) :
    readTimeout text ≠ .error (.settings reason) := by
  rw [readTimeout]
  split
  · simp
  · split <;> simp

/-! ## The checks around the timeout -/

/-- The exit policy is refused as the settings refuse it. -/
theorem Options.checkPolicy_ne_error {options : Options} {error : UsageError}
    (other : ∀ reason, error ≠ .settings reason) : options.checkPolicy ≠ .error error := by
  intro refused
  rw [checkPolicy] at refused
  cases given : options.exitPolicy with
  | none => simp [given] at refused
  | some name =>
    simp only [given] at refused
    cases known : ExitPolicy.read name with
    | ok policy =>
      rw [known] at refused
      cases refused
    | error reason =>
      rw [known] at refused
      exact other reason (Except.error.inj refused).symm

/-- The words can be read, and the checks in front of the timeout accept them. -/
structure ReachesTimeout (files : Files) (word : Bytes) (words : List Bytes) (command : Command)
    (options : Options) : Prop where
  named : Command.ofName? word = some command
  scanned : ({} : Options).scan words = .ok options
  present : options.checkFilePresent command = .ok ()
  fits : options.checkFormat command = .ok ()
  regular : options.checkFile files = .ok ()

namespace ReachesTimeout

variable {word : Bytes} {words : List Bytes} {options : Options}

/-- What is left to do is to read the timeout and to check the exit policy. -/
theorem read_eq (reaches : ReachesTimeout files word words command options)
    (given : options.timeout = some text) :
    Request.read files (word :: words) = (do
      let milliseconds ← readTimeout text
      options.checkPolicy
      return {
        command
        file := options.file
        configFile := options.config
        executablePath := options.cue
        timeout := some milliseconds
        exitPolicy := options.exitPolicy
        reportFormat := if options.json then .json else .text
        verbose := options.verbose }) := by
  have checked : Request.read files (word :: words) = options.toRequest files command := by
    simp only [Request.read, reaches.named, reaches.scanned]
    rfl
  have timed : options.readTimeout? = (readTimeout text).map some := by
    rw [Options.readTimeout?, given]
  rw [checked, Options.toRequest, reaches.present, reaches.fits, reaches.regular, timed]
  cases readTimeout text with
  | error error => rfl
  | ok milliseconds => rfl

/-- A timeout is accepted if it can be read and the exit policy is known. -/
theorem read_eq_ok_iff (reaches : ReachesTimeout files word words command options)
    (given : options.timeout = some text) {milliseconds : Nat} :
    (∃ request, Request.read files (word :: words) = .ok request ∧
        request.timeout = some milliseconds) ↔
      readTimeout text = .ok milliseconds ∧ options.checkPolicy = .ok () := by
  rw [reaches.read_eq given]
  constructor
  · rintro ⟨request, accepted, timed⟩
    obtain ⟨read, isRead, accepted⟩ := bind_eq_ok.mp accepted
    obtain ⟨_, known, accepted⟩ := bind_eq_ok.mp accepted
    cases accepted
    cases timed
    exact ⟨isRead, known⟩
  · rintro ⟨isRead, known⟩
    rw [isRead, known]
    exact ⟨_, rfl, rfl⟩

/-- The error is the timeout's, or it is the exit policy's and the timeout can be read. -/
theorem read_eq_error_iff (reaches : ReachesTimeout files word words command options)
    (given : options.timeout = some text) {error : UsageError} :
    Request.read files (word :: words) = .error error ↔
      readTimeout text = .error error ∨
        (∃ milliseconds, readTimeout text = .ok milliseconds) ∧
          options.checkPolicy = .error error := by
  rw [reaches.read_eq given, bind_eq_error]
  refine or_congr_right ?_
  constructor
  · rintro ⟨milliseconds, isRead, refused⟩
    rcases bind_eq_error.mp refused with refused | ⟨-, -, impossible⟩
    · exact ⟨⟨milliseconds, isRead⟩, refused⟩
    · cases impossible
  · rintro ⟨⟨milliseconds, isRead⟩, refused⟩
    exact ⟨milliseconds, isRead, bind_eq_error.mpr (.inl refused)⟩

/-- An error that is not the exit policy's is the timeout's. -/
theorem read_eq_timeoutError_iff (reaches : ReachesTimeout files word words command options)
    (given : options.timeout = some text) (error : UsageError)
    (other : ∀ reason, error ≠ .settings reason) :
    Request.read files (word :: words) = .error error ↔ readTimeout text = .error error := by
  rw [reaches.read_eq_error_iff given]
  exact or_iff_left fun later => Options.checkPolicy_ne_error other later.2

end ReachesTimeout

/-! ## The command line -/

namespace Request

/-- A command line that gets to the check of its timeout is made of blocks, and what becomes of it
depends on the last value of the timeout, and then on the exit policy.

* The timeout is accepted exactly if the value is digits only and denotes a number between one and
  ten minutes, which is the timeout.  The exit policy alone can still be refused then.
* The timeout is out of bounds exactly if the value is digits only and denotes zero, or a larger
  number that fits a word of 32 bits.
* It is no integer exactly if the value is blank, holds a byte that is no digit, or is too large for
  a word. -/
theorem read_timeout {word : Bytes} {words : List Bytes} {options : Options}
    (reaches : ReachesTimeout files word words command options) :
    (∃ blocks, words = Block.spell blocks) ∧
    ∀ blocks text, words = Block.spell blocks →
      (Block.values .timeout blocks).getLast? = some text →
      (∀ milliseconds,
        (∃ request, read files (word :: words) = .ok request ∧
            request.timeout = some milliseconds) ↔
          Decimal.Denotes 1 600000 text milliseconds ∧ options.checkPolicy = .ok ()) ∧
      (∀ reason, read files (word :: words) = .error (.settings reason) ↔
        (∃ milliseconds, Decimal.Denotes 1 600000 text milliseconds) ∧
          options.checkPolicy = .error (.settings reason)) ∧
      (read files (word :: words) = .error .timeoutOutOfBounds ↔
        ∃ n, Decimal.Denotes 0 0 text n ∨ Decimal.Denotes 600001 4294967295 text n) ∧
      (read files (word :: words) = .error .invalidTimeout ↔
        text = [] ∨ (∃ b ∈ text, Byte.isDigit b = false) ∨ 4294967296 ≤ Decimal.value text) ∧
      UsageError.timeoutOutOfBounds.toFault.code = utf8 "bounds_error" ∧
      UsageError.invalidTimeout.toFault.code = utf8 "invalid_integer" := by
  refine ⟨Options.exists_blocks reaches.scanned, ?_⟩
  rintro blocks text rfl last
  have given := Options.timeout_of_scan reaches.scanned last
  refine ⟨fun milliseconds => ?_, fun reason => ?_, ?_, ?_, rfl, rfl⟩
  · rw [reaches.read_eq_ok_iff given, readTimeout_eq_ok_iff]
  · rw [reaches.read_eq_error_iff given, or_iff_right (readTimeout_ne_settings text reason)]
    simp only [readTimeout_eq_ok_iff]
  · rw [reaches.read_eq_timeoutError_iff given .timeoutOutOfBounds (by simp),
      readTimeout_eq_outOfBounds]
  · rw [reaches.read_eq_timeoutError_iff given .invalidTimeout (by simp), readTimeout_eq_invalid]

/-- A check with two timeouts in front of the one that counts. -/
def timedBlocks (text : Bytes) : List Block := spreadBlocks ++ [.flag .timeout text]

/-- The options of that check. -/
def timedOptions (text : Bytes) : Options where
  file := some (utf8 "a.cue")
  cue := some (utf8 "--json")
  timeout := some text
  exitPolicy := some (utf8 "parse")
  verbose := true

/-- Leading zeros do not count, and a number is not cut to 32 bits. -/
theorem timedBlocks_read :
    ReachesTimeout lonelyFile (utf8 "vet") (Block.spell (timedBlocks (utf8 "4294967297"))) .check
        (timedOptions (utf8 "4294967297")) ∧
      (∃ request, read lonelyFile (utf8 "vet" :: Block.spell (timedBlocks (utf8 "000000600000"))) =
        .ok request ∧ request.timeout = some 600000) ∧
      read lonelyFile (utf8 "vet" :: Block.spell (timedBlocks (utf8 "4294967295"))) =
        .error .timeoutOutOfBounds ∧
      read lonelyFile (utf8 "vet" :: Block.spell (timedBlocks (utf8 "4294967297"))) =
        .error .invalidTimeout := by
  have reaches : ∀ text, ReachesTimeout lonelyFile (utf8 "vet") (Block.spell (timedBlocks text))
      .check (timedOptions text) := fun text => ⟨rfl, rfl, rfl, rfl, rfl⟩
  have long : Decimal.Denotes 1 600000 (utf8 "000000600000") 600000 :=
    Decimal.denotes_iff.mpr ⟨by decide, by decide, by decide, by decide⟩
  have most : Decimal.Denotes 600001 4294967295 (utf8 "4294967295") 4294967295 :=
    Decimal.denotes_iff.mpr ⟨by decide, by decide, by decide, by decide⟩
  have tooLarge : 4294967296 ≤ Decimal.value (utf8 "4294967297") := by decide
  obtain ⟨-, accepting⟩ := read_timeout (reaches (utf8 "000000600000"))
  obtain ⟨-, bounding⟩ := read_timeout (reaches (utf8 "4294967295"))
  obtain ⟨-, refusing⟩ := read_timeout (reaches (utf8 "4294967297"))
  obtain ⟨accepted, -⟩ := accepting _ _ rfl rfl
  obtain ⟨-, -, outOfBounds, -⟩ := bounding _ _ rfl rfl
  obtain ⟨-, -, -, invalid, -⟩ := refusing _ _ rfl rfl
  exact ⟨reaches _, (accepted 600000).mpr ⟨long, rfl⟩, outOfBounds.mpr ⟨_, .inr most⟩,
    invalid.mpr (.inr (.inr tooLarge))⟩

end Request

end CueFront
