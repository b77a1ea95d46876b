import CueFront.Host.Shell.Arithmetic
import CueFront.Host.Shell.Glob
import CueFront.Host.Shell.State

/-!
# Expanding words

A word is expanded in three steps.  Its pieces become parts: text that stays as it is,
results that are still to be split, and ends of fields.  The parts become fields.  A field
that is a pattern becomes the paths it fits.

Running a command for its output is not done here: expansion is told how (`Capture`).  The
command is given up if one of its words cannot be expanded.
-/

namespace CueFront

namespace Host

namespace Shell

/-- How the output of a command is got. -/
abbrev Capture := Command → ShellM Bytes

/-! ## Parts and fields -/

/-- A part of an expanded word. -/
inductive Part where
  /-- Text that is not split. -/
  | keep (text : List Glyph)
  /-- Text that is split. -/
  | split (text : Bytes)
  /-- The end of a field, which may be empty. -/
  | field
  /-- The end of a field, unless it is empty. -/
  | nonempty

/-- Fields while they are made. -/
structure Fields where
  /-- The fields that are complete, the latest first. -/
  done : List (List Glyph) := []
  /-- The current field in reverse order, if it was started. -/
  current : Option (List Glyph) := none
  /-- Whether blanks have just ended a field. -/
  blank : Bool := false

namespace Fields

/-- Ends the current field. -/
def close (fields : Fields) : Fields :=
  { done := (fields.current.getD []).reverse :: fields.done }

/-- Ends the current field if it was started. -/
def closeStarted (fields : Fields) : Fields :=
  if fields.current.isSome then fields.close else fields

/-- Adds a byte that is to be split. -/
def addSplit (separators : Bytes) (fields : Fields) (b : UInt8) : Fields :=
  if !separators.any (· == b) then
    { fields with current := some ((b, false) :: fields.current.getD []), blank := false }
  else if Byte.isSpace b then
    if fields.current.isSome then { fields.close with blank := true } else fields
  else if fields.current.isNone && fields.blank then { fields with blank := false }
  else fields.close

/-- Adds a part. -/
def add (separators : Bytes) (fields : Fields) : Part → Fields
  | .keep text =>
    { fields with current := some (text.reverse ++ fields.current.getD []), blank := false }
  | .split text => text.foldl (addSplit separators) fields
  | .field => fields.close
  | .nonempty => fields.closeStarted

/-- The fields of parts. -/
def ofParts (separators : Bytes) (parts : List Part) : List (List Glyph) :=
  (parts.foldl (add separators) {}).closeStarted.done.reverse

end Fields

/-- The text of glyphs. -/
def textOf (text : List Glyph) : Bytes := text.map (·.1)

/-- Parts as one text; fields are separated by blanks. -/
def joined (parts : List Part) : List Glyph :=
  (parts.map fun
    | .keep text => text
    | .split text => glyphs false text
    | .field | .nonempty => [(Byte.space, true)]).flatten

/-! ## Parameters -/

/-- The value of a parameter that has one value. -/
def parameter? (state : State) (name : Bytes) : Option Bytes :=
  match name with
  | [Byte.question] => some (Decimal.digits state.status)
  | [Byte.hash] => some (Decimal.digits state.arguments.length)
  | [Byte.dollar] => some (Decimal.digits state.pid)
  | [Byte.bang] => state.background.map Decimal.digits
  | [Byte.hyphen] => some (optionLetters.filter fun letter => state.options.any (· == letter))
  | _ =>
    if Decimal.isNumeral name then
      match Decimal.value name with
      | 0 => some state.name
      | index + 1 => state.arguments[index]?
    else state.value? name

/-- Whether a name stands for all arguments. -/
def isAll (name : Bytes) : Bool := name == [Byte.atSign] || name == [Byte.star]

/-- Texts with an end of field between them. -/
def separated (ending : Part) (part : Bytes → Part) (texts : List Bytes) : List Part :=
  (texts.map fun text => [part text]).intersperse [ending] |>.flatten

/-- The parts of all arguments. -/
def argumentParts (state : State) (name : Bytes) (quoted : Bool) : List Part :=
  if quoted && name == [Byte.star] then
    let separator := state.separators.take 1
    [.keep (glyphs true (Bytes.joinWith separator state.arguments))]
  else if quoted then separated .field (fun text => .keep (glyphs true text)) state.arguments
  else separated .nonempty .split state.arguments

/-- The part of a text that was put in place of something. -/
def resultPart (quoted : Bool) (text : Bytes) : Part :=
  if quoted then .keep (glyphs true text) else .split text

/-- A part of the word of a modifier.  Plain text is split if the modifier has no quotes
around it. -/
def wordPart (quoted : Bool) (part : Part) : Part :=
  match part with
  | .keep text =>
    if !quoted && !text.isEmpty && text.all (!·.2) then .split (textOf text) else part
  | other => other

/-- The parts of a parameter. -/
def parameterParts (name : Bytes) (quoted : Bool) : ShellM (List Part) := do
  let state ← get
  if isAll name then return argumentParts state name quoted
  else
    match parameter? state name with
    | some value => return [resultPart quoted value]
    | none =>
      if state.isOn 'u' then giveUp (name ++ utf8 ": parameter not set")
      else return [resultPart quoted []]

/-- The home directory in place of a tilde at the start of a word. -/
def withHome (state : State) (word : Word) : Word :=
  match word with
  | .text (Byte.tilde :: rest) :: pieces =>
    if rest.isEmpty && !pieces.isEmpty then word
    else if rest.isEmpty || rest.head? == some Byte.slash then
      match state.value? (utf8 "HOME") with
      | some home => .quoted home :: .text rest :: pieces
      | none => word
    else word
  | _ => word

/-! ## Pieces -/

/-- The parts of pieces, given enough steps. -/
def partsOf (capture : Capture) : Nat → List Piece → ShellM (List Part)
  | 0, _ => return []
  | _ + 1, [] => return []
  | fuel + 1, piece :: pieces => do
    let parts ← match piece with
      | .text bytes => pure [Part.keep (glyphs false bytes)]
      | .quoted bytes => pure [Part.keep (glyphs true bytes)]
      | .parameter name quoted => parameterParts name quoted
      | .output body quoted => do
        let text ← capture body
        let text := (text.filter (· != 0)).reverse.dropWhile (· == Byte.lineFeed)
        pure [resultPart quoted text.reverse]
      | .arithmetic expression quoted => do
        let text := textOf (joined (← partsOf capture fuel expression))
        let state ← get
        let outcome := do
          let expression ← Arithmetic.read text
          Arithmetic.eval (parameter? state) [] expression
        match outcome with
        | .error problem =>
          giveUp (utf8 "arithmetic expression: " ++ problem ++ utf8 ": \"" ++ text ++ utf8 "\"")
        | .ok (value, assigned) => do
          modify fun state => assigned.reverse.foldl (fun state (name, value) =>
            state.assign name (Decimal.signed value)) state
          pure [resultPart quoted (Decimal.signed value)]
      | .modified name modifier emptyToo word quoted => do
        let state ← get
        let value := if isAll name then
            if state.arguments.isEmpty then none
            else some (Bytes.joinWith [Byte.space] state.arguments)
          else parameter? state name
        let present :=
          match value with
          | some text => !(emptyToo && text.isEmpty)
          | none => false
        let wordParts := partsOf capture fuel word
        match modifier with
        | .unknown => giveUp (utf8 "Bad substitution")
        | .length => do
          let text ←
            match value with
            | some text => pure (Decimal.digits text.length)
            | none =>
              if state.isOn 'u' && !isAll name then
                giveUp (name ++ utf8 ": parameter not set")
              else pure [Byte.zero]
          pure [resultPart quoted text]
        | .default =>
          if present then parameterParts name quoted
          else do pure ((← wordParts).map (wordPart quoted))
        | .alternative =>
          if present then do pure ((← wordParts).map (wordPart quoted))
          else pure [resultPart quoted []]
        | .assign =>
          if present then parameterParts name quoted
          else do
            let text := textOf (joined (← wordParts))
            modify (·.assign name text)
            pure [resultPart quoted text]
        | .demand =>
          if present then parameterParts name quoted
          else do
            let text := textOf (joined (← wordParts))
            giveUp (name ++ utf8 ": " ++
              if text.isEmpty then
                if emptyToo then utf8 "parameter not set or null" else utf8 "parameter not set"
              else text)
        | .trimStart longest => do
          let pattern := joined (← wordParts)
          pure [resultPart quoted (Glob.trimStart longest pattern (value.getD []))]
        | .trimEnd longest => do
          let pattern := joined (← wordParts)
          pure [resultPart quoted (Glob.trimEnd longest pattern (value.getD []))]
    return parts ++ (← partsOf capture fuel pieces)

/-! ## Paths -/

/-- Cuts a pattern at its slashes. -/
def atSlashes (pattern : List Glyph) : List (List Glyph) :=
  pattern.foldr (fun glyph pieces =>
    match pieces with
    | [] => [[glyph]]
    | piece :: more => if glyph.1 == Byte.slash then [] :: piece :: more
      else (glyph :: piece) :: more) [[]]

/-- The paths that continue a path and fit patterns, one for each name. -/
def pathsFrom : Bytes → List (List Glyph) → ShellM (List Bytes)
  | path, [] => return [path]
  | path, pattern :: patterns => do
    let here (name : Bytes) : Bytes := path ++ name ++ if patterns.isEmpty then [] else [Byte.slash]
    if !Glob.isActive pattern then
      let next := here (textOf pattern)
      if patterns.isEmpty && !pattern.isEmpty then
        match ← ask (.stat next false) with
        | .info _ => return [next]
        | _ => return []
      else pathsFrom next patterns
    else
      match ← ask (.listDirectory (if path.isEmpty then [Byte.dot] else path)) with
      | .names names => do
        let names := names.filter fun name =>
          Glob.fits pattern name &&
            (name.head? != some Byte.dot || pattern.head?.map (·.1) == some Byte.dot)
        let names := names.mergeSort Bytes.precedes
        let found ← names.mapM fun name => pathsFrom (here name) patterns
        return found.flatten
      | _ => return []

/-- The paths a field stands for, or the field itself if there are none. -/
def pathsOf (field : List Glyph) : ShellM (List Bytes) := do
  if !Glob.isActive field || (← get).isOn 'f' then return [textOf field]
  else
    match ← pathsFrom [] (atSlashes field) with
    | [] => return [textOf field]
    | paths => return paths

/-! ## Words -/

/-- The fields of a word. -/
def expand (capture : Capture) (word : Word) : ShellM (List Bytes) := do
  let parts ← partsOf capture Task.ampleSteps (withHome (← get) word)
  let fields := Fields.ofParts (← get).separators parts
  return (← fields.mapM pathsOf).flatten

/-- The fields of words. -/
def expandAll (capture : Capture) (words : List Word) : ShellM (List Bytes) := do
  return (← words.mapM (expand capture)).flatten

/-- A word as one pattern. -/
def expandPattern (capture : Capture) (word : Word) : ShellM (List Glyph) := do
  return joined (← partsOf capture Task.ampleSteps (withHome (← get) word))

/-- A word as one text. -/
def expandText (capture : Capture) (word : Word) : ShellM Bytes := do
  return textOf (← expandPattern capture word)

end Shell

end Host

end CueFront
