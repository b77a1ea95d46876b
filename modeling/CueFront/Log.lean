import CueFront.Bytes

/-!
# The log

Parts of the front end say what they do in log entries.  An entry has a level and a
message.  A logger drops the entries below its least level and writes each other one as a
line of its own, with the tag of the session if there is one.  Computations that log are of
the type `Logged`: a value and the entries on the way to it, oldest first.
-/

namespace CueFront

namespace Log

/-- How severe an entry is.  Levels outside the four that are named can be compared but have
no name. -/
structure Level where
  /-- The rank: higher is more severe. -/
  rank : Int
deriving DecidableEq, Repr

namespace Level

/-- Details for whoever looks for a fault. -/
def debug : Level := ⟨0⟩

/-- What is being done. -/
def info : Level := ⟨1⟩

/-- Something that may need attention. -/
def warn : Level := ⟨2⟩

/-- A failure. -/
def error : Level := ⟨3⟩

/-- The four levels and their names. -/
def named : List (Bytes × Level) :=
  [(utf8 "debug", debug), (utf8 "info", info), (utf8 "warn", warn), (utf8 "error", error)]

/-- The level a name stands for. -/
def ofName? (name : Bytes) : Option Level := named.lookup name

/-- The name of a level. -/
def name (level : Level) : Bytes := nameAmong named
where
  /-- The name a table has for the level. -/
  nameAmong : List (Bytes × Level) → Bytes
    | [] => utf8 "unknown"
    | (name, other) :: more => if other == level then name else nameAmong more

/-- The level as a log line shows it, in a fixed width for the levels that have a name. -/
def label (level : Level) : Bytes :=
  if level == debug then utf8 "DEBUG"
  else if level == info then utf8 "INFO "
  else if level == warn then utf8 "WARN "
  else if level == error then utf8 "ERROR"
  else utf8 "UNKNOWN"

end Level

/-- One thing to say. -/
structure Entry where
  /-- How severe it is. -/
  level : Level
  /-- What to say. -/
  message : Bytes
deriving DecidableEq, Repr

/-- An entry of details. -/
def debug (message : Bytes) : Entry := ⟨.debug, message⟩

/-- An entry about what is being done. -/
def info (message : Bytes) : Entry := ⟨.info, message⟩

/-- An entry that may need attention. -/
def warn (message : Bytes) : Entry := ⟨.warn, message⟩

/-- An entry about a failure. -/
def error (message : Bytes) : Entry := ⟨.error, message⟩

/-- Where entries are written. -/
structure Logger where
  /-- The tag of the session; empty for none. -/
  tag : Bytes := []
  /-- The least level that is written. -/
  least : Level := .warn
deriving DecidableEq, Repr

namespace Logger

/-- The line of an entry. -/
def line (logger : Logger) (entry : Entry) : Bytes :=
  let tag := if logger.tag.isEmpty then [] else utf8 "[" ++ logger.tag ++ utf8 "] "
  utf8 "[" ++ entry.level.label ++ utf8 "] " ++ tag ++ entry.message ++ [Byte.lineFeed]

/-- What a logger writes for an entry: its line, or nothing. -/
def write (logger : Logger) (entry : Entry) : Bytes :=
  if entry.level.rank < logger.least.rank then [] else logger.line entry

/-- What a logger writes for a list of entries. -/
def writeAll (logger : Logger) (entries : List Entry) : Bytes := entries.flatMap logger.write

end Logger

end Log

/-- A value and the log on the way to it. -/
structure Logged (α : Type) where
  /-- The entries, oldest first. -/
  log : List Log.Entry
  /-- The value. -/
  value : α

namespace Logged

/-- A value without a log. -/
def quiet {α : Type} (value : α) : Logged α := ⟨[], value⟩

/-- A value and one entry. -/
def note {α : Type} (entry : Log.Entry) (value : α) : Logged α := ⟨[entry], value⟩

/-- Goes on with a value and keeps the log. -/
def andThen {α β : Type} (first : Logged α) (next : α → Logged β) : Logged β :=
  let second := next first.value
  ⟨first.log ++ second.log, second.value⟩

/-- Changes the value. -/
def map {α β : Type} (f : α → β) (logged : Logged α) : Logged β := ⟨logged.log, f logged.value⟩

end Logged

end CueFront
