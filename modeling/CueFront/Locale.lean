import CueFront.Bytes

/-!
# The locale of the tool

The tool must write UTF-8.  It gets the environment of the front end; only where the
locale in force there does not mention UTF-8, the variables that decide the character set
are replaced.
-/

namespace CueFront

namespace Locale

/-- An environment: entries of the form `NAME=value`. -/
abbrev Environment := List Bytes

/-- The variable that overrides all others. -/
def allEntry : Bytes := utf8 "LC_ALL="

/-- The variable for the character set. -/
def characterEntry : Bytes := utf8 "LC_CTYPE="

/-- The variable for everything that is not set otherwise. -/
def languageEntry : Bytes := utf8 "LANG="

/-- The value of the last entry that starts with `entry`; empty if there is none. -/
def valueOf (entry : Bytes) (environment : Environment) : Bytes :=
  match (environment.filter entry.isPrefixOf).getLast? with
  | some found => found.drop entry.length
  | none => []

/-- The locale in force for characters. -/
def effective (environment : Environment) : Bytes :=
  let all := valueOf allEntry environment
  let character := valueOf characterEntry environment
  if !all.isEmpty then all
  else if !character.isEmpty then character
  else valueOf languageEntry environment

/-- Whether a locale mentions UTF-8, in any case and with or without the hyphen. -/
def mentionsUtf8 (locale : Bytes) : Bool :=
  Bytes.contains (utf8 "utf8") ((locale.filter (· != Byte.hyphen)).map Byte.toLower)

/-- Whether an entry decides the character set before the language does. -/
def decidesCharacters (entry : Bytes) : Bool :=
  allEntry.isPrefixOf entry || characterEntry.isPrefixOf entry

/-- The environment of the tool. -/
def childEnvironment (environment : Environment) : Environment :=
  if mentionsUtf8 (effective environment) then environment
  else environment.filter (!decidesCharacters ·) ++ [characterEntry ++ utf8 "C.UTF-8"]

end Locale

end CueFront
