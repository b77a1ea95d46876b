import CueFront.Run.Call

/-!
# Commands of the shell

A script is read into commands.  A word is a list of pieces, and each piece knows whether it
stood in quotes, because quoting decides how an expansion is split and whether it can be a
pattern.
-/

namespace CueFront

namespace Host

namespace Shell

/-- What is done with the value of a parameter. -/
inductive Modifier where
  /-- Its length. -/
  | length
  /-- A word in place of a missing value. -/
  | default
  /-- A word in place of a missing value, which is kept. -/
  | assign
  /-- An error if the value is missing. -/
  | demand
  /-- A word in place of a value that is there. -/
  | alternative
  /-- The value without the shortest or longest match at its start. -/
  | trimStart (longest : Bool)
  /-- The value without the shortest or longest match at its end. -/
  | trimEnd (longest : Bool)
  /-- Nothing that can be done. -/
  | unknown
deriving DecidableEq, Repr

/-- How a redirect opens a file. -/
inductive FileUse where
  /-- To read it. -/
  | input
  /-- To write it anew. -/
  | output
  /-- To write behind what it holds. -/
  | append
  /-- To read and write it. -/
  | both
deriving DecidableEq, Repr

mutual

/-- A piece of a word. -/
inductive Piece where
  /-- Plain text. -/
  | text (bytes : Bytes)
  /-- Text in quotes. -/
  | quoted (bytes : Bytes)
  /-- A parameter. -/
  | parameter (name : Bytes) (quoted : Bool)
  /-- A parameter with a modifier.  If `emptyToo`, an empty value counts as missing. -/
  | modified (name : Bytes) (modifier : Modifier) (emptyToo : Bool) (word : List Piece)
      (quoted : Bool)
  /-- The output of a command. -/
  | output (body : Command) (quoted : Bool)
  /-- The value of an arithmetic expression. -/
  | arithmetic (expression : List Piece) (quoted : Bool)

/-- A redirect of a descriptor. -/
inductive Redirect where
  /-- To a file. -/
  | file (descriptor : Descriptor) (use : FileUse) (target : List Piece)
  /-- To what another descriptor has, or to nothing. -/
  | copy (descriptor : Descriptor) (source : List Piece)
  /-- From a text in the script. -/
  | text (descriptor : Descriptor) (body : List Piece)

/-- A command. -/
inductive Command where
  /-- Nothing. -/
  | nothing
  /-- Assignments, words and redirects. -/
  | simple (line : Nat) (assignments : List (Bytes × List Piece)) (words : List (List Piece))
      (redirects : List Redirect)
  /-- Commands joined by pipes. -/
  | pipeline (commands : List Command)
  /-- A command whose success is turned round. -/
  | negation (command : Command)
  /-- The second command runs if the first succeeds. -/
  | andThen (first second : Command)
  /-- The second command runs if the first fails. -/
  | orElse (first second : Command)
  /-- One command after the other. -/
  | sequence (first second : Command)
  /-- A command that nobody waits for. -/
  | background (command : Command)
  /-- A command with redirects. -/
  | redirected (command : Command) (redirects : List Redirect)
  /-- A command in a process of its own. -/
  | subshell (body : Command)
  /-- One command if a condition succeeds, another if it fails. -/
  | conditional (condition first second : Command)
  /-- A loop while its condition succeeds, or until it does. -/
  | loop (untilHolds : Bool) (condition body : Command)
  /-- A loop over words, or over the arguments. -/
  | forEach (line : Nat) (name : Bytes) (words : Option (List (List Piece))) (body : Command)
  /-- The first command with a pattern that fits a word. -/
  | select (line : Nat) (word : List Piece) (arms : List (List (List Piece) × Command))
  /-- The definition of a function. -/
  | define (name : Bytes) (body : Command)

end

/-- A word. -/
abbrev Word := List Piece

/-- The commands of the shell whose assignments stay, and whose failures end the shell. -/
def specials : List String :=
  [":", ".", "break", "continue", "eval", "exec", "exit", "export", "local", "readonly",
    "return", "set", "shift", "times", "trap", "unset"]

/-- Whether a name is in a list. -/
def isAmong (names : List String) (name : Bytes) : Bool := names.any (utf8 · == name)

/-- Whether bytes are a name. -/
def isName (text : Bytes) : Bool :=
  match text with
  | [] => false
  | b :: rest => Byte.isWord b && !Byte.isDigit b && rest.all Byte.isWord

/-- The words that are special where a command can start. -/
def reserved : List Bytes :=
  ["!", "case", "do", "done", "elif", "else", "esac", "fi", "for", "if", "in", "then", "until",
    "while", "\x7b", "\x7d"].map utf8

/-- The special words that end a list of commands. -/
def closers : List Bytes :=
  ["do", "done", "elif", "else", "esac", "fi", "then", "\x7d"].map utf8

end Shell

end Host

end CueFront
