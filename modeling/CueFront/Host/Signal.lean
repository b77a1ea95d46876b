import CueFront.Decimal

/-!
# Signals

The signals of the host, by number and name.  A process may ignore a signal or catch it,
except the two that always act.  What a signal does to a process that does neither is its
default action.
-/

namespace CueFront

namespace Host

/-- A signal. -/
abbrev Signal := Nat

namespace Signal

/-- Names without the leading `SIG`, in the order of the numbers from one. -/
def names : List String :=
  ["HUP", "INT", "QUIT", "ILL", "TRAP", "ABRT", "BUS", "FPE", "KILL", "USR1", "SEGV", "USR2",
    "PIPE", "ALRM", "TERM", "STKFLT", "CHLD", "CONT", "STOP", "TSTP", "TTIN", "TTOU", "URG",
    "XCPU", "XFSZ", "VTALRM", "PROF", "WINCH", "POLL", "PWR", "SYS"]

/-- The signal a name stands for; `0` and `EXIT` are no signal but have a number too. -/
def ofName? (name : Bytes) : Option Signal :=
  let plain := if (utf8 "SIG").isPrefixOf name then name.drop 3 else name
  if plain == utf8 "EXIT" then some 0
  else if plain == utf8 "IO" then some 29
  else (names.findIdx? (utf8 · == plain)).map (· + 1)

/-- The signal of a lost terminal. -/
def hangup : Signal := 1

/-- The signal of an interrupt from the keyboard. -/
def interrupt : Signal := 2

/-- The signal of a quit from the keyboard. -/
def quit : Signal := 3

/-- The signal that ends a process whatever it does. -/
def kill : Signal := 9

/-- The signal of a write to a pipe that nobody reads. -/
def pipe : Signal := 13

/-- The signal that lets a stopped process continue. -/
def continued : Signal := 18

/-- The signal that stops a process whatever it does. -/
def stop : Signal := 19

/-- The largest number of a signal. -/
def last : Signal := 64

/-- The signal that a number or a name stands for. -/
def ofText? (text : Bytes) : Option Signal :=
  if Decimal.isNumeral text then
    let number := Decimal.value text
    if number ≤ last then some number else none
  else ofName? (text.map Byte.toUpper)

/-- What a shell says about a process that a signal has ended. -/
def description (signal : Signal) : Bytes :=
  match [(1, "Hangup"), (2, "Interrupt"), (3, "Quit"), (4, "Illegal instruction"),
      (5, "Trace/breakpoint trap"), (6, "Aborted"), (7, "Bus error"),
      (8, "Floating point exception"), (9, "Killed"), (10, "User defined signal 1"),
      (11, "Segmentation fault"), (12, "User defined signal 2"), (13, "Broken pipe"),
      (14, "Alarm clock"), (15, "Terminated"), (16, "Stack fault"), (24, "CPU time limit exceeded"),
      (25, "File size limit exceeded"), (26, "Virtual timer expired"),
      (27, "Profiling timer expired"), (29, "I/O possible"), (30, "Power failure"),
      (31, "Bad system call")].lookup signal with
  | some text => utf8 text
  | none => utf8 "Unknown signal " ++ Decimal.digits signal

/-- What a signal does by default. -/
inductive Effect where
  /-- The process ends. -/
  | terminate
  /-- The process stops. -/
  | stop
  /-- The process goes on. -/
  | resume
  /-- Nothing happens. -/
  | nothing
deriving DecidableEq, Repr

/-- The default action of a signal. -/
def effect (signal : Signal) : Effect :=
  if signal == 17 || signal == 23 || signal == 28 then .nothing
  else if signal == 18 then .resume
  else if 19 ≤ signal && signal ≤ 22 then .stop
  else .terminate

end Signal

end Host

end CueFront
