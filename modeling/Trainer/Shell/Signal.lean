import Trainer.Shell.Utility.Basic

/-!
# Signals

The names and numbers of signals, and what the shell says of a command that one of them ended.
-/

namespace Trainer
namespace Shell

open Sh Utility

def signals : List (String × Nat) := [
  ("EXIT", 0), ("HUP", 1), ("INT", 2), ("QUIT", 3), ("ILL", 4), ("TRAP", 5), ("ABRT", 6),
  ("BUS", 7), ("FPE", 8), ("KILL", 9), ("USR1", 10), ("SEGV", 11), ("USR2", 12), ("PIPE", 13),
  ("ALRM", 14), ("TERM", 15), ("CHLD", 17), ("CONT", 18), ("STOP", 19), ("TSTP", 20),
  ("TTIN", 21), ("TTOU", 22), ("URG", 23), ("XCPU", 24), ("XFSZ", 25), ("VTALRM", 26),
  ("PROF", 27), ("WINCH", 28), ("IO", 29), ("PWR", 30), ("SYS", 31)]

/-- The number of signals, the one that does not exist included. -/
def signalCount : Nat := 65

/-- The name of a signal; a number where there is none. -/
def signalName (n : Nat) : String :=
  match signals.find? fun x => x.2 == n with
  | some (name, _) => name
  | none =>
      if n < 34 then toString n
      else if n = 34 then "RTMIN"
      else if n < 50 then "RTMIN+" ++ toString (n - 34)
      else if n = 64 then "RTMAX"
      else "RTMAX-" ++ toString (64 - n)

/-- What the shell says of a command that a signal ended. -/
def signalText (n : Nat) : String :=
  match n with
  | 1 => "Hangup"
  | 3 => "Quit"
  | 4 => "Illegal instruction"
  | 5 => "Trace/breakpoint trap"
  | 6 => "Aborted"
  | 7 => "Bus error"
  | 8 => "Floating point exception"
  | 9 => "Killed"
  | 10 => "User defined signal 1"
  | 11 => "Segmentation fault"
  | 12 => "User defined signal 2"
  | 14 => "Alarm clock"
  | 15 => "Terminated"
  | n => "Unknown signal " ++ toString n

/-- The number of a signal given by name or number. -/
def signalNumber? (cs : Bytes) : Option Nat :=
  match number? cs with
  | some n => if n < signalCount then some n else none
  | none => signals.lookup (String.ofList (cs.map Char.toUpper))

/-- The name under which the action for a signal is kept. -/
def signalKey (n : Nat) : Bytes := showNat n

end Shell
end Trainer
