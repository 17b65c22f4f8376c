import ToolPipeline.Shell.Chars

set_option autoImplicit false

/-!
Signals by number and name. Zero stands for the end of a shell.
-/

namespace ToolPipeline.Shell.Signal

def count : Nat := 65

def named : List String :=
  ["EXIT", "HUP", "INT", "QUIT", "ILL", "TRAP", "ABRT", "BUS", "FPE", "KILL", "USR1", "SEGV", "USR2", "PIPE", "ALRM",
    "TERM", "16", "CHLD", "CONT", "STOP", "TSTP", "TTIN", "TTOU", "URG", "XCPU", "XFSZ", "VTALRM", "PROF", "WINCH",
    "IO", "PWR", "SYS", "32", "33"]

/-- The signals for free use are counted from the first and from the last of them. -/
def name (n : Nat) : Chars :=
  match named[n]? with
  | some s => s.toList
  | none =>
    if n = 34 then "RTMIN".toList
    else if n < 50 then "RTMIN+".toList ++ Chars.ofNat (n - 34)
    else if n = 64 then "RTMAX".toList
    else "RTMAX-".toList ++ Chars.ofNat (64 - n)

/-- The signal that a text names, by number or by name, where capital letters do not count. -/
def ofText? (least : Nat) (s : Chars) : Option Nat :=
  if !s.isEmpty && s.all Char.isDigit then
    let n := (Chars.digits 10 0 s).1
    if n < count then some n else none
  else
    (List.range count).find? fun n => least ≤ n && (name n).map Char.toUpper == s.map Char.toUpper

def report (n : Nat) : String :=
  match n with
  | 1 => "Hangup"
  | 2 | 13 => ""
  | 3 => "Quit"
  | 4 => "Illegal instruction"
  | 5 => "Trace/breakpoint trap"
  | 6 => "Aborted"
  | 7 => "Bus error"
  | 8 => "Floating point exception"
  | 9 => "Killed"
  | 10 => "User defined signal 1"
  | 11 => "Segmentation fault"
  | 12 => "User defined signal 2"
  | 14 => "Alarm clock"
  | 15 => "Terminated"
  | 16 => "Stack fault"
  | 24 => "CPU time limit exceeded"
  | 25 => "File size limit exceeded"
  | 26 => "Virtual timer expired"
  | 27 => "Profiling timer expired"
  | 29 => "I/O possible"
  | 30 => "Power failure"
  | 31 => "Bad system call"
  | _ => "Unknown signal " ++ toString n

def isHarmless (n : Nat) : Bool := [0, 17, 18, 19, 20, 21, 22, 23, 28].contains n

end ToolPipeline.Shell.Signal
