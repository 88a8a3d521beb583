import DiskPrep.Machine.Shell.Integer

/-!
Signals: the numbers below 65, most of which have a name.
-/
namespace DiskPrep.Machine.Shell.Signal

/-- Names of the first signals in order, from one on, with what is said of a process
that one of them ended. -/
def entries : List (String × String) :=
  [("HUP", "Hangup"), ("INT", "Interrupt"), ("QUIT", "Quit"), ("ILL", "Illegal instruction"),
    ("TRAP", "Trace/breakpoint trap"), ("ABRT", "Aborted"), ("BUS", "Bus error"),
    ("FPE", "Floating point exception"), ("KILL", "Killed"), ("USR1", "User defined signal 1"),
    ("SEGV", "Segmentation fault"), ("USR2", "User defined signal 2"), ("PIPE", "Broken pipe"),
    ("ALRM", "Alarm clock"), ("TERM", "Terminated"), ("16", "Stack fault"),
    ("CHLD", "Child exited"), ("CONT", "Continued"), ("STOP", "Stopped (signal)"),
    ("TSTP", "Stopped"), ("TTIN", "Stopped (tty input)"), ("TTOU", "Stopped (tty output)"),
    ("URG", "Urgent I/O condition"), ("XCPU", "CPU time limit exceeded"),
    ("XFSZ", "File size limit exceeded"), ("VTALRM", "Virtual timer expired"),
    ("PROF", "Profiling timer expired"), ("WINCH", "Window changed"), ("IO", "I/O possible"),
    ("PWR", "Power failure"), ("SYS", "Bad system call")]

def firstOwn : Nat := 34
def lastOwn : Nat := 64

/-- The signals whose actions nobody can choose. -/
def kill : Nat := 9
def stop : Nat := 19

def terminate : Nat := 15
def brokenPipe : Nat := 13
def interrupt : Nat := 2
def quit : Nat := 3

def child : Nat := 17

/-- Signals that do not end a process which has no action for them. -/
def harmless : List Nat := [17, 18, 19, 20, 21, 22, 23, 28]

/-- Signals that do not end a shell which asks for its commands. -/
def spared : List Nat := [quit, terminate]

/-- The name of a signal, or its number where it has none. The end of a script
counts as signal zero. -/
def name (n : Nat) : Text :=
  if n = 0 then "EXIT".toList
  else match entries[n - 1]? with
    | some (name, _) => name.toList
    | none =>
      if n < firstOwn then decimal n
      else if n = firstOwn then "RTMIN".toList
      else if n = lastOwn then "RTMAX".toList
      else if n ≤ firstOwn + 15 then "RTMIN+".toList ++ decimal (n - firstOwn)
      else "RTMAX-".toList ++ decimal (lastOwn - n)

def description (n : Nat) : Text :=
  match entries[n - 1]? with
  | some (_, text) => text.toList
  | none =>
    if n < firstOwn then "Unknown signal ".toList ++ decimal n
    else "Real-time signal ".toList ++ decimal (n - firstOwn)

def numbers : List Nat := List.range (lastOwn + 1)

/-- The signal that a text means: its number, or its name in any case. -/
def ofText? (t : Text) : Option Nat :=
  if !t.isEmpty && t.all Numeral.isDigit then
    (Integer.natOfText? t).filter (· ≤ lastOwn)
  else numbers.find? fun (n : Nat) => (name n).map Char.toUpper == t.map Char.toUpper

end DiskPrep.Machine.Shell.Signal
