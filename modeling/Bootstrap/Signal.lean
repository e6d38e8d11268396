/-!
# Signals

A signal is known by its number.  It has a name, which is written with or without
letters in front that all names have in common, and a text that tells what it
means to the process that is ended by it.
-/

namespace Bootstrap.Signal

/-- The signals: their numbers, names and meanings. -/
def table : List (Nat × String × String) :=
  [(1, "HUP", "Hangup"), (2, "INT", "Interrupt"), (3, "QUIT", "Quit"),
    (4, "ILL", "Illegal instruction"), (5, "TRAP", "Trace/breakpoint trap"),
    (6, "ABRT", "Aborted"), (7, "BUS", "Bus error"), (8, "FPE", "Floating point exception"),
    (9, "KILL", "Killed"), (10, "USR1", "User defined signal 1"),
    (11, "SEGV", "Segmentation fault"), (12, "USR2", "User defined signal 2"),
    (13, "PIPE", "Broken pipe"), (14, "ALRM", "Alarm clock"), (15, "TERM", "Terminated"),
    (16, "STKFLT", "Stack fault"), (17, "CHLD", "Child exited"), (18, "CONT", "Continued"),
    (19, "STOP", "Stopped (signal)"), (20, "TSTP", "Stopped"), (21, "TTIN", "Stopped (tty input)"),
    (22, "TTOU", "Stopped (tty output)"), (23, "URG", "Urgent I/O condition"),
    (24, "XCPU", "CPU time limit exceeded"), (25, "XFSZ", "File size limit exceeded"),
    (26, "VTALRM", "Virtual timer expired"), (27, "PROF", "Profiling timer expired"),
    (28, "WINCH", "Window changed"), (29, "IO", "I/O possible"), (30, "PWR", "Power failure"),
    (31, "SYS", "Bad system call")]

/-- The greatest number of a signal. -/
def greatest : Nat := 64

/-- The name of a signal. -/
def name? (number : Nat) : Option String := (table.lookup number).map (·.1)

/-- The signal with a name. -/
def number? (name : String) : Option Nat := (table.find? fun s => s.2.1 == name).map (·.1)

/-- What a signal means to the process that is ended by it. -/
def description (number : Nat) : String :=
  match table.lookup number with
  | some (_, text) => text
  | none => "Unknown signal " ++ toString number

/-- The signal that ends a process at once, whatever it has arranged. -/
def kill : Nat := 9

/-- The signal at a write that nobody will read. -/
def brokenPipe : Nat := 13

/-- The signal to a process that makes a file longer than it may. -/
def fileSize : Nat := 25

/-- The signal to a process of which a child has ended. -/
def child : Nat := 17

/-- Whether a process that has arranged nothing goes on at the signal. -/
def isHarmless (number : Nat) : Bool := [17, 18, 19, 20, 21, 22, 23, 28].contains number

end Bootstrap.Signal
