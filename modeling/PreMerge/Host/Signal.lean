import PreMerge.Host.Integer

/-! Signals: their names and numbers, and what is said of processes that they end. -/

namespace PreMerge.Host.Signal

/-- The names of signals, in the order of their numbers. Zero stands for the end of a shell. -/
def names : List String :=
  ["EXIT", "HUP", "INT", "QUIT", "ILL", "TRAP", "ABRT", "BUS", "FPE", "KILL", "USR1", "SEGV", "USR2", "PIPE",
    "ALRM", "TERM", "16", "CHLD", "CONT", "STOP", "TSTP", "TTIN", "TTOU", "URG", "XCPU", "XFSZ", "VTALRM",
    "PROF", "WINCH", "IO", "PWR", "SYS", "32", "33", "RTMIN"] ++
    (List.range 15).map (fun n => "RTMIN+" ++ toString (n + 1)) ++
    (List.range 14).map (fun n => "RTMAX-" ++ toString (14 - n)) ++ ["RTMAX"]

/-- The name of a signal. -/
def nameOf (signal : Nat) : Octets :=
  (names[signal]?.map String.toList).getD (Octets.ofNat signal)

/-- The number of a signal that a word names. Names count from the `first` signal on. -/
def number? (first : Nat) (word : Octets) : Option Nat :=
  if !word.isEmpty && word.all Char.isDigit then
    let n := Integer.ofDigits 10 word
    if n < names.length then some n else none
  else
    ((names.drop first).findIdx? fun name => name.toList == word.map Char.toUpper).map (first + ·)

/-- The signal that somebody sends who does not want to wait any longer. -/
def interrupt : Nat := 2

/-- The signal for which a process has no choice. -/
def kill : Nat := 9

/-- The signal for reaching beyond one's memory. -/
def fault : Nat := 11

/-- The signal for writing what nobody reads. -/
def pipe : Nat := 13

/-- The signal for the end of a process that another has started. -/
def child : Nat := 17

/-- The signals that a process in the background does not get. -/
def ofTerminal : List Nat := [interrupt, 3]

/-- The signals that change nothing unless a process provides for them. -/
def harmless : List Nat := [17, 18, 19, 20, 21, 22, 23, 28]

/-- What is said of a process that a signal has ended, for the first signals. -/
def farewells : List String :=
  ["", "Hangup", "Interrupt", "Quit", "Illegal instruction", "Trace/breakpoint trap", "Aborted", "Bus error",
    "Floating point exception", "Killed", "User defined signal 1", "Segmentation fault",
    "User defined signal 2", "Broken pipe", "Alarm clock", "Terminated", "Stack fault", "Child exited",
    "Continued", "Stopped (signal)", "Stopped", "Stopped (tty input)", "Stopped (tty output)",
    "Urgent I/O condition", "CPU time limit exceeded", "File size limit exceeded", "Virtual timer expired",
    "Profiling timer expired", "Window changed", "I/O possible", "Power failure", "Bad system call"]

/-- What is said of a process that a signal has ended. -/
def farewell (signal : Nat) : String :=
  match farewells[signal]? with
  | some text => text
  | none =>
    if signal < 34 then "Unknown signal " ++ toString signal
    else "Real-time signal " ++ toString (signal - 34)

/-- Whether nothing is said of it after all while one waits for it. -/
def isQuiet (signal : Nat) : Bool :=
  signal == interrupt || signal == pipe

example : number? 1 "term".toList = some 15 ∧ number? 1 "EXIT".toList = none ∧ number? 0 "EXIT".toList = some 0 ∧
    number? 1 "64".toList = some 64 ∧ number? 1 "65".toList = none := by decide +kernel

end PreMerge.Host.Signal
