import SmtScript.Host.Shell.Integer

/-!
# Signals

A signal has a number and a name. Number zero is the end of a shell, for which it can be asked to
do something, too.
-/

namespace SmtScript.Host.Signal

open Shell (Integer.count?)

/-- The names of the signals, from number zero on. -/
def names : List String :=
  ["EXIT", "HUP", "INT", "QUIT", "ILL", "TRAP", "ABRT", "BUS", "FPE", "KILL", "USR1", "SEGV",
    "USR2", "PIPE", "ALRM", "TERM", "16", "CHLD", "CONT", "STOP", "TSTP", "TTIN", "TTOU",
    "URG", "XCPU", "XFSZ", "VTALRM", "PROF", "WINCH", "IO", "PWR", "SYS"]

/-- The first number that is no signal. -/
def limit : Nat := 65

def name (n : Nat) : Raw :=
  match names[n]? with
  | some name => name.toList
  | none =>
      if n < 34 then Raw.ofNat n
      else if n = 34 then "RTMIN".toList
      else if n ≤ 49 then "RTMIN+".toList ++ Raw.ofNat (n - 34)
      else if n = 64 then "RTMAX".toList
      else "RTMAX-".toList ++ Raw.ofNat (64 - n)

/-- The signal that a number or a name stands for. Capitals do not matter. -/
def ofText? (least : Nat) (text : Raw) : Option Nat :=
  match Integer.count? text with
  | some n => if least ≤ n && n < limit then some n else none
  | none =>
      (List.range limit).find? fun n => least ≤ n && name n == text.map Char.toUpper

/-- What the signals up to the real-time ones are called in words, from number one on. -/
def descriptions : List String :=
  ["Hangup", "Interrupt", "Quit", "Illegal instruction", "Trace/breakpoint trap", "Aborted",
    "Bus error", "Floating point exception", "Killed", "User defined signal 1",
    "Segmentation fault", "User defined signal 2", "Broken pipe", "Alarm clock", "Terminated",
    "Stack fault", "Child exited", "Continued", "Stopped (signal)", "Stopped",
    "Stopped (tty input)", "Stopped (tty output)", "Urgent I/O condition",
    "CPU time limit exceeded", "File size limit exceeded", "Virtual timer expired",
    "Profiling timer expired", "Window changed", "I/O possible", "Power failure",
    "Bad system call"]

/-- What a signal is called in words. -/
def description (signal : Nat) : Raw :=
  match descriptions[signal - 1]? with
  | some text => text.toList
  | none => "Real-time signal ".toList ++ Raw.ofNat (signal - 34)

/-- What a shell says about a process that died by the signal. It keeps silent where that is
usual. -/
def report (signal : Nat) : Raw :=
  if signal = 2 || signal = 13 then [] else description signal ++ ['\n']

/-! ## Numbers that matter -/

def interrupt : Nat := 2

/-- The signals that do nothing to a shell that talks with somebody. -/
def patient : List Nat := [3, 15]

/-- A result cannot be. -/
def arithmetic : Nat := 8

def kill : Nat := 9

/-- There is no room for more. -/
def segment : Nat := 11

def pipe : Nat := 13

/-- What asks to end. -/
def terminate : Nat := 15

def child : Nat := 17

def goOn : Nat := 18

def stop : Nat := 19

/-- A file would grow too great. -/
def fileSize : Nat := 25

/-- Signals that do nothing to a process that does not ask for them. -/
def isHarmless (signal : Nat) : Bool :=
  [0, 17, 18, 23, 28].contains signal

/-- Signals that stop a process that does not ask for them. -/
def stops (signal : Nat) : Bool :=
  [19, 20, 21, 22].contains signal

/-- Signals that a process cannot ask for. -/
def isFinal (signal : Nat) : Bool :=
  signal == kill || signal == stop

end SmtScript.Host.Signal
