import EnvBootstrap.Child.Request
import EnvBootstrap.Script.Character

/-!
# Signals

The names of the signals, and what the shell says about a process that one of them has ended.
-/

namespace EnvBootstrap.Script

/-- The names of the signals and what they mean, in the order of their numbers.  The number zero
stands for the end of a script. -/
def signals : List (String × String) :=
  [("EXIT", ""), ("HUP", "Hangup"), ("INT", "Interrupt"), ("QUIT", "Quit"),
    ("ILL", "Illegal instruction"), ("TRAP", "Trace/breakpoint trap"), ("ABRT", "Aborted"),
    ("BUS", "Bus error"), ("FPE", "Floating point exception"), ("KILL", "Killed"),
    ("USR1", "User defined signal 1"), ("SEGV", "Segmentation fault"),
    ("USR2", "User defined signal 2"), ("PIPE", "Broken pipe"), ("ALRM", "Alarm clock"),
    ("TERM", "Terminated"), ("16", "Stack fault"), ("CHLD", "Child exited"), ("CONT", "Continued"),
    ("STOP", "Stopped (signal)"), ("TSTP", "Stopped"), ("TTIN", "Stopped (tty input)"),
    ("TTOU", "Stopped (tty output)"), ("URG", "Urgent I/O condition"),
    ("XCPU", "CPU time limit exceeded"), ("XFSZ", "File size limit exceeded"),
    ("VTALRM", "Virtual timer expired"), ("PROF", "Profiling timer expired"),
    ("WINCH", "Window changed"), ("IO", "I/O possible"), ("PWR", "Power failure"),
    ("SYS", "Bad system call")]

def pipeSignal : Nat := 13

def childSignal : Nat := 17

/-- The first number that is no signal. -/
def signalLimit : Nat := 65

def signalName (signal : Nat) : List Char :=
  match signals[signal]? with
  | some (name, _) => name.toList
  | none =>
    if signal < 34 then digitsOf signal
    else if signal = 34 then "RTMIN".toList
    else if signal < 50 then "RTMIN+".toList ++ digitsOf (signal - 34)
    else if signal < 64 then "RTMAX-".toList ++ digitsOf (64 - signal)
    else "RTMAX".toList

def signalMeaning (signal : Nat) : List Char :=
  match signals[signal]? with
  | some (_, meaning) => meaning.toList
  | none => "Real-time signal ".toList ++ digitsOf (signal - 34)

/-- The signal with a number or a name in any case; names count from a number on. -/
def signal? (least : Nat) (text : List Char) : Option Nat :=
  if text ≠ [] && text.all isDigit then
    let number := decimal text
    if number < signalLimit then some number else none
  else
    (List.range signalLimit).find? fun signal =>
      signal ≥ least && (signalName signal).map Char.toUpper = text.map Char.toUpper

def statusOf : Child.Status → Nat
  | .code code => code.toNat
  | .signal number => 128 + number

end EnvBootstrap.Script
