/-!
Signals by their numbers, and how a process that one of them ended is described.
-/
namespace GraphEngine

structure Signal where
  number : Nat
deriving DecidableEq

namespace Signal

/-- The names of the signals from the first on. -/
def names : List String :=
  ["HUP", "INT", "QUIT", "ILL", "TRAP", "ABRT", "BUS", "FPE", "KILL", "USR1", "SEGV", "USR2",
    "PIPE", "ALRM", "TERM", "STKFLT", "CHLD", "CONT", "STOP", "TSTP", "TTIN", "TTOU", "URG",
    "XCPU", "XFSZ", "VTALRM", "PROF", "WINCH", "IO", "PWR", "SYS"]

def name? (signal : Signal) : Option String :=
  if signal.number = 0 then none else names[signal.number - 1]?

def ofName? (name : String) : Option Signal := (names.idxOf? name).map fun index => ⟨index + 1⟩

/-- What such a signal is about does not end a process. -/
def isHarmless (signal : Signal) : Bool :=
  [0, 17, 18, 19, 20, 21, 22, 23, 28].contains signal.number

/-- What is said of a process that the signal ended. -/
def message (signal : Signal) : String :=
  match signal.name? with
  | some name => s!"signal: {signal.number} (SIG" ++ name ++ ")"
  | none => s!"signal: {signal.number}"

end Signal
end GraphEngine
