/-!
# Programs

Bundling may ask an interpreter, which is a program of the system. What the system makes of a program
does not follow from the files, so `Programs` stands for it wherever it matters.
-/

namespace ScriptBundle

namespace Program

/-- How a program ends: by itself, or by a signal, which may leave an image of its memory. -/
inductive Ending
  | status (code : Nat)
  | signal (number : Nat) (dumped : Bool)
  deriving DecidableEq, Repr

structure Outcome where
  ending : Ending
  output : List UInt8 := []
  errors : List UInt8 := []
  deriving DecidableEq, Repr

def signals : List (String × Nat) :=
  [("HUP", 1), ("INT", 2), ("QUIT", 3), ("ILL", 4), ("TRAP", 5), ("ABRT", 6), ("BUS", 7),
    ("FPE", 8), ("KILL", 9), ("USR1", 10), ("SEGV", 11), ("USR2", 12), ("PIPE", 13), ("ALRM", 14),
    ("TERM", 15), ("STKFLT", 16), ("XCPU", 24), ("XFSZ", 25), ("VTALRM", 26), ("PROF", 27),
    ("IO", 29), ("PWR", 30), ("SYS", 31)]

def Ending.message : Ending → String
  | .status code => "exit status: " ++ toString code
  | .signal number dumped =>
    "signal: " ++ toString number ++
      (match signals.find? (·.2 = number) with
      | some (name, _) => " (SIG" ++ name ++ ")"
      | none => "") ++
      if dumped then " (core dumped)" else ""

end Program

/-- How a system runs a program with arguments: what the program leaves behind, or why it does not
start. Programs change no files. -/
abbrev Programs := String → List String → Except String Program.Outcome

end ScriptBundle
