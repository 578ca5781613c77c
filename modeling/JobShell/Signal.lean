/-!
# Signals and their dispositions

The shell ignores interrupts, so that they reach only its foreground child, and handles child
deaths and terminal stops itself. A child gets child deaths back and ignores terminal stops; only
a foreground child gets interrupts back. Broken pipes stay as the shell has found them. Handlers do
not outlive the start of a program: what was handled is back to its default there, what was ignored
stays ignored.
-/

namespace JobShell

/-- A signal number. -/
abbrev Signal := Nat

namespace Signal

def interrupt : Signal := 2

def kill : Signal := 9

def brokenPipe : Signal := 13

def terminate : Signal := 15

def childEnded : Signal := 17

def resume : Signal := 18

def stop : Signal := 19

def terminalStop : Signal := 20

/-- The greatest number of a classic signal: an end by a later one cannot be decoded. -/
def maxClassic : Signal := 31

/-- The greatest signal number of all. -/
def maxNumber : Signal := 64

/-- The classic signals, which have names. -/
def isClassic (n : Signal) : Bool :=
  1 ≤ n && n ≤ maxClassic

end Signal

/-- A signal that the shell has set itself up for. It lives through each of them. -/
inductive ShellSignal where
  | interrupt
  | childEnded
  | terminalStop
  deriving DecidableEq, Repr

/-- The number of a signal that the shell has set itself up for. -/
def ShellSignal.number : ShellSignal → Signal
  | .interrupt => Signal.interrupt
  | .childEnded => Signal.childEnded
  | .terminalStop => Signal.terminalStop

/-- What a process does with a signal. -/
inductive Disposition where
  | default
  | ignore
  | handler
  deriving DecidableEq, Repr

namespace Disposition

/-- The word for a disposition. -/
def name : Disposition → String
  | .default => "default"
  | .ignore => "ignore"
  | .handler => "handler"

/-- The disposition of a signal once a program has been started. -/
def afterExec : Disposition → Disposition
  | .handler => .default
  | d => d

end Disposition

/-- The dispositions of the signals that the shell and its runtime change. -/
structure Dispositions where
  interrupt : Disposition
  terminalStop : Disposition
  childEnded : Disposition
  brokenPipe : Disposition
  deriving DecidableEq, Repr

namespace Dispositions

/-- The shell's own dispositions, with the one for broken pipes that it has found. -/
def shell (brokenPipe : Disposition) : Dispositions where
  interrupt := .ignore
  terminalStop := .handler
  childEnded := .handler
  brokenPipe

/-- What a child makes of the dispositions it inherits. -/
def forChild (d : Dispositions) (foreground : Bool) : Dispositions where
  interrupt := if foreground then .default else d.interrupt
  terminalStop := .ignore
  childEnded := .default
  brokenPipe := d.brokenPipe

/-- The dispositions once a program has been started. -/
def afterExec (d : Dispositions) : Dispositions where
  interrupt := d.interrupt.afterExec
  terminalStop := d.terminalStop.afterExec
  childEnded := d.childEnded.afterExec
  brokenPipe := d.brokenPipe.afterExec

/-- The disposition of signal `n`: all but four have their default. -/
def of (d : Dispositions) (n : Signal) : Disposition :=
  if n = Signal.interrupt then d.interrupt
  else if n = Signal.terminalStop then d.terminalStop
  else if n = Signal.childEnded then d.childEnded
  else if n = Signal.brokenPipe then d.brokenPipe
  else .default

end Dispositions

/-- The effect of a signal on a process that does not handle it. -/
inductive SignalEffect where
  | nothing
  | stops
  | kills
  deriving DecidableEq, Repr

/-- The default effect of a signal. Numbers outside the range are no signals and do nothing. -/
def SignalEffect.byDefault (n : Signal) : SignalEffect :=
  if n = 0 ∨ Signal.maxNumber < n then .nothing
  else if n = Signal.childEnded ∨ n = Signal.resume ∨ n = 23 ∨ n = 28 then .nothing
  else if n = Signal.stop ∨ n = Signal.terminalStop ∨ n = 21 ∨ n = 22 then .stops
  else .kills

/-- The effect of signal `n` under dispositions `d`. -/
def SignalEffect.under (d : Dispositions) (n : Signal) : SignalEffect :=
  match d.of n with
  | .default => byDefault n
  | _ => .nothing

end JobShell
