import JobShell.Signal

/-!
# Foreground-only mode and the signal flags

Each terminal stop signal flips foreground-only mode, in which a trailing `&` is ignored. The
change is announced at once, except while the shell waits for a foreground command: then the
notice is held back and shown before the next prompt. The flags are all that the signal handlers
share with the main loop; the last one says that a child has died since the last pass of the
reaper.
-/

namespace JobShell

/-- A change of mode that is shown to the user. -/
inductive ModeNotice where
  | entered
  | exited
  deriving DecidableEq, Repr

namespace ModeNotice

/-- The text of a notice. -/
def message : ModeNotice → String
  | .entered => "\nEntering foreground-only mode (& is now ignored)\n"
  | .exited => "\nExiting foreground-only mode\n"

/-- The notice that tells of a mode. -/
def ofMode (foregroundOnly : Bool) : ModeNotice :=
  if foregroundOnly then .entered else .exited

end ModeNotice

/-- The flags shared by the signal handlers and the main loop. -/
structure SignalFlags where
  foregroundOnly : Bool := false
  childEnded : Bool := false
  waiting : Bool := false
  enteredPending : Bool := false
  exitedPending : Bool := false
  deriving DecidableEq, Repr

namespace SignalFlags

/-- Flips the mode. The notice to show at once is `none` during a foreground wait, when it is held
back instead. -/
def toggle (f : SignalFlags) : SignalFlags × Option ModeNotice :=
  let f := { f with foregroundOnly := !f.foregroundOnly }
  if f.waiting then
    if f.foregroundOnly then ({ f with enteredPending := true }, none)
    else ({ f with exitedPending := true }, none)
  else (f, some (.ofMode f.foregroundOnly))

/-- The notices held back, in the order in which they are shown: of two, the one that tells of the
mode in force comes last. -/
def pending (f : SignalFlags) : List ModeNotice :=
  match f.enteredPending, f.exitedPending with
  | true, true => [.ofMode (!f.foregroundOnly), .ofMode f.foregroundOnly]
  | true, false => [.entered]
  | false, true => [.exited]
  | false, false => []

/-- Hands out the notices held back. -/
def takeNotices (f : SignalFlags) : SignalFlags × List ModeNotice :=
  ({ f with enteredPending := false, exitedPending := false }, f.pending)

/-- Hands out the flag that a child has ended. -/
def takeChildEnded (f : SignalFlags) : SignalFlags × Bool :=
  ({ f with childEnded := false }, f.childEnded)

def noteChildEnded (f : SignalFlags) : SignalFlags :=
  { f with childEnded := true }

def setWaiting (f : SignalFlags) (waiting : Bool) : SignalFlags :=
  { f with waiting := waiting }

/-! ## Operations on the flags -/

/-- What can happen to the mode and its notices. -/
inductive Operation where
  | toggle
  | setWaiting (waiting : Bool)
  | takeNotices
  deriving DecidableEq, Repr

/-- The flags after an operation, and the notices that it shows. -/
def Operation.perform (f : SignalFlags) : Operation → SignalFlags × List ModeNotice
  | .toggle => (f.toggle.1, f.toggle.2.toList)
  | .setWaiting waiting => (f.setWaiting waiting, [])
  | .takeNotices => f.takeNotices

/-- The flags after operations, and all notices that have been shown then, if `shown` were before. -/
def performAll (shown : List ModeNotice) :
    List Operation → SignalFlags → SignalFlags × List ModeNotice
  | [], f => (f, shown)
  | o :: os, f => performAll (shown ++ (o.perform f).2) os (o.perform f).1

end SignalFlags

end JobShell
