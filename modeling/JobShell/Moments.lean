import JobShell.Interpreter
import Mathlib.Logic.Relation

/-!
# Moments of a run

A round of the loop is made of small actions, and between any two of them things can happen from
outside: signals, deaths, what other children do. A `Moment` is the session between two such actions
and the place in the round; `Moves` says what can come next, and `Path` is any number of moves. What
the shell does of its own depends on the place (`Own`), what happens from outside does not
(`Happens`).
-/

namespace JobShell

/-- Where the shell is in a round of its loop. -/
inductive Point where
  /-- Before the reaper: at the prompt, with the line and its command, or with the report on an
  error. -/
  | line
  /-- The line is done, and the flag that a child has ended is about to be taken. -/
  | done
  /-- The flag was set and has been taken, and the drain is about to start. -/
  | roused
  /-- In the drain. -/
  | draining
  /-- After the loop, with the jobs in the table. -/
  | leaving
  deriving DecidableEq, Repr

/-- A session between two actions. -/
structure Moment where
  point : Point
  /-- How often the loop has come past the reaper. -/
  passes : Nat
  session : Session

namespace Session

/-- What can happen from outside, whatever the shell is at: an event, a change of a child, which can
be its death but nothing after that, and the work of children on files. -/
inductive Happens (s : Session) : Session → Prop
  | event (event : Event) : Happens s (s.apply event)
  | changed {pid : Pid} (change : Child → Child) : (∀ c, (change c).pid = c.pid) →
    (∀ how, s.stateOf pid = some (.dead how) →
      (s.changeChild pid change).stateOf pid = some (.dead how)) →
    Happens s (s.changeChild pid change)
  | files {m : Machine} : s.machine.Files m → Happens s { s with machine := m }

/-- What the shell does of its own at a point. Each of these is one action; nothing comes in
between. -/
inductive Own (s : Session) : Point → Session → Prop
  | said (message : Message) : Own s .line (s.say message)
  | awaiting : Own s .line (s.record .awaiting)
  | took (piece : Bytes) : Own s .line (s.record (.taken piece))
  | tookNotices : Own s .line { s with flags := s.flags.takeNotices.1 }
  | waiting (waiting : Bool) : Own s .line (s.setWaiting waiting)
  | moved (cwd : Place) : Own s .line { s with machine := { s.machine with cwd } }
  | forked (own : Dispositions) (background : Bool) : Own s .line (s.addChild own background).1
  | tracked (pid : Pid) : Own s .line (s.track pid)
  | untracked (point : Point) (pid : Pid) : Own s point (s.untrack pid)
  /-- A foreground child that is waited for is collected. -/
  | waited {pid : Pid} {how : Termination} : s.stateOf pid = some (.dead how) →
    .forked pid false ∈ s.machine.transcript → Own s .line (s.collect pid)
  | noted (how : Termination) : Own s .line { s with lastStatus := how }
  /-- The drain collects a child whose end it can tell, and reports it. -/
  | reaped {pid : Pid} {how : Termination} : s.stateOf pid = some (.dead how) →
    how.isClassic = true → Own s .draining (s.collect pid)
  | reported (pid : Pid) (how : Termination) : Own s .draining (s.say (.done pid how))
  /-- A job is sent a signal, and is collected when it is dead. -/
  | sent (pid : Pid) (n : Signal) : Own s .leaving (s.record (.sent pid n))
  | ended {pid : Pid} {how : Termination} : s.stateOf pid = some (.dead how) →
    Own s .leaving (s.collect pid)

end Session

open Session

/-- What can come right after a moment. -/
inductive Moves : Moment → Moment → Prop
  | happens {point : Point} {n : Nat} {s s' : Session} : Happens s s' →
    Moves ⟨point, n, s⟩ ⟨point, n, s'⟩
  | own {point : Point} {n : Nat} {s s' : Session} : Own s point s' →
    Moves ⟨point, n, s⟩ ⟨point, n, s'⟩
  | finished {n : Nat} {s : Session} : Moves ⟨.line, n, s⟩ ⟨.done, n, s⟩
  /-- The flag was not set: there is no drain. -/
  | calm {n : Nat} {s : Session} : s.flags.childEnded = false →
    Moves ⟨.done, n, s⟩ ⟨.line, n + 1, s⟩
  | roused {n : Nat} {s : Session} : s.flags.childEnded = true →
    Moves ⟨.done, n, s⟩ ⟨.roused, n, s.calm⟩
  | started {n : Nat} {s : Session} : Moves ⟨.roused, n, s⟩ ⟨.draining, n, s⟩
  /-- No dead child is left. -/
  | swept {n : Nat} {s : Session} : (∀ pid how, s.stateOf pid ≠ some (.dead how)) →
    Moves ⟨.draining, n, s⟩ ⟨.line, n + 1, s⟩
  /-- The end of a child cannot be told, which cuts the drain short. -/
  | cut {n : Nat} {s : Session} {pid : Pid} {how : Termination} :
    s.stateOf pid = some (.dead how) → how.isClassic = false →
    Moves ⟨.draining, n, s⟩ ⟨.line, n + 1, s.collect pid⟩
  | left {n : Nat} {s : Session} : Moves ⟨.line, n, s⟩ ⟨.leaving, n, s⟩

/-- Any number of moves, one after the other. -/
abbrev Path : Moment → Moment → Prop :=
  Relation.ReflTransGen Moves

end JobShell
