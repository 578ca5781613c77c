/-!
# The job table

A bounded table of the background jobs that the shell has to end when it leaves. A job goes into
the first free slot; when every slot is taken it is not stored, and the shell will not end it.
-/

namespace JobShell

/-- A process id. -/
abbrev Pid := Int

/-- A fixed number of slots, each free or holding a process id. -/
structure JobTable where
  slots : List (Option Pid)
  deriving DecidableEq, Repr

namespace JobTable

/-- A table of `capacity` free slots. -/
def empty (capacity : Nat) : JobTable :=
  ⟨List.replicate capacity none⟩

/-- The number of slots. -/
def capacity (t : JobTable) : Nat :=
  t.slots.length

/-- The stored process ids, in slot order. -/
def toList (t : JobTable) : List Pid :=
  t.slots.filterMap id

/-- The number of stored process ids. -/
def size (t : JobTable) : Nat :=
  t.toList.length

def isEmpty (t : JobTable) : Bool :=
  t.size == 0

def contains (t : JobTable) (pid : Pid) : Bool :=
  t.slots.contains (some pid)

/-- Fills the first free slot, if there is one. -/
def fillFirst (pid : Pid) : List (Option Pid) → Option (List (Option Pid))
  | [] => none
  | none :: slots => some (some pid :: slots)
  | some p :: slots => (fillFirst pid slots).map (some p :: ·)

/-- Frees the first slot that holds `pid`. -/
def freeFirst (pid : Pid) : List (Option Pid) → List (Option Pid)
  | [] => []
  | slot :: slots => if slot = some pid then none :: slots else slot :: freeFirst pid slots

/-- Stores `pid` in the first free slot unless it is stored already. The flag says whether it is
stored now. -/
def track (t : JobTable) (pid : Pid) : JobTable × Bool :=
  if t.contains pid then (t, true)
  else match fillFirst pid t.slots with
    | some slots => (⟨slots⟩, true)
    | none => (t, false)

/-- Frees the slot of `pid`. -/
def untrack (t : JobTable) (pid : Pid) : JobTable :=
  ⟨freeFirst pid t.slots⟩

/-- Goes through slots in order. Each slot that holds a process id is freed, and the process id is
then visited. -/
def visitSlots {m : Type → Type} [Monad m] (visit : Pid → m Unit) :
    List (Option Pid) → m (List (Option Pid))
  | [] => return []
  | none :: slots => return none :: (← visitSlots visit slots)
  | some pid :: slots => do
    visit pid
    return none :: (← visitSlots visit slots)

/-- Takes every stored process id out of the table and visits it, in slot order. -/
def forEach {m : Type → Type} [Monad m] (visit : Pid → m Unit) (t : JobTable) : m JobTable :=
  return ⟨← visitSlots visit t.slots⟩

/-- Makes a list of the process ids that are visited. -/
def note (pid : Pid) : StateM (List Pid) Unit :=
  modify (· ++ [pid])

/-- Takes every stored process id out of the table: those that were visited, and the table left
behind. -/
def drain (t : JobTable) : List Pid × JobTable :=
  match (t.forEach note).run [] with
  | (t, visited) => (visited, t)

/-! ## Operations -/

/-- A use of a job table. -/
inductive Operation where
  | track (pid : Pid)
  | untrack (pid : Pid)
  | contains (pid : Pid)
  | drain
  deriving DecidableEq

/-- What comes back from an operation. -/
inductive Answer where
  | done
  | flag (yes : Bool)
  | visited (pids : List Pid)
  deriving DecidableEq

/-- Uses a table once. -/
def perform (t : JobTable) : Operation → JobTable × Answer
  | .track pid => ((t.track pid).1, .flag (t.track pid).2)
  | .untrack pid => (t.untrack pid, .done)
  | .contains pid => (t, .flag (t.contains pid))
  | .drain => (t.drain.2, .visited t.drain.1)

/-- Uses a table again and again. -/
def performAll (t : JobTable) (history : List Operation) : JobTable :=
  history.foldl (fun t operation => (t.perform operation).1) t

end JobTable

end JobShell
