import JobShell.Proofs.TableHistories
import JobShell.SystemCalls
import Mathlib.Data.List.Chain

/-!
# Ending the jobs, call by call

Whatever the system answers, the jobs of the table have their turns in the order of the slots. A
turn is one signal to terminate, and waits up to the first that tells of the end or fails. It is
over as soon as the signal is refused or there is such a wait, and the next job has its turn. Only a
job for which there is none keeps the jobs behind it from having theirs.

* `turns_shutDown`: to end the jobs is to go through these turns.
* `Turns.signals`: the signals that are sent.
* `Turns.isChain`: which call comes after which.
-/

namespace JobShell

/-- The wait tells nothing of an end: it was interrupted, or it reports another change. -/
def WaitResult.Unfinished (r : WaitResult) : Prop :=
  r = .error .interrupted ∨ ∃ status, r = .ok status ∧ status.termination? = none

/-- After such a wait the shell waits again. -/
theorem WaitResult.conclusion?_eq_none_iff {r : WaitResult} :
    r.conclusion? = none ↔ r.Unfinished := by
  cases r with
  | ok status => simp [conclusion?, Unfinished]
  | error e => simp [conclusion?, Unfinished]

variable {pid q : Pid} {answers : Answers} {system : System} {before turn calls : List Call}
variable {pids rest : List Pid} {stuck : Option Pid}

/-! ## Turns -/

/-- The calls of a turn that is over. Either the signal was refused, or it was sent, no wait but the
last called for another, and the last tells of the end or has failed. -/
inductive TurnOver (pid : Pid) (answers : Answers) : List Call → Prop
  | refused {e : Errno} :
    answers.kill = .error e → TurnOver pid answers [.kill pid Signal.terminate (.error e)]
  | concluded {again more : List WaitResult} {last : WaitResult} :
    answers.kill = .ok () → answers.waits = again ++ last :: more →
    (∀ r ∈ again, r.Unfinished) → ¬ last.Unfinished →
    TurnOver pid answers
      (.kill pid Signal.terminate (.ok ()) :: again.map (.wait pid) ++ [.wait pid last])

/-- The calls of a turn that goes on: the signal was sent, and every wait calls for another. -/
inductive TurnOpen (pid : Pid) (answers : Answers) : List Call → Prop
  | waiting :
    answers.kill = .ok () → (∀ r ∈ answers.waits, r.Unfinished) →
    TurnOpen pid answers
      (.kill pid Signal.terminate (.ok ()) :: answers.waits.map (.wait pid))

/-- The calls of the turns of jobs, one after the other, up to the one that goes on if there is
one. Each call came back with what the system answers after the calls before the turn. -/
inductive Turns (system : System) : List Call → List Pid → List Call → Option Pid → Prop
  | nobody {before : List Call} : Turns system before [] [] none
  | ended {before turn calls : List Call} {pid : Pid} {rest : List Pid} {stuck : Option Pid} :
    TurnOver pid (system before pid) turn → Turns system (before ++ turn) rest calls stuck →
    Turns system before (pid :: rest) (turn ++ calls) stuck
  | goes_on {before turn : List Call} {pid : Pid} {rest : List Pid} :
    TurnOpen pid (system before pid) turn → Turns system before (pid :: rest) turn (some pid)

/-- The system lets a turn come to its end: it refuses the signal or concludes a wait. -/
def Answers.Conclude (answers : Answers) : Prop :=
  answers.kill = .ok () → ∃ r ∈ answers.waits, ¬ r.Unfinished

/-- A turn stays open only if no answer of the system ends it. -/
theorem TurnOpen.not_conclude (h : TurnOpen pid answers turn) : ¬ answers.Conclude := by
  obtain ⟨sent, all⟩ := h
  intro conclude
  obtain ⟨r, member, ends⟩ := conclude sent
  exact ends (all r member)

/-- A turn goes on only if the system concludes no wait. -/
theorem Turns.returns (h : Turns system before pids calls stuck)
    (conclude : ∀ before, ∀ pid ∈ pids, (system before pid).Conclude) : stuck = none := by
  induction h with
  | nobody => rfl
  | ended _ _ ih =>
    exact ih fun before pid member => conclude before pid (List.mem_cons_of_mem _ member)
  | goes_on turn_open => exact absurd (conclude _ _ List.mem_cons_self) turn_open.not_conclude

/-! ## The calls that are made -/

theorem run_bind {α β : Type} (x : Calling α) (f : α → Calling β) (calls : List Call) :
    (x >>= f).run calls = match x.run calls with
      | .ok a calls => (f a).run calls
      | .error pid calls => .error pid calls := by
  show EStateM.bind x f calls = _
  unfold EStateM.bind EStateM.run
  cases x calls <;> rfl

/-- A wait is repeated until it has come to a conclusion. -/
theorem run_awaitJob_cons (pid : Pid) (result : WaitResult) (results : List WaitResult)
    (calls : List Call) : (awaitJob pid (result :: results)).run calls =
      if result.conclusion?.isSome then .ok () (calls ++ [.wait pid result])
      else (awaitJob pid results).run (calls ++ [.wait pid result]) := by
  rw [awaitJob]
  cases result.conclusion? <;> rfl

/-- The waits of a turn: all up to the first that is concluded, or all there are. -/
theorem run_awaitJob (pid : Pid) (results : List WaitResult) (calls : List Call) :
    (∃ again last more, results = again ++ last :: more ∧
      (∀ r ∈ again, r.Unfinished) ∧ ¬ last.Unfinished ∧
      (awaitJob pid results).run calls =
        .ok () (calls ++ (again.map (.wait pid) ++ [.wait pid last]))) ∨
    (∀ r ∈ results, r.Unfinished) ∧
      (awaitJob pid results).run calls = .error pid (calls ++ results.map (.wait pid)) := by
  induction results generalizing calls with
  | nil => exact .inr ⟨by simp, by simp [awaitJob]⟩
  | cons result results ih =>
    rw [run_awaitJob_cons]
    cases told : result.conclusion? with
    | some c =>
      have ends : ¬ result.Unfinished := fun again => by
        rw [WaitResult.conclusion?_eq_none_iff.2 again] at told
        cases told
      exact .inl ⟨[], result, results, rfl, by simp, ends, rfl⟩
    | none =>
      have unfinished : result.Unfinished := WaitResult.conclusion?_eq_none_iff.1 told
      rw [if_neg (by simp)]
      rcases ih (calls ++ [.wait pid result]) with
        ⟨again, last, more, rfl, all, ends, run⟩ | ⟨all, run⟩
      · have before := List.forall_mem_cons.2 ⟨unfinished, all⟩
        refine .inl ⟨result :: again, last, more, rfl, before, ends, ?_⟩
        rw [run]
        simp
      · refine .inr ⟨List.forall_mem_cons.2 ⟨unfinished, all⟩, ?_⟩
        rw [run]
        simp

/-- A job is sent its signal, and waited for if that has come through. -/
theorem run_endJob_eq (system : System) (pid : Pid) (calls : List Call) :
    (endJob system pid).run calls =
      match (system calls pid).kill with
      | .ok () => (awaitJob pid (system calls pid).waits).run
          (calls ++ [.kill pid Signal.terminate (.ok ())])
      | .error e => .ok () (calls ++ [.kill pid Signal.terminate (.error e)]) := by
  have opened : (endJob system pid).run calls =
      (match (system calls pid).kill with
        | .ok () => awaitJob pid (system calls pid).waits
        | .error _ => return).run
          (calls ++ [Call.kill pid Signal.terminate (system calls pid).kill]) := rfl
  rw [opened]
  cases (system calls pid).kill <;> rfl

/-- A job's turn, with what the system answers for it now. -/
theorem run_endJob (system : System) (pid : Pid) (calls : List Call) :
    (∃ turn, TurnOver pid (system calls pid) turn ∧
      (endJob system pid).run calls = .ok () (calls ++ turn)) ∨
    ∃ turn, TurnOpen pid (system calls pid) turn ∧
      (endJob system pid).run calls = .error pid (calls ++ turn) := by
  rw [run_endJob_eq]
  cases sent : (system calls pid).kill with
  | error e => exact .inl ⟨_, .refused sent, rfl⟩
  | ok =>
    rcases run_awaitJob pid (system calls pid).waits
        (calls ++ [.kill pid Signal.terminate (.ok ())]) with
      ⟨again, last, more, waits, all, ends, run⟩ | ⟨all, run⟩
    · refine .inl ⟨_, .concluded sent waits all ends, ?_⟩
      dsimp only
      rw [run]
      simp
    · refine .inr ⟨_, .waiting sent all, ?_⟩
      dsimp only
      rw [run]
      simp

/-- What the turns of jobs come to: all of them are over, or one goes on. -/
theorem run_forM_endJob (system : System) (pids : List Pid) (calls : List Call) :
    ∃ more stuck, Turns system calls pids more stuck ∧
      (pids.forM (endJob system)).run calls = match stuck with
        | none => .ok () (calls ++ more)
        | some pid => .error pid (calls ++ more) := by
  -- What the system answers for the next job depends on the calls that this one's turn adds.
  induction pids generalizing calls with
  | nil => exact ⟨[], none, .nobody, by simp⟩
  | cons pid rest ih =>
    have first : ((pid :: rest).forM (endJob system)).run calls =
        (endJob system pid >>= fun _ => rest.forM (endJob system)).run calls := rfl
    rw [first, run_bind]
    rcases run_endJob system pid calls with ⟨turn, turn_over, run⟩ | ⟨turn, waits, run⟩
    · obtain ⟨more, stuck, turns, others⟩ := ih (calls ++ turn)
      refine ⟨turn ++ more, stuck, .ended turn_over turns, ?_⟩
      rw [run, ← List.append_assoc]
      exact others
    · exact ⟨turn, some pid, .goes_on waits, by rw [run]⟩

/-- To end the jobs of a table is to go through their turns, in the order of the slots. If all of
them are over, every slot is free. -/
theorem turns_shutDown (system : System) (t : JobTable) :
    ∃ stuck, Turns system [] t.toList (t.shutDown system).1 stuck ∧
      (t.shutDown system).2 = match stuck with
        | none => .ok (.empty t.capacity)
        | some pid => .error pid := by
  unfold JobTable.shutDown
  rw [JobTable.forEach_eq, run_bind]
  obtain ⟨calls, stuck, turns, run⟩ := run_forM_endJob system t.toList []
  rw [run]
  cases stuck with
  | none => exact ⟨none, turns, rfl⟩
  | some pid => exact ⟨some pid, turns, rfl⟩

/-! ## The signals that are sent -/

/-- The signal that a call is to send, and to which process. -/
def Call.signal? : Call → Option (Pid × Signal)
  | .kill pid signal _ => some (pid, signal)
  | .wait _ _ => none

theorem signals_waits (pid : Pid) (results : List WaitResult) :
    (results.map (Call.wait pid)).filterMap Call.signal? = [] :=
  List.filterMap_eq_nil_iff.2 fun call member => by
    obtain ⟨r, -, rfl⟩ := List.mem_map.1 member
    rfl

theorem TurnOver.signals (h : TurnOver pid answers turn) :
    turn.filterMap Call.signal? = [(pid, Signal.terminate)] := by
  cases h with
  | refused => rfl
  | concluded _ _ all ends =>
    rw [List.cons_append, List.filterMap_cons, List.filterMap_append, signals_waits]
    rfl

theorem TurnOpen.signals (h : TurnOpen pid answers turn) :
    turn.filterMap Call.signal? = [(pid, Signal.terminate)] := by
  obtain ⟨-, all⟩ := h
  rw [List.filterMap_cons, signals_waits]
  rfl

/-- The jobs whose turn has come have been sent the signal once each, in order. -/
theorem Turns.signals (h : Turns system before pids calls stuck) : ∃ reached, reached <+: pids ∧
    calls.filterMap Call.signal? = reached.map (·, Signal.terminate) ∧
    (stuck = none → reached = pids) ∧ ∀ pid, stuck = some pid → reached.getLast? = some pid := by
  induction h with
  | nobody => exact ⟨[], List.nil_prefix, rfl, fun _ => rfl, nofun⟩
  | @ended before turn calls pid rest stuck turn_over _ ih =>
    obtain ⟨reached, first, sent, all, last⟩ := ih
    refine ⟨pid :: reached, List.cons_prefix_cons.2 ⟨rfl, first⟩, ?_,
      fun done => by rw [all done], fun p goes_on => ?_⟩
    · rw [List.filterMap_append, turn_over.signals, sent]
      rfl
    · rw [List.getLast?_cons, last p goes_on]
      rfl
  | @goes_on before turn pid rest turn_open =>
    exact ⟨[pid], ⟨rest, rfl⟩, turn_open.signals, nofun, fun p same => same⟩

/-! ## The order of the calls -/

namespace Call

/-- The process that a call is about. -/
def subject : Call → Pid
  | .kill pid _ _ => pid
  | .wait pid _ => pid

/-- The turn of the job is over with a call: the signal was refused, or the wait told of the end or
failed. -/
def Ends : Call → Prop
  | .kill _ _ (.ok ()) => False
  | .kill _ _ (.error _) => True
  | .wait _ result => ¬ result.Unfinished

/-- A call may come right after another: a wait for the same job while its turn goes on, the signal
to the next job when it is over. -/
inductive Next (first second : Call) : Prop
  | again {r : WaitResult} : ¬ first.Ends → second = .wait first.subject r → Next first second
  | next {pid : Pid} {r : Except Errno Unit} :
    first.Ends → second = .kill pid Signal.terminate r → Next first second

end Call

theorem isChain_waits {again : List WaitResult} (all : ∀ r ∈ again, r.Unfinished)
    (last : WaitResult) {first : Call} (own : first.subject = pid) (open_ : ¬ first.Ends) :
    (first :: (again.map (.wait pid) ++ [.wait pid last])).IsChain Call.Next := by
  induction again generalizing first with
  | nil => exact .cons_cons (.again open_ (by rw [own])) (.singleton _)
  | cons r again ih =>
    rw [List.forall_mem_cons] at all
    exact .cons_cons (.again open_ (by rw [own])) (ih all.2 rfl fun ends => ends all.1)

/-- In a turn the signal comes first, and the waits follow. -/
theorem TurnOver.isChain (h : TurnOver pid answers turn) : turn.IsChain Call.Next := by
  cases h with
  | refused => exact .singleton _
  | concluded _ _ all ends => exact isChain_waits all _ rfl id

theorem TurnOver.ends (h : TurnOver pid answers turn) :
    ∃ call, turn.getLast? = some call ∧ call.Ends := by
  cases h with
  | refused => exact ⟨_, rfl, trivial⟩
  | concluded _ _ all ends => exact ⟨_, List.getLast?_concat, ends⟩

theorem TurnOpen.isChain (h : TurnOpen pid answers turn) : turn.IsChain Call.Next := by
  obtain ⟨-, all⟩ := h
  have longer : (.kill pid Signal.terminate (.ok ()) ::
      (answers.waits.map (.wait pid) ++ [.wait pid (.ok .stillAlive)])).IsChain Call.Next :=
    isChain_waits all _ rfl id
  exact longer.prefix (List.prefix_append _ _)

/-- The first call of a shutdown sends a signal. -/
theorem Turns.starts (h : Turns system before pids calls stuck) {call : Call}
    (first : calls.head? = some call) : ∃ q r, call = .kill q Signal.terminate r := by
  cases h with
  | nobody => cases first
  | ended turn_over _ =>
    cases turn_over with
    | refused =>
      cases first
      exact ⟨_, _, rfl⟩
    | concluded _ _ all ends =>
      cases first
      exact ⟨_, _, rfl⟩
  | goes_on turn_open =>
    obtain ⟨-, all⟩ := turn_open
    cases first
    exact ⟨_, _, rfl⟩

/-- While a turn goes on the shell waits again for the same job; the signal to the next job comes
only when it is over. -/
theorem Turns.isChain (h : Turns system before pids calls stuck) : calls.IsChain Call.Next := by
  induction h with
  | nobody => exact .nil
  | @ended before turn calls pid rest stuck turn_over turns ih =>
    refine List.isChain_append.2 ⟨turn_over.isChain, ih, fun last member first member' => ?_⟩
    obtain ⟨call, same, ends⟩ := turn_over.ends
    obtain ⟨q, r, rfl⟩ := turns.starts member'
    obtain rfl : call = last := Option.some.inj (same.symm.trans member)
    exact .next ends rfl
  | goes_on turn_open => exact turn_open.isChain

end JobShell
