import JobShell.Process
import JobShell.Transcript
import Mathlib.Data.List.Basic

/-!
# The history of a child

A transcript tells of many children. Its part that tells of one of them is that child's history, and
`Life` lists the histories that a child can have between two rounds of the loop, together with the
state in which it then stands in the table of children.

* `Transcript.Classic`: no child dies of a signal above the classic ones.
* `Transcript.Extends`: how a transcript grows.
-/

namespace JobShell

/-! ## Ends that a wait can tell -/

namespace Termination

theorem decode_of_isClassic {how : Termination} (h : how.isClassic = true) :
    how.decode = .ok how := by
  cases how with
  | exited code => rfl
  | signaled signal =>
    rw [isClassic, decide_eq_true_eq] at h
    rw [decode, if_pos h]

theorem decode_of_not_isClassic {how : Termination} (h : how.isClassic = false) :
    how.decode = .error .invalidArgument := by
  cases how with
  | exited code => cases h
  | signaled signal =>
    rw [isClassic, decide_eq_false_iff_not] at h
    rw [decode, if_neg h]

end Termination

/-! ## Entries -/

/-- A child in this state has not died. -/
def ChildState.IsAlive (state : ChildState) : Prop :=
  ∀ how, state ≠ .dead how

namespace Entry

/-- The child that an entry tells of: that it is born, announced, dead, collected, or reported. -/
def child? : Entry → Option Pid
  | .said (.started pid) => some pid
  | .said (.done pid _) => some pid
  | .forked pid _ => some pid
  | .died pid _ => some pid
  | .collected pid => some pid
  | _ => none

/-- The end that an entry reports of a background child. -/
def report? (pid : Pid) : Entry → Option Termination
  | .said (.done p how) => if p = pid then some how else none
  | _ => none

/-- Whether an entry is something else than a death that a wait cannot tell. -/
def isClassic : Entry → Bool
  | .died _ how => how.isClassic
  | _ => true

/-- Whether an entry belongs to the pass of the reaper. -/
def isReaping : Entry → Bool
  | .collected _ => true
  | .said (.done _ _) => true
  | _ => false

theorem report?_of_child?_ne {e : Entry} {pid : Pid} (h : e.child? ≠ some pid) :
    e.report? pid = none := by
  cases e with
  | said message =>
    cases message with
    | done p how => exact if_neg fun same => h (congrArg some same)
    | _ => rfl
  | _ => rfl

end Entry

/-! ## Transcripts -/

namespace Transcript

/-- The part of a transcript that tells of a child. -/
def history (t : Transcript) (pid : Pid) : Transcript :=
  t.filter fun e => e.child? = some pid

/-- The ends of a child that lines `background pid … is done` report. -/
def reports (t : Transcript) (pid : Pid) : List Termination :=
  t.filterMap (Entry.report? pid)

/-- No child dies of a signal above the classic ones. -/
def Classic (t : Transcript) : Prop :=
  ∀ e ∈ t, e.isClassic = true

instance (t : Transcript) : Decidable t.Classic :=
  inferInstanceAs (Decidable (∀ e ∈ t, e.isClassic = true))

variable {t u : Transcript} {pid : Pid} {e : Entry}

theorem mem_history : e ∈ t.history pid ↔ e ∈ t ∧ e.child? = some pid := by
  simp [history]

/-- The history of a child in two parts of a transcript. -/
@[simp] theorem history_append : (t ++ u).history pid = t.history pid ++ u.history pid :=
  List.filter_append _ _

theorem history_eq_nil (h : ∀ e ∈ u, e.child? = none) : u.history pid = [] := by
  refine List.filter_eq_nil_iff.2 fun e member => ?_
  simp [h e member]

@[simp] theorem reports_append : (t ++ u).reports pid = t.reports pid ++ u.reports pid :=
  List.filterMap_append

/-- All reports on a child are in its history. -/
theorem reports_history : (t.history pid).reports pid = t.reports pid := by
  unfold reports history
  rw [List.filterMap_filter]
  refine List.filterMap_congr fun e _ => ?_
  split
  · rfl
  · rename_i other
    exact (Entry.report?_of_child?_ne (by simpa using other)).symm

theorem mem_reports {how : Termination} :
    how ∈ t.reports pid ↔ .said (.done pid how) ∈ t := by
  unfold reports
  rw [List.mem_filterMap]
  constructor
  · rintro ⟨e, member, found⟩
    cases e with
    | said message =>
      cases message with
      | done p other =>
        rw [Entry.report?] at found
        split at found
        · cases found
          rename_i same
          rwa [same] at member
        · cases found
      | _ => cases found
    | _ => cases found
  · intro member
    exact ⟨_, member, if_pos rfl⟩

/-- What holds of all deaths holds of the deaths up to a point. -/
theorem Classic.of_append (h : (t ++ u).Classic) : t.Classic :=
  fun e member => h e (List.mem_append_left u member)

theorem Classic.isClassic {how : Termination} (h : t.Classic) (died : .died pid how ∈ t) :
    how.isClassic = true :=
  h _ died

/-! ### Growth -/

/-- `u` is `t` with entries at its end, all of which have a property. -/
def Extends (P : Entry → Prop) (t u : Transcript) : Prop :=
  ∃ added, u = t ++ added ∧ ∀ e ∈ added, P e

namespace Extends

variable {P Q : Entry → Prop} {v : Transcript}

theorem refl (P : Entry → Prop) (t : Transcript) : Extends P t t :=
  ⟨[], (List.append_nil t).symm, fun _ member => absurd member List.not_mem_nil⟩

theorem single (h : P e) : Extends P t (t ++ [e]) :=
  ⟨[e], rfl, fun _ member => List.mem_singleton.1 member ▸ h⟩

/-- A transcript that has grown twice has grown. -/
theorem trans (first : Extends P t u) (second : Extends P u v) : Extends P t v := by
  obtain ⟨added, rfl, all⟩ := first
  obtain ⟨more, rfl, rest⟩ := second
  refine ⟨added ++ more, List.append_assoc t added more, fun e member => ?_⟩
  exact (List.mem_append.1 member).elim (all e) (rest e)

/-- What is new has every property that follows from the one it has. -/
theorem mono (weaker : ∀ e, P e → Q e) (h : Extends P t u) : Extends Q t u := by
  obtain ⟨added, same, all⟩ := h
  exact ⟨added, same, fun e member => weaker e (all e member)⟩

theorem subset (h : Extends P t u) (member : e ∈ t) : e ∈ u := by
  obtain ⟨added, rfl, -⟩ := h
  exact List.mem_append_left added member

theorem classic (h : Extends P t u) (classic : u.Classic) : t.Classic :=
  fun e member => classic e (h.subset member)

/-- What is new and does not have the property cannot be there. -/
theorem mem_of_not (h : Extends P t u) (member : e ∈ u) (other : ¬ P e) : e ∈ t := by
  obtain ⟨added, rfl, all⟩ := h
  exact (List.mem_append.1 member).resolve_right fun new => other (all e new)

end Extends

end Transcript

/-! ## Lives -/

/-- The histories of a background child that is dead and has not been collected. It can die before
the announcement or after it. -/
inductive Fallen (pid : Pid) (how : Termination) : Transcript → Prop
  | late : Fallen pid how [.forked pid true, .said (.started pid), .died pid how]
  | early : Fallen pid how [.forked pid true, .died pid how, .said (.started pid)]

/-- The history of a process id between two rounds of the loop, and the state of the child that has
it, if one does. -/
inductive Life (pid : Pid) : Transcript → Option ChildState → Prop
  | unborn : Life pid [] none
  /-- A foreground child that has been waited for. -/
  | awaited (how : Termination) :
    Life pid [.forked pid false, .died pid how, .collected pid] none
  /-- A background child that has not died. -/
  | working {state : ChildState} (alive : state.IsAlive) :
    Life pid [.forked pid true, .said (.started pid)] (some state)
  /-- A dead background child that has not been collected. -/
  | fallen {how : Termination} {h : Transcript} (fallen : Fallen pid how h) :
    Life pid h (some (.dead how))
  /-- A background child that has been collected, but whose end could not be told. -/
  | lost {how : Termination} {h : Transcript} (fallen : Fallen pid how h)
    (unknown : how.isClassic = false) : Life pid (h ++ [.collected pid]) none
  /-- A background child that has been collected and reported. -/
  | reported {how : Termination} {h : Transcript} (fallen : Fallen pid how h)
    (known : how.isClassic = true) :
    Life pid (h ++ [.collected pid, .said (.done pid how)]) none

/-- A child that has died is dead still, or it is gone and has been collected. -/
theorem Life.dead_or_collected {pid : Pid} {h : Transcript} {state : Option ChildState}
    {how : Termination} (life : Life pid h state) (died : .died pid how ∈ h) :
    (∃ how', state = some (.dead how')) ∨ state = none ∧ .collected pid ∈ h := by
  cases life with
  | unborn => cases died
  | awaited how' => exact .inr ⟨rfl, by simp⟩
  | working alive => simp at died
  | @fallen how' _ fallen => exact .inl ⟨how', rfl⟩
  | lost fallen unknown => exact .inr ⟨rfl, by simp⟩
  | reported fallen known => exact .inr ⟨rfl, by simp⟩

end JobShell
