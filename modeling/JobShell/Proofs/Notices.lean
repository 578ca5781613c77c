import JobShell.Mode

/-!
# Notices and the mode

A change of mode is announced at once, or its notice is held back until the shell takes the notices
that are held back. The flags keep at most one notice of each mode; a `Backlog` keeps all of them,
in order, and the flags tell which kinds are in it.

* `last_notice_matches_iff`: when the notices have been taken, the last notice shown matches the
  mode, unless the last change of mode was announced while just notices of the mode before it were
  held back.
* `pending_toggled`: any number of changes of mode during a wait leave two notices at most.
-/

namespace JobShell.SignalFlags

/-! ## Notices held back -/

/-- All that is held back: the mode, whether a wait is under way, and the notices that have come
during waits since notices were last taken. -/
structure Backlog where
  foregroundOnly : Bool := false
  waiting : Bool := false
  notices : List ModeNotice := []
  deriving DecidableEq, Repr

namespace Backlog

/-- The backlog after an operation. -/
def after (b : Backlog) : Operation → Backlog
  | .toggle =>
    { b with
      foregroundOnly := !b.foregroundOnly
      notices := if b.waiting then b.notices ++ [.ofMode (!b.foregroundOnly)] else b.notices }
  | .setWaiting waiting => { b with waiting }
  | .takeNotices => { b with notices := [] }

/-- The backlog after operations on fresh flags. -/
def of (os : List Operation) : Backlog :=
  os.foldl after {}

/-- Notices are held back, all of them of the mode in force, and a change of mode now is announced
at once, ahead of them. -/
def IsOvertaken (b : Backlog) : Prop :=
  b.waiting = false ∧ b.notices ≠ [] ∧ ∀ notice ∈ b.notices, notice = .ofMode b.foregroundOnly

instance (b : Backlog) : Decidable b.IsOvertaken :=
  inferInstanceAs (Decidable (_ ∧ _ ∧ _))

end Backlog

variable {f : SignalFlags} {shown : List ModeNotice} {os : List Operation} {b : Backlog}

/-- The operations of a shell in two parts. -/
theorem performAll_append (first second : List Operation) :
    performAll shown (first ++ second) f =
      performAll (performAll shown first f).2 second (performAll shown first f).1 := by
  induction first generalizing shown f with
  | nil => rfl
  | cons o os ih => exact ih

/-- Notices of one mode only are held back. -/
theorem Backlog.isOvertaken_iff : b.IsOvertaken ↔ b.waiting = false ∧
    .ofMode b.foregroundOnly ∈ b.notices ∧ .ofMode (!b.foregroundOnly) ∉ b.notices := by
  have other : ∀ notice : ModeNotice, notice = .ofMode b.foregroundOnly ↔
      notice ≠ .ofMode (!b.foregroundOnly) := by
    intro notice
    cases notice <;> cases b.foregroundOnly <;> simp [ModeNotice.ofMode]
  refine and_congr_right fun _ => ⟨fun ⟨some_held, all⟩ => ?_, fun ⟨held, unheld⟩ => ?_⟩
  · obtain ⟨notice, held⟩ := List.exists_mem_of_ne_nil _ some_held
    exact ⟨all notice held ▸ held, fun unheld => (other _).1 (all _ unheld) rfl⟩
  · exact ⟨List.ne_nil_of_mem held, fun notice member =>
      (other notice).2 fun same => unheld (same ▸ member)⟩

/-- The flags tell what is in a backlog. -/
structure Tells (f : SignalFlags) (b : Backlog) : Prop where
  foregroundOnly : f.foregroundOnly = b.foregroundOnly
  waiting : f.waiting = b.waiting
  entered : f.enteredPending = true ↔ .entered ∈ b.notices
  exited : f.exitedPending = true ↔ .exited ∈ b.notices

/-- The step lemma: each operation leaves the flags as the backlog tells. -/
theorem Tells.perform (tells : f.Tells b) (o : Operation) :
    (o.perform f).1.Tells (b.after o) := by
  obtain ⟨mode, waiting, entered, exited⟩ := tells
  cases o with
  | toggle =>
    cases held : b.waiting <;> cases on : b.foregroundOnly <;> constructor <;>
      simp [Operation.perform, toggle, Backlog.after, ModeNotice.ofMode, mode, waiting, entered,
        exited, held, on]
  | setWaiting on => exact ⟨mode, rfl, entered, exited⟩
  | takeNotices =>
    constructor <;> simp [Operation.perform, takeNotices, Backlog.after, mode, waiting]

theorem tells_performAll (os : List Operation) :
    (performAll [] os {}).1.Tells (Backlog.of os) := by
  have kept : ∀ (shown : List ModeNotice) (f : SignalFlags) (b : Backlog),
      f.Tells b → (performAll shown os f).1.Tells (os.foldl Backlog.after b) := by
    induction os with
    | nil => exact fun _ _ _ tells => tells
    | cons o os ih => exact fun _ _ _ tells => ih _ _ _ (tells.perform o)
  exact kept [] {} {} ⟨rfl, rfl, by simp, by simp⟩

/-! ## The last notice -/

/-- If the notices were taken now, the last notice shown would match the mode. -/
def InStep (shown : List ModeNotice) (f : SignalFlags) : Prop :=
  (shown ++ f.pending).getLast? = some (.ofMode f.foregroundOnly)

/-- Without a change of mode, notices and mode neither come apart nor together. -/
theorem inStep_performAll_iff (steady : .toggle ∉ os) :
    InStep (performAll shown os f).2 (performAll shown os f).1 ↔ InStep shown f := by
  induction os generalizing shown f with
  | nil => rfl
  | cons o os ih =>
    rw [List.mem_cons, not_or] at steady
    refine (ih steady.2).trans ?_
    cases o with
    | toggle => exact absurd rfl steady.1
    | setWaiting on =>
      show InStep (shown ++ []) _ ↔ _
      rw [List.append_nil]
      rfl
    | takeNotices =>
      show ((shown ++ f.pending) ++ []).getLast? = _ ↔ _
      rw [List.append_nil]
      rfl

/-- During a wait the notice of a change of mode comes last among those held back. -/
theorem inStep_toggle_of_waiting (waiting : f.waiting = true) : InStep shown f.toggle.1 := by
  obtain ⟨mode, ended, held, entered, exited⟩ := f
  obtain rfl : held = true := waiting
  cases mode <;> cases entered <;> cases exited <;> simp [InStep, toggle, pending, ModeNotice.ofMode]

/-- A notice that is shown at once stays the last one unless there is held back just the other. -/
theorem inStep_toggle_of_not_waiting (idle : f.waiting = false) :
    InStep (shown ++ f.toggle.2.toList) f.toggle.1 ↔ f.pending ≠ [.ofMode f.foregroundOnly] := by
  obtain ⟨mode, ended, held, entered, exited⟩ := f
  obtain rfl : held = false := idle
  cases mode <;> cases entered <;> cases exited <;> simp [InStep, toggle, pending, ModeNotice.ofMode]

/-- Just the notice of the mode in force is pending if the backlog holds notices of that kind and no
other. -/
theorem Tells.pending_eq_iff (tells : f.Tells b) : f.pending = [.ofMode f.foregroundOnly] ↔
    .ofMode b.foregroundOnly ∈ b.notices ∧ .ofMode (!b.foregroundOnly) ∉ b.notices := by
  rw [← tells.foregroundOnly]
  cases mode : f.foregroundOnly <;> cases entered : f.enteredPending <;>
    cases exited : f.exitedPending <;>
      simp [pending, ModeNotice.ofMode, ← tells.entered, ← tells.exited, mode, entered, exited]

/-- A change of mode leaves what is shown in step with the mode, unless it overtakes the notices
that are held back. -/
theorem inStep_toggle_iff (tells : f.Tells b) :
    InStep (shown ++ f.toggle.2.toList) f.toggle.1 ↔ ¬ b.IsOvertaken := by
  rw [Backlog.isOvertaken_iff, ← tells.waiting]
  cases waiting : f.waiting with
  | false => simp [inStep_toggle_of_not_waiting waiting, tells.pending_eq_iff]
  | true => simp [inStep_toggle_of_waiting waiting]

/-- When the notices have just been taken, none is held back; and the last notice shown matches the
mode in force, unless the last change of mode overtook the notices that were held back. -/
theorem last_notice_matches_iff (before after : List Operation) (last : .toggle ∉ after) :
    let r := performAll [] (before ++ .toggle :: after ++ [.takeNotices]) {}
    r.1.pending = [] ∧
      (r.2.getLast? = some (.ofMode r.1.foregroundOnly) ↔ ¬ (Backlog.of before).IsOvertaken) := by
  intro r
  have taken : r.1.pending = [] := by
    show (performAll [] _ {}).1.pending = []
    rw [performAll_append]
    rfl
  have steady : .toggle ∉ after ++ [.takeNotices] := by simpa using last
  have parts : r = performAll (performAll [] before {}).2
      (.toggle :: (after ++ [.takeNotices])) (performAll [] before {}).1 := by
    rw [← performAll_append]
    simp [r]
  have in_step : InStep r.2 r.1 ↔ ¬ (Backlog.of before).IsOvertaken := by
    rw [parts]
    exact (inStep_performAll_iff steady).trans (inStep_toggle_iff (tells_performAll before))
  rw [InStep, taken, List.append_nil] at in_step
  exact ⟨taken, in_step⟩

/-- Changes of mode during a wait and a prompt after it. -/
theorem last_notice_matches_after_wait :
    let before : List Operation := [.setWaiting true, .toggle, .toggle, .setWaiting false]
    let r := performAll [] (before ++ .toggle :: [.setWaiting true] ++ [.takeNotices]) {}
    .toggle ∉ [Operation.setWaiting true] ∧ ¬ (Backlog.of before).IsOvertaken ∧
      r.2 = [.entered, .exited, .entered] ∧
      r.2.getLast? = some (.ofMode r.1.foregroundOnly) := by
  intro before r
  have settled : ¬ (Backlog.of before).IsOvertaken := by decide
  exact ⟨by decide, settled, by decide,
    (last_notice_matches_iff before [.setWaiting true] (by decide)).2.2 settled⟩

/-- A change of mode during a wait, and another one when the wait is over: the notice of the second
is shown at once, that of the first after it, and it is not the mode in force. -/
theorem last_notice_is_stale :
    let os : List Operation :=
      [.setWaiting true, .toggle, .setWaiting false, .toggle, .takeNotices]
    (performAll [] os {}).2 = [.exited, .entered] ∧ (performAll [] os {}).1.pending = [] ∧
      (performAll [] os {}).1.foregroundOnly = false ∧
      (performAll [] os {}).2.getLast? ≠ some (.ofMode (performAll [] os {}).1.foregroundOnly) := by
  decide

/-! ## Many changes of mode -/

/-- The flags after so many changes of mode. -/
def toggled (f : SignalFlags) : Nat → SignalFlags
  | 0 => f
  | n + 1 => (f.toggled n).toggle.1

theorem toggle_of_waiting (waiting : f.waiting = true) : f.toggle = (f.toggle.1, none) := by
  unfold toggle
  dsimp only
  rw [if_pos waiting]
  split <;> rfl

/-- At the prompt the new mode is shown at once. -/
theorem toggle_of_not_waiting (idle : f.waiting = false) : f.toggle =
    ({ f with foregroundOnly := !f.foregroundOnly }, some (.ofMode (!f.foregroundOnly))) := by
  unfold toggle
  dsimp only
  rw [if_neg (by simp [idle])]

theorem waiting_toggle (f : SignalFlags) : f.toggle.1.waiting = f.waiting := by
  unfold toggle
  dsimp only
  split
  · split <;> rfl
  · rfl

theorem foregroundOnly_toggle (f : SignalFlags) :
    f.toggle.1.foregroundOnly = !f.foregroundOnly := by
  unfold toggle
  dsimp only
  split
  · split <;> rfl
  · rfl

theorem toggle_with_childEnded (f : SignalFlags) (ended : Bool) :
    ({ f with childEnded := ended } : SignalFlags).toggle.1 =
      { f.toggle.1 with childEnded := ended } := by
  unfold toggle
  dsimp only
  split
  · split <;> rfl
  · rfl

/-- Outside a wait nothing more is held back. -/
theorem pending_toggle_of_not_waiting (idle : f.waiting = false) (none_held : f.pending = []) :
    f.toggle.1.pending = [] := by
  obtain ⟨mode, ended, held, entered, exited⟩ := f
  obtain rfl : held = false := idle
  cases entered <;> cases exited <;> simp_all [toggle, pending]

/-- During a wait the new notice comes to the one of the other mode, if that is held back. -/
theorem pending_toggle_of_waiting (waiting : f.waiting = true) :
    f.toggle.1.pending = if .ofMode f.foregroundOnly ∈ f.pending
      then [.ofMode f.foregroundOnly, .ofMode (!f.foregroundOnly)]
      else [.ofMode (!f.foregroundOnly)] := by
  obtain ⟨mode, ended, held, entered, exited⟩ := f
  obtain rfl : held = true := waiting
  cases mode <;> cases entered <;> cases exited <;> simp [toggle, pending, ModeNotice.ofMode]

theorem toggled_with_childEnded (f : SignalFlags) (ended : Bool) (n : Nat) :
    ({ f with childEnded := ended } : SignalFlags).toggled n =
      { f.toggled n with childEnded := ended } := by
  induction n with
  | zero => rfl
  | succ n ih => rw [toggled, ih, toggle_with_childEnded, toggled]

theorem toggled_add (f : SignalFlags) (m n : Nat) : f.toggled (m + n) = (f.toggled m).toggled n := by
  induction n with
  | zero => rfl
  | succ n ih => rw [← Nat.add_assoc, toggled, ih, toggled]

theorem waiting_toggled (n : Nat) : (f.toggled n).waiting = f.waiting := by
  induction n with
  | zero => rfl
  | succ n ih => exact (waiting_toggle _).trans ih

/-- After `n` changes the mode is the other one if `n` is odd. -/
theorem foregroundOnly_toggled (n : Nat) :
    (f.toggled n).foregroundOnly = (f.foregroundOnly ^^ decide (n % 2 = 1)) := by
  induction n with
  | zero => simp [toggled]
  | succ n ih =>
    rw [toggled, foregroundOnly_toggle, ih]
    rcases Nat.mod_two_eq_zero_or_one n with even | odd
    · have next : (n + 1) % 2 = 1 := by omega
      simp [even, next]
    · have next : (n + 1) % 2 = 0 := by omega
      simp [odd, next]

theorem pending_toggled_of_not_waiting (idle : f.waiting = false) (none_held : f.pending = [])
    (n : Nat) : (f.toggled n).pending = [] := by
  induction n with
  | zero => exact none_held
  | succ n ih => exact pending_toggle_of_not_waiting ((waiting_toggled n).trans idle) ih

/-- Of any number of changes of mode during a wait at most two are told, one of each mode, and the
last one tells of the mode in force. -/
theorem pending_toggled (waiting : f.waiting = true) (none_held : f.pending = []) (n : Nat) :
    (f.toggled n).pending = match n with
      | 0 => []
      | 1 => [.ofMode (f.toggled n).foregroundOnly]
      | _ => [.ofMode (!(f.toggled n).foregroundOnly), .ofMode (f.toggled n).foregroundOnly] := by
  induction n with
  | zero => exact none_held
  | succ n ih =>
    have mode : (f.toggled (n + 1)).foregroundOnly = !(f.toggled n).foregroundOnly :=
      foregroundOnly_toggle _
    have grown := pending_toggle_of_waiting ((waiting_toggled n).trans waiting)
    rw [mode, toggled, grown, ih]
    match n with
    | 0 => simp
    | 1 => simp
    | n + 2 => simp

/-- Of `n` changes of mode during a wait `min n 2` are shown after it. -/
theorem length_pending_toggled (waiting : f.waiting = true) (none_held : f.pending = []) (n : Nat) :
    (f.toggled n).pending.length = min n 2 := by
  rw [pending_toggled waiting none_held]
  match n with
  | 0 => rfl
  | 1 => rfl
  | n + 2 =>
    show 2 = min (n + 2) 2
    omega

theorem last_pending_toggled (waiting : f.waiting = true) (none_held : f.pending = []) (n : Nat) :
    ∀ notice ∈ (f.toggled n).pending.getLast?, notice = .ofMode (f.toggled n).foregroundOnly := by
  rw [pending_toggled waiting none_held]
  match n with
  | 0 => simp
  | 1 => simp
  | n + 2 => simp

end JobShell.SignalFlags
