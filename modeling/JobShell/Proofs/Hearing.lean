import JobShell.Proofs.Events
import JobShell.Proofs.Notices

/-!
# What the shell hears

While a child runs and while things happen from outside, all that the shell does is to handle
signals. So its flags follow from the signals that the transcript tells of (`SignalFlags.hearAll`),
and what it keeps from line to line stays the same (`Session.Heard`). `Session.Meanwhile` adds what
may appear in the transcript: during a wait for a foreground command, no notice of a change of mode.

* `hearAll_eq`: the signals flip the mode, and tell that a child has ended, and do nothing else.
* `meanwhile_runChild`, `meanwhile_applyAll`: what a child does, and events.
-/

namespace JobShell

/-! ## Flags that follow a transcript -/

/-- The number of terminal stops that a transcript tells of. -/
def Transcript.stops (t : Transcript) : Nat :=
  t.count (.received Signal.terminalStop)

/-- Whether the mode after a transcript is another one than before it. -/
def Transcript.flips (t : Transcript) : Bool :=
  t.stops % 2 = 1

theorem Transcript.stops_append (t u : Transcript) : (t ++ u).stops = t.stops + u.stops :=
  List.count_append

theorem Transcript.flips_append (t u : Transcript) : (t ++ u).flips = (t.flips ^^ u.flips) := by
  unfold flips
  rw [stops_append]
  rcases Nat.mod_two_eq_zero_or_one t.stops with even | odd
  · have same : (t.stops + u.stops) % 2 = u.stops % 2 := by omega
    rw [same, even]
    simp
  · rcases Nat.mod_two_eq_zero_or_one u.stops with even' | odd'
    · have sum : (t.stops + u.stops) % 2 = 1 := by omega
      simp [sum, odd, even']
    · have sum : (t.stops + u.stops) % 2 = 0 := by omega
      simp [sum, odd, odd']

theorem Transcript.stops_eq_zero {t : Transcript} (deaf : ∀ e ∈ t, ∀ n, e ≠ .received n) :
    t.stops = 0 := by
  apply List.count_eq_zero.2
  intro member
  exact deaf _ member _ rfl

theorem Transcript.flips_of_deaf {t : Transcript} (deaf : ∀ e ∈ t, ∀ n, e ≠ .received n) :
    t.flips = false := by
  unfold flips
  rw [stops_eq_zero deaf]
  rfl

namespace SignalFlags

variable {f : SignalFlags} {t u : Transcript}

/-- The flags after what an entry tells of has happened. -/
def hear (f : SignalFlags) : Entry → SignalFlags
  | .received n =>
    if n = Signal.childEnded then f.noteChildEnded
    else if n = Signal.terminalStop then f.toggle.1
    else f
  | _ => f

/-- The flags after all that a transcript tells of. -/
def hearAll (f : SignalFlags) (t : Transcript) : SignalFlags :=
  t.foldl hear f

/-- Flags follow one part of a transcript after the other. -/
theorem hearAll_append : f.hearAll (t ++ u) = (f.hearAll t).hearAll u :=
  List.foldl_append

/-- Only signals are heard. -/
theorem hearAll_eq_self (deaf : ∀ e ∈ t, ∀ n, e ≠ .received n) : f.hearAll t = f := by
  induction t with
  | nil => rfl
  | cons e t ih =>
    rw [List.forall_mem_cons] at deaf
    have unheard : f.hear e = f := by
      cases e with
      | received n => exact absurd rfl (deaf.1 n)
      | _ => rfl
    show (f.hear e).hearAll t = f
    rw [unheard, ih deaf.2]

/-- A terminal stop flips the mode; the flag that a child has ended may be set by another signal. -/
theorem hear_eq (f : SignalFlags) (e : Entry) :
    ∃ ended, f.hear e = { f.toggled (Transcript.stops [e]) with childEnded := ended } := by
  cases e with
  | received n =>
    by_cases stop : n = Signal.terminalStop
    · subst stop
      exact ⟨f.toggle.1.childEnded, rfl⟩
    · have none_there : Transcript.stops [.received n] = 0 := by simp [Transcript.stops, stop]
      rw [none_there, hear]
      split
      · exact ⟨true, rfl⟩
      · exact ⟨f.childEnded, rfl⟩
  | _ => exact ⟨f.childEnded, rfl⟩

/-- The terminal stops flip the mode, and nothing else is heard but that a child has ended. -/
theorem hearAll_eq (f : SignalFlags) (t : Transcript) :
    ∃ ended, f.hearAll t = { f.toggled t.stops with childEnded := ended } := by
  induction t generalizing f with
  | nil => exact ⟨f.childEnded, rfl⟩
  | cons e t ih =>
    obtain ⟨first, heard⟩ := hear_eq f e
    obtain ⟨ended, rest⟩ := ih (f.hear e)
    have counted : Transcript.stops (e :: t) = Transcript.stops [e] + Transcript.stops t :=
      Transcript.stops_append [e] t
    refine ⟨ended, rest.trans ?_⟩
    rw [heard, toggled_with_childEnded, counted, toggled_add]

theorem waiting_hearAll : (f.hearAll t).waiting = f.waiting := by
  obtain ⟨ended, heard⟩ := hearAll_eq f t
  rw [heard]
  exact waiting_toggled _

/-- The mode after a transcript depends on the parity of its terminal stops. -/
theorem foregroundOnly_hearAll :
    (f.hearAll t).foregroundOnly = (f.foregroundOnly ^^ t.flips) := by
  obtain ⟨ended, heard⟩ := hearAll_eq f t
  rw [heard]
  exact foregroundOnly_toggled t.stops

/-- The notices that are pending depend on the number of its terminal stops. -/
theorem pending_hearAll : (f.hearAll t).pending = (f.toggled t.stops).pending := by
  obtain ⟨ended, heard⟩ := hearAll_eq f t
  rw [heard]
  rfl

end SignalFlags

/-! ## The session -/

/-- Whether an entry may appear while the shell does nothing but handle signals. Changes of mode are
announced, with a new prompt, unless the shell waits for a foreground command. -/
def Entry.isMeanwhile (waiting : Bool) : Entry → Bool
  | .written _ _ => true
  | .received _ => true
  | .died _ _ => true
  | .said (.notice _) => !waiting
  | .said (.prompt _) => !waiting
  | _ => false

namespace Session

/-- The session `s'` comes after `s`: what the shell keeps from line to line is the same, its flags
have followed the transcript, and what is new in the transcript has a property. -/
structure Heard (P : Entry → Prop) (s s' : Session) : Prop where
  options : s'.options = s.options
  lastStatus : s'.lastStatus = s.lastStatus
  cwd : s'.machine.cwd = s.machine.cwd
  heard : ∃ added, s'.machine.transcript = s.machine.transcript ++ added ∧
    s'.flags = s.flags.hearAll added ∧ ∀ e ∈ added, P e

/-- Between `s` and `s'` the shell has done nothing but handle signals. -/
abbrev Meanwhile (s s' : Session) : Prop :=
  Heard (·.isMeanwhile s.flags.waiting = true) s s'

variable {P Q : Entry → Prop} {s s' s'' : Session}

theorem Heard.refl (P : Entry → Prop) (s : Session) : Heard P s s :=
  ⟨rfl, rfl, rfl, [], by simp, rfl, by simp⟩

theorem Heard.trans (first : Heard P s s') (second : Heard P s' s'') : Heard P s s'' := by
  obtain ⟨added, grown, flags, all⟩ := first.heard
  obtain ⟨more, grown', flags', rest⟩ := second.heard
  refine ⟨second.options.trans first.options, second.lastStatus.trans first.lastStatus,
    second.cwd.trans first.cwd, added ++ more, ?_, ?_, fun e member => ?_⟩
  · rw [grown', grown, List.append_assoc]
  · rw [flags', flags, SignalFlags.hearAll_append]
  · exact (List.mem_append.1 member).elim (all e) (rest e)

/-- What is new has every property that follows from the one it has. -/
theorem Heard.mono (weaker : ∀ e, P e → Q e) (h : Heard P s s') : Heard Q s s' := by
  obtain ⟨added, grown, flags, all⟩ := h.heard
  exact ⟨h.options, h.lastStatus, h.cwd, added, grown, flags, fun e member =>
    weaker e (all e member)⟩

theorem Heard.waiting (h : Heard P s s') : s'.flags.waiting = s.flags.waiting := by
  obtain ⟨added, -, flags, -⟩ := h.heard
  rw [flags, SignalFlags.waiting_hearAll]

/-- The shell goes on handling signals and nothing else. -/
theorem Meanwhile.trans (first : Meanwhile s s') (second : Meanwhile s' s'') : Meanwhile s s'' := by
  have second' : Heard (·.isMeanwhile s.flags.waiting = true) s' s'' := by
    rw [← first.waiting]
    exact second
  exact Heard.trans first second'

/-- What the shell says or notes is no news to it. -/
theorem heard_record {e : Entry} (deaf : ∀ n, e ≠ .received n) (allowed : P e) :
    Heard P s (s.record e) :=
  ⟨rfl, rfl, rfl, [e], rfl, (SignalFlags.hearAll_eq_self (by simpa using deaf)).symm,
    by simpa using allowed⟩

theorem heard_say {message : Message} (allowed : P (.said message)) : Heard P s (s.say message) :=
  heard_record (by simp) allowed

theorem meanwhile_files {m : Machine} (files : s.machine.Files m) :
    Meanwhile s { s with machine := m } := by
  obtain ⟨tree, opened, written, rfl, all⟩ := files
  refine ⟨rfl, rfl, rfl, written, rfl, ?_, fun e member => ?_⟩
  · refine (SignalFlags.hearAll_eq_self fun e member n same => ?_).symm
    have output := all e member
    rw [same] at output
    cases output
  · have output := all e member
    cases e with
    | written stream data => rfl
    | _ => cases output

/-! ### Signals -/

/-- During a wait a change of mode is noted, and shown later. -/
theorem toggleMode_of_waiting (waiting : s.flags.waiting = true) :
    s.toggleMode = { s with flags := s.flags.toggle.1 } := by
  rw [toggleMode, SignalFlags.toggle_of_waiting waiting]

/-- Outside a wait a change of mode is announced at once, and the prompt is shown again. -/
theorem toggleMode_of_not_waiting (idle : s.flags.waiting = false) :
    s.toggleMode = ({ s with flags := s.flags.toggle.1 }).sayAll
      [.notice (.ofMode (!s.flags.foregroundOnly)), .prompt s.options.prompt] := by
  rw [toggleMode, SignalFlags.toggle_of_not_waiting idle]

theorem meanwhile_receive (s : Session) (n : ShellSignal) : Meanwhile s (s.receive n) := by
  cases n with
  | interrupt =>
    exact ⟨rfl, rfl, rfl, [.received Signal.interrupt], rfl, rfl, by simp [Entry.isMeanwhile]⟩
  | childEnded =>
    exact ⟨rfl, rfl, rfl, [.received Signal.childEnded], rfl, rfl, by simp [Entry.isMeanwhile]⟩
  | terminalStop =>
    show Meanwhile s (s.record (.received Signal.terminalStop)).toggleMode
    cases waiting : s.flags.waiting with
    | true =>
      rw [toggleMode_of_waiting (s := s.record (.received Signal.terminalStop)) waiting]
      exact ⟨rfl, rfl, rfl, [.received Signal.terminalStop], rfl, rfl, by simp [Entry.isMeanwhile]⟩
    | false =>
      rw [toggleMode_of_not_waiting (s := s.record (.received Signal.terminalStop)) waiting]
      refine ⟨rfl, rfl, rfl, [.received Signal.terminalStop,
        .said (.notice (.ofMode (!s.flags.foregroundOnly))), .said (.prompt s.options.prompt)],
        ?_, rfl, by simp [Entry.isMeanwhile, waiting]⟩
      simp [sayAll, say, record, Machine.record]

/-! ### Children and events -/

theorem meanwhile_recordDeath (s : Session) (pid : Pid) (state : ChildState) :
    Meanwhile s (s.recordDeath pid state) := by
  cases state with
  | dead how => exact heard_record (by simp) rfl
  | _ => exact .refl _ s

/-- Of a child that changes the shell hears a signal. -/
theorem meanwhile_changeChild (s : Session) (pid : Pid) (change : Child → Child) :
    Meanwhile s (s.changeChild pid change) := by
  unfold changeChild
  split
  · exact .refl _ s
  · rename_i c _
    have changed : Meanwhile s { s with machine :=
        { s.machine with children := s.machine.children.modify pid change } } :=
      ⟨rfl, rfl, rfl, [], by simp, rfl, by simp⟩
    dsimp only
    split
    · exact changed
    · exact (changed.trans (meanwhile_recordDeath _ pid _)).trans (meanwhile_receive _ _)

theorem meanwhile_onJob (job : Nat) {action : Pid → Session}
    (h : ∀ pid, Meanwhile s (action pid)) : Meanwhile s (s.onJob job action) := by
  unfold onJob
  split
  · exact h _
  · exact .refl _ s

theorem meanwhile_apply (s : Session) (event : Event) : Meanwhile s (s.apply event) := by
  cases event with
  | signal n => exact meanwhile_receive s n
  | finish job code => exact meanwhile_onJob job fun pid => meanwhile_changeChild s pid _
  | kill job n => exact meanwhile_onJob job fun pid => meanwhile_changeChild s pid _
  | poke job n => exact meanwhile_onJob job fun pid => meanwhile_changeChild s pid _
  | halt job => exact meanwhile_onJob job fun pid => meanwhile_changeChild s pid _
  | exhaust on => exact ⟨rfl, rfl, rfl, [], by simp [apply], rfl, by simp⟩

theorem meanwhile_applyAll (s : Session) (events : List Event) :
    Meanwhile s (s.applyAll events) := by
  induction events generalizing s with
  | nil => exact .refl _ s
  | cons event events ih => exact (meanwhile_apply s event).trans (ih _)

/-! ### Children that run -/

/-- A program of a child writes, and may send signals to the shell. -/
theorem acrossRun_meanwhile : AcrossRun Machine.Files Meanwhile :=
  ⟨Machine.acrossUse_files, fun s => .refl _ s, .trans, meanwhile_files, meanwhile_receive⟩

theorem meanwhile_runChild (env : Environment) (c : Command) (argv : List String) (s : Session) :
    Meanwhile s (Launch.runChild env c argv s).1 :=
  acrossRun_meanwhile.runChild env c argv s

end Session

end JobShell
