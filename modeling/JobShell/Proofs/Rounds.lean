import JobShell.Proofs.Admission
import JobShell.Proofs.Answers
import JobShell.Proofs.Lines

/-!
# Whole rounds

What a round of the loop does to the shell and to the transcript, from one prompt to the next: the
notices that were held back and the prompt, what happens while the shell waits for a line, the line
itself, and the pass of the reaper.

* `round_concludes`: a round makes no foreground child (`Passed`), or makes one and waits for it
  (`Waited`).
* `AtPrompt.waited`: so all that the transcript tells at a prompt of a foreground child stands
  between two prompts, and the notices of what has happened meanwhile come after it.
-/

namespace JobShell

/-! ## Parts of a transcript -/

/-- Whether an entry may appear while the shell waits for a line. -/
def Entry.IsPrompting (e : Entry) : Prop :=
  e.isMeanwhile false = true ∨ e = .awaiting

/-- Whether an entry may appear after a line is done and before the next one: the report on its
error, and the pass of the reaper. -/
def Entry.isClosing : Entry → Bool
  | .collected _ => true
  | .said (.done _ _) => true
  | .said (.failure _) => true
  | _ => false

/-- What a transcript tells of a foreground child that has been waited for: `during` is what happened
while it ran, `closing` what followed the line about its end. -/
def Transcript.ofWait (pid : Pid) (how : Termination) (during closing : Transcript) : Transcript :=
  (.forked pid false :: during) ++ (.collected pid :: (how.interruption ++ closing))

theorem Transcript.mem_ofWait {pid : Pid} {how : Termination} {during closing : Transcript}
    {e : Entry} (member : e ∈ Transcript.ofWait pid how during closing) :
    e = .forked pid false ∨ e ∈ during ∨ e = .collected pid ∨ e = .said (.interrupted how) ∨
      e ∈ closing := by
  rcases List.mem_append.1 member with first | last
  · rcases List.mem_cons.1 first with forked | meanwhile
    · exact .inl forked
    · exact .inr (.inl meanwhile)
  rcases List.mem_cons.1 last with collected | after
  · exact .inr (.inr (.inl collected))
  rcases List.mem_append.1 after with told | closed
  · exact .inr (.inr (.inr (.inl (eq_of_mem_interruption told))))
  · exact .inr (.inr (.inr (.inr closed)))

namespace Session

variable {env : Environment} {start s s' p t w last : Session} {r : Reading} {piece : Bytes}
variable {how : Termination} {during closing : Transcript} {pid : Pid}

/-! ## Before a line -/

/-- What the shell says before it waits for a line. -/
def shows (s : Session) : Transcript :=
  Transcript.ofNotices s.flags.pending ++ [.said (.prompt s.options.prompt)]

/-- The notices that were held back are shown, and then the prompt. -/
theorem shown_eq (s : Session) : s.showNotices.say (.prompt s.options.prompt) =
    { s with
      flags := s.flags.takeNotices.1
      machine := { s.machine with transcript := s.machine.transcript ++ s.shows } } := by
  rw [showNotices_eq, sayAll_eq]
  simp [say, record, Machine.record, shows, Transcript.ofNotices, SignalFlags.takeNotices]

/-- While the shell waits for a line, notices are shown at once. -/
theorem heard_await (idle : s.flags.waiting = false) (waits : List (List Event)) :
    Heard Entry.IsPrompting s (waits.foldl await s) := by
  induction waits generalizing s with
  | nil => exact .refl _ s
  | cons events waits ih =>
    have waiting : Heard Entry.IsPrompting s (s.record .awaiting) :=
      heard_record (by simp) (.inr rfl)
    have happened : Meanwhile (s.record .awaiting) (s.await events) := meanwhile_applyAll _ events
    have idle' : (s.record .awaiting).flags.waiting = false := idle
    rw [Meanwhile, idle'] at happened
    have first : Heard Entry.IsPrompting s (s.await events) :=
      waiting.trans (happened.mono fun e => .inl)
    exact first.trans (ih (first.waiting.trans idle))

/-- What the shell hears up to the line, from its prompt on. -/
theorem heard_prompted (idle : s.flags.waiting = false) (waits : List (List Event)) :
    Heard Entry.IsPrompting (s.showNotices.say (.prompt s.options.prompt)) (s.prompted waits) := by
  have idle' : (s.showNotices.say (.prompt s.options.prompt)).flags.waiting = false := by
    rw [shown_eq]
    exact idle
  exact heard_await idle' waits

/-- The session `p` comes after `s`: the shell has shown what was held back and its prompt, and has
waited for a line. -/
structure Prompted (s p : Session) : Prop where
  options : p.options = s.options
  lastStatus : p.lastStatus = s.lastStatus
  heard : ∃ added, p.machine.transcript = s.machine.transcript ++ s.shows ++ added ∧
    p.flags = s.flags.takeNotices.1.hearAll added ∧ ∀ e ∈ added, e.IsPrompting

/-- A shell that waits for no child shows its notices and its prompt, and waits. -/
theorem prompted_of_idle (idle : s.flags.waiting = false) (waits : List (List Event)) :
    Prompted s (s.prompted waits) := by
  have heard := heard_prompted idle waits
  rw [shown_eq] at heard
  exact ⟨heard.options, heard.lastStatus, heard.heard⟩

theorem Prompted.waiting (prompted : Prompted s p) : p.flags.waiting = s.flags.waiting := by
  obtain ⟨added, -, flags, -⟩ := prompted.heard
  rw [flags, SignalFlags.waiting_hearAll]
  rfl

/-- While the shell waits for a line, no notice is held back. -/
theorem Prompted.pending (prompted : Prompted s p) (idle : s.flags.waiting = false) :
    p.flags.pending = [] := by
  obtain ⟨added, -, flags, -⟩ := prompted.heard
  have taken : s.flags.takeNotices.1.pending = [] := rfl
  rw [flags, SignalFlags.pending_hearAll]
  exact SignalFlags.pending_toggled_of_not_waiting (f := s.flags.takeNotices.1) idle taken _

/-- All that comes before a line comes from outside. -/
theorem outside_taken (waits : List (List Event)) (piece : Bytes) (s : Session) :
    Outside s ((s.prompted waits).record (.taken piece)) :=
  (outside_prompted waits s).trans (quiet_record rfl).outside

/-! ## After a line -/

/-- The session `t` comes after `s`: errors have been reported and children collected. -/
structure Closed (s t : Session) : Prop where
  options : t.options = s.options
  lastStatus : t.lastStatus = s.lastStatus
  flags : t.flags = s.flags.takeChildEnded.1
  transcript : s.machine.transcript.Extends (·.isClosing = true) t.machine.transcript

/-- The drain leaves options, status and flags alone. -/
theorem Reaped.frame {result : Session × Outcome} (h : Reaped s result) :
    result.1.options = s.options ∧ result.1.lastStatus = s.lastStatus ∧
      result.1.flags = s.flags := by
  induction h with
  | idle _ => exact ⟨rfl, rfl, rfl⟩
  | lost _ _ => exact ⟨rfl, rfl, rfl⟩
  | next _ _ _ ih => exact ih

/-- The pass after a line reports and collects. -/
theorem closed_afterLine (s : Session) : Closed s s.afterLine := by
  cases ended : s.flags.childEnded with
  | false =>
    have flags : s.flags = s.flags.takeChildEnded.1 := by
      rw [SignalFlags.takeChildEnded, ← ended]
    rw [afterLine_of_calm ended]
    exact ⟨rfl, rfl, flags, .refl _ _⟩
  | true =>
    have pass := reaped_reap s.calm
    obtain ⟨options, lastStatus, flags⟩ := pass.frame
    have collected : s.machine.transcript.Extends (·.isClosing = true)
        s.calm.reap.1.machine.transcript := by
      refine pass.extends.mono fun e reaping => ?_
      cases e with
      | said message => cases message <;> first | rfl | cases reaping
      | _ => first | rfl | cases reaping
    rw [afterLine_eq ended]
    split <;> rename_i result <;> rw [result] at options lastStatus flags collected
    · exact ⟨options, lastStatus, flags, collected.trans (.single rfl)⟩
    · exact ⟨options, lastStatus, flags, collected⟩

theorem closed_report (s : Session) (e : ShellError) : Closed s (s.report e).afterLine := by
  obtain ⟨options, lastStatus, flags, transcript⟩ := closed_afterLine (s.report e)
  exact ⟨options, lastStatus, flags, .trans (.single rfl) transcript⟩

/-! ## A round -/

/-- The session `t` comes after `p`: a line has been handled without a foreground child. A background
child is made only outside foreground-only mode. -/
structure Passed (p t : Session) : Prop where
  options : t.options = p.options
  lastStatus : t.lastStatus = p.lastStatus
  heard : ∃ added, t.machine.transcript = p.machine.transcript ++ added ∧
    t.flags = (p.flags.hearAll added).takeChildEnded.1 ∧
    ∀ q background, .forked q background ∈ added →
      background = true ∧ p.flags.foregroundOnly = false

/-- The session `t` comes after `p`: a foreground child has been made and waited for and has ended. -/
structure Waited (p t : Session) (how : Termination) (during closing : Transcript) : Prop where
  options : t.options = p.options
  lastStatus : t.lastStatus = if how.isClassic then how else p.lastStatus
  transcript : t.machine.transcript =
    p.machine.transcript ++ Transcript.ofWait p.newPid how during closing
  flags : t.flags =
    (((p.flags.setWaiting true).hearAll during).setWaiting false).takeChildEnded.1
  meanwhile : ∀ e ∈ during, e.isMeanwhile true = true
  closing : ∀ e ∈ closing, e.isClosing = true
  died : p.Fresh → .died p.newPid how ∈ during

/-- What a line can come to by the end of its round. -/
inductive Concluded (p t : Session) : Prop
  | passed : Passed p t → Concluded p t
  | waited {how : Termination} {during closing : Transcript} : Waited p t how during closing →
    Concluded p t

/-- Nothing is heard in the pass after a line. -/
theorem hearAll_of_closing {f : SignalFlags} (all : ∀ e ∈ closing, e.isClosing = true) :
    f.hearAll closing = f := by
  apply SignalFlags.hearAll_eq_self
  rintro e member n rfl
  cases all _ member

/-- Whether an entry may appear while a line is handled that makes no foreground child. -/
def IsPassing (p : Session) (e : Entry) : Prop :=
  ∀ q background, e = .forked q background → background = true ∧ p.flags.foregroundOnly = false

/-- A line without a foreground child, and its end. -/
theorem Heard.passed (heard : Heard (IsPassing p) p s) (closed : Closed s t) :
    Passed p t := by
  obtain ⟨added, grown, flags, all⟩ := heard.heard
  obtain ⟨closing, grown', closings⟩ := closed.transcript
  refine ⟨closed.options.trans heard.options, closed.lastStatus.trans heard.lastStatus,
    added ++ closing, ?_, ?_, fun q background member => ?_⟩
  · rw [grown', grown, List.append_assoc]
  · rw [closed.flags, flags, SignalFlags.hearAll_append, hearAll_of_closing closings]
  · rcases List.mem_append.1 member with early | late
    · exact all _ early q background rfl
    · cases closings _ late

theorem Begun.heard (begun : Begun p w) : Heard (IsPassing p) p
    ((w.track p.newPid).say (.started p.newPid)) := by
  obtain ⟨own, meanwhile⟩ := begun.meanwhile
  have forked : Heard (IsPassing p) p (p.addChild own true).1 := by
    refine ⟨rfl, rfl, rfl, [.forked p.newPid true], rfl, rfl, ?_⟩
    simp [IsPassing, begun.allowed]
  have ran : Heard (IsPassing p) (p.addChild own true).1 w := by
    refine meanwhile.mono ?_
    rintro e allowed q background rfl
    cases allowed
  have tracked : Heard (IsPassing p) w (w.track p.newPid) :=
    ⟨rfl, rfl, rfl, [], by simp [track], rfl, by simp⟩
  exact ((forked.trans ran).trans tracked).trans (heard_say (by simp [IsPassing]))

/-- A line with a foreground child, from the fork to its end. -/
theorem Attended.waited (attended : Attended p w (.dead how))
    (closed : Closed ((w.afterWait p.newPid).noteEnd how.decode).1 t) :
    ∃ during closing, Waited p t how during closing := by
  obtain ⟨options, lastStatus, -, during, whole, flags, all⟩ := attended.heard
  obtain ⟨closing, grown, closings⟩ := closed.transcript
  obtain ⟨options', flags', lastStatus', told⟩ := noteEnd_frame (w.afterWait p.newPid) how
  exact ⟨during, closing, {
    options := closed.options.trans (options'.trans options)
    lastStatus := by
      have before : (w.afterWait p.newPid).lastStatus = p.lastStatus := lastStatus
      rw [closed.lastStatus, lastStatus', before]
    transcript := by
      have collected : (w.afterWait p.newPid).machine.transcript =
          w.machine.transcript ++ [.collected p.newPid] := rfl
      rw [grown, told, collected, whole, Transcript.ofWait]
      simp
    flags := by
      have lowered : (w.afterWait p.newPid).flags = w.flags.setWaiting false := rfl
      rw [closed.flags, flags', lowered, flags]
    meanwhile := all
    closing := closings
    died := fun fresh => attended.died fresh whole }⟩

/-- What a line comes to by the end of its round. -/
theorem Answered.concluded {result : Session × Outcome} (answered : Answered p result)
    (moves : ∀ pid, result.2 ≠ .stuck pid) (closed : Closed result.1 t) : Concluded p t := by
  cases answered with
  | idle => exact .passed (Heard.passed (.refl _ p) closed)
  | refused e => exact .passed (Heard.passed (.refl _ p) closed)
  | moved cwd =>
    have passed : Passed { p with machine := { p.machine with cwd } } t :=
      Heard.passed (.refl _ _) closed
    exact .passed ⟨passed.options, passed.lastStatus, passed.heard⟩
  | told =>
    have said : Heard (IsPassing p) p (p.say (.status p.lastStatus)) :=
      heard_say (by simp [IsPassing])
    exact .passed (said.passed closed)
  | begun begun => exact .passed (begun.heard.passed closed)
  | awaited attended =>
    obtain ⟨during, closing, waited⟩ := attended.waited closed
    exact .waited waited
  | stuck _ _ => exact absurd rfl (moves _)

/-- A round after which the loop goes on ends with the pass of the reaper. -/
theorem closed_round (goes_on : (s.round env r).2 = none) :
    (∀ pid, (s.step env r).2 ≠ .stuck pid) ∧ (∀ code, (s.step env r).2 ≠ .error (.exit code)) ∧
      Closed (s.step env r).1 (s.round env r).1 := by
  rw [round_eq] at goes_on ⊢
  split at goes_on <;> rename_i result
  · rw [result]
    exact ⟨by simp, by simp, closed_afterLine _⟩
  · cases goes_on
  · rename_i x e stays
    rw [result]
    refine ⟨by simp, fun code same => ?_, closed_report _ _⟩
    cases same
    exact stays code rfl
  · cases goes_on

/-- A round meets the end of input or handles a line. -/
theorem answered_step (idle : s.flags.waiting = false) (env : Environment) (r : Reading) :
    (r.piece = none ∧ s.step env r = (s.prompted r.waits, .error (.exit 0))) ∨
      ∃ piece, r.piece = some piece ∧
        Answered ((s.prompted r.waits).record (.taken piece)) (s.step env r) := by
  rw [step_eq]
  split <;> rename_i taken
  · exact .inl ⟨taken, rfl⟩
  · rename_i piece
    have idle' : ((s.prompted r.waits).record (.taken piece)).flags.waiting = false :=
      (prompted_of_idle idle r.waits).waiting.trans idle
    exact .inr ⟨piece, taken, answered_handlePiece env piece r.meanwhile idle'⟩

/-- A round after which the loop goes on takes a line, and makes no foreground child or waits for
the one that it makes. -/
theorem round_concludes (idle : s.flags.waiting = false) (goes_on : (s.round env r).2 = none) :
    ∃ piece, r.piece = some piece ∧
      Concluded ((s.prompted r.waits).record (.taken piece)) (s.round env r).1 := by
  obtain ⟨moves, stays, closed⟩ := closed_round goes_on
  rcases answered_step idle env r with ⟨-, ended⟩ | ⟨piece, taken, answered⟩
  · rw [ended] at stays
    exact absurd rfl (stays 0)
  · exact ⟨piece, taken, answered.concluded moves closed⟩

/-! ## Runs -/

/-- In a run from `start` to `s` the options have stayed the same, and the mode is what the signals
make of it; the shell does not wait for a foreground command. -/
structure Steady (start s : Session) : Prop where
  options : s.options = start.options
  idle : s.flags.waiting = false
  mode : s.flags.foregroundOnly = s.machine.transcript.flips

/-- Where things stand steady, they can be counted from there. -/
theorem Steady.self (steady : Steady start s) : Steady s s :=
  ⟨rfl, steady.idle, steady.mode⟩

theorem flips_shows (s : Session) : s.shows.flips = false := by
  apply Transcript.flips_of_deaf
  rintro e member n rfl
  simp [shows, Transcript.ofNotices] at member

/-- Up to a line the mode follows the terminal stops. -/
theorem Prompted.steady (prompted : Prompted s p) (steady : Steady start s) : Steady start p := by
  obtain ⟨added, grown, flags, -⟩ := prompted.heard
  refine ⟨prompted.options.trans steady.options, prompted.waiting.trans steady.idle, ?_⟩
  have mode : s.flags.takeNotices.1.foregroundOnly = s.flags.foregroundOnly := rfl
  rw [flags, grown, SignalFlags.foregroundOnly_hearAll, Transcript.flips_append,
    Transcript.flips_append, flips_shows, Bool.xor_false, mode, steady.mode]

/-- A line without a foreground child keeps it so. -/
theorem Passed.steady (passed : Passed p t) (steady : Steady start p) : Steady start t := by
  obtain ⟨added, grown, flags, -⟩ := passed.heard
  refine ⟨passed.options.trans steady.options, ?_, ?_⟩
  · rw [flags]
    exact SignalFlags.waiting_hearAll.trans steady.idle
  · have mode : (p.flags.hearAll added).takeChildEnded.1.foregroundOnly =
        (p.flags.hearAll added).foregroundOnly := rfl
    rw [flags, mode, SignalFlags.foregroundOnly_hearAll, grown, Transcript.flips_append,
      steady.mode]

/-- The only child in a wait is the one that is waited for. -/
theorem Waited.eq_of_forked (waited : Waited p t how during closing) {background : Bool}
    (member : .forked pid background ∈ Transcript.ofWait p.newPid how during closing) :
    pid = p.newPid ∧ background = false := by
  rcases Transcript.mem_ofWait member with forked | meanwhile | collected | told | closed
  · cases forked
    exact ⟨rfl, rfl⟩
  · cases waited.meanwhile _ meanwhile
  · cases collected
  · cases told
  · cases waited.closing _ closed

/-- The signals that come after a foreground child was made come while it runs. -/
theorem Waited.flips (waited : Waited p t how during closing) :
    t.machine.transcript.flips = (p.machine.transcript.flips ^^ during.flips) := by
  have after : Transcript.flips (.collected p.newPid :: (how.interruption ++ closing)) = false := by
    apply Transcript.flips_of_deaf
    rintro e member n rfl
    rcases List.mem_cons.1 member with same | member
    · cases same
    · rcases List.mem_append.1 member with told | closed
      · cases eq_of_mem_interruption told
      · cases waited.closing _ closed
  have before : Transcript.flips (.forked p.newPid false :: during) = during.flips := rfl
  rw [waited.transcript, Transcript.ofWait, Transcript.flips_append, Transcript.flips_append, before,
    after, Bool.xor_false]

/-- A line with a foreground child keeps it so; the stops during the wait are told after it. -/
theorem Waited.steady (waited : Waited p t how during closing) (steady : Steady start p) :
    Steady start t := by
  refine ⟨waited.options.trans steady.options, by rw [waited.flags]; rfl, ?_⟩
  have mode : t.flags.foregroundOnly = ((p.flags.setWaiting true).hearAll during).foregroundOnly := by
    rw [waited.flags]
    rfl
  have same : (p.flags.setWaiting true).foregroundOnly = p.flags.foregroundOnly := rfl
  rw [mode, SignalFlags.foregroundOnly_hearAll, same, steady.mode, waited.flips]

theorem Concluded.steady (concluded : Concluded p t) (steady : Steady start p) :
    Steady start t := by
  cases concluded with
  | passed passed => exact passed.steady steady
  | waited waited => exact waited.steady steady

theorem Steady.taken (steady : Steady start p) (piece : Bytes) :
    Steady start (p.record (.taken piece)) := by
  refine ⟨steady.options, steady.idle, ?_⟩
  have silent : Transcript.flips [.taken piece] = false := rfl
  show p.flags.foregroundOnly = Transcript.flips (p.machine.transcript ++ [.taken piece])
  rw [Transcript.flips_append, silent, Bool.xor_false, steady.mode]

/-- What a read takes from the shared input changes the machine and tells nothing. -/
theorem supply_eq (s : Session) (r : Reading) : ∃ machine : Machine,
    (s.supply r).1 = { s with machine } ∧ machine.transcript = s.machine.transcript := by
  unfold supply
  split
  · exact ⟨s.machine, rfl, rfl⟩
  · exact ⟨_, rfl, Machine.transcript_readFrom _ _ _ _⟩

/-- The mode follows the terminal stops at every prompt of a run. -/
theorem Reaches.steady (reach : Reaches env start s) (steady : Steady start start) :
    Steady start s := by
  induction reach with
  | refl => exact steady
  | @supply s r _ ih =>
    obtain ⟨machine, same, transcript⟩ := supply_eq s r
    rw [same]
    exact ⟨ih.options, ih.idle, transcript ▸ ih.mode⟩
  | @round s r _ goes_on ih =>
    obtain ⟨piece, -, concluded⟩ := round_concludes ih.idle goes_on
    exact concluded.steady (((prompted_of_idle ih.idle r.waits).steady ih).taken piece)

theorem steady_initial (options : Options) (tree : FileTree) (cwd : Place) (nextPid : Pid)
    (input : Bytes) : Steady (initial options tree cwd nextPid input)
      (initial options tree cwd nextPid input) :=
  ⟨rfl, rfl, rfl⟩

/-- At a prompt no notice is held back. -/
theorem AtPrompt.steady (prompt : AtPrompt env start p) (steady : Steady start start) :
    Steady start p ∧ p.flags.pending = [] := by
  obtain ⟨last, waits, reach, rfl⟩ := prompt
  have before := reach.steady steady
  have prompted := prompted_of_idle before.idle waits
  exact ⟨prompted.steady before, prompted.pending before.idle⟩

/-! ## Foreground children at a prompt -/

/-- A round takes nothing back of what has been told. -/
theorem Concluded.extends (concluded : Concluded p t) :
    ∃ added, t.machine.transcript = p.machine.transcript ++ added := by
  cases concluded with
  | passed passed =>
    obtain ⟨added, grown, -⟩ := passed.heard
    exact ⟨added, grown⟩
  | waited waited => exact ⟨_, waited.transcript⟩

/-- The first thing after a round is that the shell shows what it held back, and its prompt. -/
theorem Reaches.shown (reach : Reaches env t last) (steady : Steady t t) :
    (last.machine.transcript = t.machine.transcript ∧ last.shows = t.shows) ∨
      ∃ rest, last.machine.transcript = t.machine.transcript ++ t.shows ++ rest := by
  induction reach with
  | refl => exact .inl ⟨rfl, rfl⟩
  | @supply s r _ ih =>
    obtain ⟨machine, same, transcript⟩ := supply_eq s r
    rw [same]
    rcases ih with ⟨still, shows⟩ | ⟨rest, grown⟩
    · exact .inl ⟨transcript.trans still, shows⟩
    · exact .inr ⟨rest, transcript.trans grown⟩
  | @round s r reach goes_on ih =>
    have idle := (reach.steady steady).idle
    obtain ⟨piece, -, concluded⟩ := round_concludes idle goes_on
    obtain ⟨added, grown⟩ := concluded.extends
    obtain ⟨happened, prompted, -⟩ := (prompted_of_idle idle r.waits).heard
    have whole : (s.round env r).1.machine.transcript =
        s.machine.transcript ++ s.shows ++ (happened ++ [.taken piece] ++ added) := by
      rw [grown]
      show (s.prompted r.waits).machine.transcript ++ [.taken piece] ++ added = _
      rw [prompted]
      simp
    refine .inr ?_
    rcases ih with ⟨still, shows⟩ | ⟨rest, earlier⟩
    · exact ⟨_, by rw [whole, still, shows]⟩
    · exact ⟨rest ++ (s.shows ++ (happened ++ [.taken piece] ++ added)), by
        rw [whole, earlier]
        simp⟩

/-- What was held back at a prompt is shown there and stays shown. -/
theorem Reaches.shown_at_prompt (reach : Reaches env t last) (steady : Steady t t)
    (waits : List (List Event)) :
    ∃ rest, (last.prompted waits).machine.transcript = t.machine.transcript ++ t.shows ++ rest := by
  obtain ⟨happened, prompted, -⟩ := (prompted_of_idle (reach.steady steady).idle waits).heard
  rcases reach.shown steady with ⟨still, shows⟩ | ⟨rest, grown⟩
  · exact ⟨happened, by rw [prompted, still, shows]⟩
  · exact ⟨rest ++ (last.shows ++ happened), by
      rw [prompted, grown]
      simp⟩

/-- The transcript at a prompt tells of a foreground child in one piece: from the round in which the
shell has made it and waited for it to what the shell has shown after that. -/
structure WaitedAt (start p q t : Session) (how : Termination) (during closing : Transcript) :
    Prop where
  steady : Steady start q
  pending : q.flags.pending = []
  orderly : q.Orderly
  waited : Waited q t how during closing
  shown : ∃ rest, p.machine.transcript = t.machine.transcript ++ t.shows ++ rest

/-- A foreground child that is new after a round has been waited for in it. -/
theorem Concluded.waited_of_forked (concluded : Concluded p t)
    (new : .forked pid false ∉ p.machine.transcript)
    (here : .forked pid false ∈ t.machine.transcript) :
    ∃ how during closing, p.newPid = pid ∧ Waited p t how during closing := by
  cases concluded with
  | passed passed =>
    obtain ⟨added, grown, -, all⟩ := passed.heard
    rw [grown] at here
    cases (all _ _ ((List.mem_append.1 here).resolve_left new)).1
  | @waited how during closing waited =>
    rw [waited.transcript] at here
    have made := waited.eq_of_forked ((List.mem_append.1 here).resolve_left new)
    exact ⟨how, during, closing, made.1.symm, waited⟩

/-- Every foreground child that a transcript tells of has been waited for in some round, and what
was held back meanwhile was shown at the next prompt. -/
theorem AtPrompt.waited (prompt : AtPrompt env start p) (orderly : start.Orderly)
    (steady : Steady start start) (empty : start.machine.transcript = [])
    (forked : .forked pid false ∈ p.machine.transcript) :
    ∃ q t how during closing, q.newPid = pid ∧ WaitedAt start p q t how during closing := by
  obtain ⟨last, waits, reach, rfl⟩ := prompt
  have not_aside : ¬ (Entry.forked pid false).isAside = true := by simp [Entry.isAside, Entry.child?]
  have before : .forked pid false ∈ last.machine.transcript :=
    (outside_prompted waits last).transcript.mem_of_not forked not_aside
  have tells : (Entry.forked pid false).child? = some pid := rfl
  obtain ⟨s, r, earlier, goes_on, later, new, here⟩ :=
    reach.exists_round tells (empty ▸ List.not_mem_nil) before
  have now := earlier.steady steady
  have prompted := prompted_of_idle now.idle r.waits
  obtain ⟨piece, -, concluded⟩ := round_concludes now.idle goes_on
  have taken := outside_taken r.waits piece s
  obtain ⟨how, during, closing, same, waited⟩ :=
    concluded.waited_of_forked (fun member => new (taken.transcript.mem_of_not member not_aside)) here
  have steady' := (prompted.steady now).taken piece
  exact ⟨_, _, how, during, closing, same, {
    steady := steady'
    pending := prompted.pending now.idle
    orderly := (earlier.orderly orderly).outside taken
    waited := waited
    shown := later.shown_at_prompt (waited.steady steady').self waits }⟩

end Session

end JobShell
