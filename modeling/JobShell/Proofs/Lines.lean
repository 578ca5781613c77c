import JobShell.Transcript

/-!
# Lines on the streams

A transcript keeps what the shell says as messages. Here stand the texts of some of them as the user
reads them, and where they appear: what an entry shows lies between what the entries before it and
those after it show (`Transcript.ShowsBetween`).

* `Transcript.showsBetween_of_eq`: so it is for each entry.
* `bytesOn_started`, `bytesOn_done`, `bytesOn_interrupted`, `bytesOn_status`, `bytesOn_notice`: what
  the messages show.
-/

namespace JobShell

/-! ## Texts -/

/-- The line that announces a background child, whose process id is shown as `job`. -/
def startedLine (job : String) : String :=
  "background pid is " ++ job ++ "\n"

/-- The line that reports the end of a background child: with its exit code, or with the signal that
has killed it. -/
def doneLine (job : String) : Termination → String
  | .exited code =>
    "background pid " ++ job ++ " is done: " ++ ("exit value " ++ toString code) ++ "\n"
  | .signaled n =>
    "background pid " ++ job ++ " is done: " ++ ("terminated by signal " ++ toString n) ++ "\n"

/-- The line about the end of a foreground child that a signal has killed. -/
def killedLine (n : Signal) : String :=
  "terminated by signal " ++ toString n ++ "\n"

/-- The line that shows the last status. -/
def statusLine : Termination → String
  | .exited code => "exit status " ++ toString code ++ "\n"
  | .signaled n => killedLine n

/-- The text that tells of a change of mode. -/
def noticeText : ModeNotice → String
  | .entered => "\nEntering foreground-only mode (& is now ignored)\n"
  | .exited => "\nExiting foreground-only mode\n"

namespace Entry

variable {name : Pid → String} {pid : Pid} {how : Termination}

theorem bytesOn_started :
    (said (.started pid)).bytesOn name .out = Text.encode (startedLine (name pid)) :=
  rfl

/-- A report on a background child as it appears. -/
theorem bytesOn_done :
    (said (.done pid how)).bytesOn name .out = Text.encode (doneLine (name pid) how) := by
  cases how <;> rfl

/-- The line about a foreground child that a signal has killed. -/
theorem bytesOn_interrupted {n : Signal} :
    (said (.interrupted (.signaled n))).bytesOn name .out = Text.encode (killedLine n) :=
  rfl

theorem bytesOn_status :
    (said (.status how)).bytesOn name .out = Text.encode (statusLine how) := by
  cases how <;> rfl

/-- A notice of a change of mode as it appears. -/
theorem bytesOn_notice (notice : ModeNotice) :
    (said (.notice notice)).bytesOn name .out = Text.encode (noticeText notice) := by
  cases notice <;> rfl

theorem bytesOn_prompt (shown : String) :
    (said (.prompt shown)).bytesOn name .out = Text.encode shown :=
  rfl

end Entry

namespace Transcript

variable {t before after : Transcript} {e : Entry} {name : Pid → String} {stream : Stream}
variable {text : (Pid → String) → String}

@[simp] theorem bytesOn_nil : bytesOn name stream [] = [] :=
  rfl

@[simp] theorem bytesOn_cons :
    bytesOn name stream (e :: t) = e.bytesOn name stream ++ t.bytesOn name stream :=
  List.flatMap_cons

@[simp] theorem bytesOn_append : bytesOn name stream (before ++ after) =
    before.bytesOn name stream ++ after.bytesOn name stream :=
  List.flatMap_append

/-- What appears on standard output is a text, with what `before` shows in front of it and what
`after` shows behind it, however process ids are shown. -/
def ShowsBetween (t before : Transcript) (text : (Pid → String) → String) (after : Transcript) :
    Prop :=
  ∀ name, t.bytesOn name .out =
    before.bytesOn name .out ++ Text.encode (text name) ++ after.bytesOn name .out

/-- An entry shows its text at its own place. -/
theorem showsBetween_of_eq (whole : t = before ++ e :: after)
    (shown : ∀ name, e.bytesOn name .out = Text.encode (text name)) :
    t.ShowsBetween before text after := by
  intro name
  rw [whole, bytesOn_append, bytesOn_cons, shown, List.append_assoc]

/-- A report stands between what appears before it and what appears after it. -/
theorem showsBetween_done {pid : Pid} {how : Termination}
    (whole : t = before ++ .said (.done pid how) :: after) :
    t.ShowsBetween before (fun name => doneLine (name pid) how) after :=
  showsBetween_of_eq whole fun _ => Entry.bytesOn_done

theorem showsBetween_started {pid : Pid} (whole : t = before ++ .said (.started pid) :: after) :
    t.ShowsBetween before (fun name => startedLine (name pid)) after :=
  showsBetween_of_eq whole fun _ => Entry.bytesOn_started

/-- Changes of mode, shown one after the other. -/
def ofNotices (notices : List ModeNotice) : Transcript :=
  notices.map fun notice => .said (.notice notice)

theorem bytesOn_ofNotices (notices : List ModeNotice) :
    bytesOn name .out (ofNotices notices) =
      notices.flatMap fun notice => Text.encode (noticeText notice) := by
  induction notices with
  | nil => rfl
  | cons notice notices ih =>
    have first : ofNotices (notice :: notices) = .said (.notice notice) :: ofNotices notices := rfl
    rw [first, bytesOn_cons, Entry.bytesOn_notice, ih, List.flatMap_cons]

end Transcript

end JobShell
