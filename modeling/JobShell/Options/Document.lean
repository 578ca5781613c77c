import JobShell.Error
import JobShell.Json.Skip
import JobShell.Options

/-!
# Options from a document

The options of a shell can be set by a JSON document: an object with a member for each option that
is to differ from its default, in any order and among members of other names, or an array of the
options in the order of their declaration, as many as are wanted. The limits on arguments and on
lines must not be zero.
-/

namespace JobShell

/-- The options that a document can set, by the names of their members. -/
inductive OptionField where
  | prompt
  | maxJobs
  | maxArgs
  | maxLine
  deriving DecidableEq, Repr

/-- The options that a document sets. -/
structure Settings where
  prompt : Option String := none
  maxJobs : Option Nat := none
  maxArgs : Option Nat := none
  maxLine : Option Nat := none
  deriving DecidableEq, Repr

namespace OptionField

/-- The options in the order of their declaration. -/
def all : List OptionField :=
  [.prompt, .maxJobs, .maxArgs, .maxLine]

/-- The name of an option in a document. -/
def name : OptionField → String
  | .prompt => "prompt"
  | .maxJobs => "max_jobs"
  | .maxArgs => "max_args"
  | .maxLine => "max_line"

/-- The option of a name. -/
def ofName? (key : String) : Option OptionField :=
  all.find? fun f => f.name == key

end OptionField

namespace Settings

/-- Whether an option is set. -/
def sets (s : Settings) : OptionField → Bool
  | .prompt => s.prompt.isSome
  | .maxJobs => s.maxJobs.isSome
  | .maxArgs => s.maxArgs.isSome
  | .maxLine => s.maxLine.isSome

/-- The options with defaults for those that are not set. -/
def complete (s : Settings) : Options :=
  let defaults : Options := {}
  { prompt := s.prompt.getD defaults.prompt
    maxJobs := s.maxJobs.getD defaults.maxJobs
    maxArgs := s.maxArgs.getD defaults.maxArgs
    maxLine := s.maxLine.getD defaults.maxLine }

/-! ## Reading -/

/-- Reads the value of an option. -/
def readValue (s : Settings) (field : OptionField) (cs : List Char) :
    Except Json.Fault (Settings × List Char) :=
  match field with
  | .prompt => (Json.readString cs).map fun (v, r) => ({ s with prompt := some v }, r)
  | .maxJobs => (Json.readSize cs).map fun (n, r) => ({ s with maxJobs := some n }, r)
  | .maxArgs => (Json.readSize cs).map fun (n, r) => ({ s with maxArgs := some n }, r)
  | .maxLine => (Json.readSize cs).map fun (n, r) => ({ s with maxLine := some n }, r)

theorem length_readValue_le {s t : Settings} {field : OptionField} {cs rest : List Char}
    (h : s.readValue field cs = .ok (t, rest)) : rest.length ≤ cs.length := by
  unfold readValue at h
  cases field <;> obtain ⟨⟨v, r⟩, inner, same⟩ := Json.map_eq_ok h <;> cases same
  · exact Json.length_readString_le inner
  all_goals exact Json.length_readSize_le inner

/-- The fault of an option that is set a second time. It is found at the key, but placed behind the
white space after it, and behind the brace if the object ends there. -/
def duplicate (field : OptionField) (cs : List Char) : Json.Fault :=
  let rest := Json.trim cs
  .before (.duplicateField field.name) (if rest.head? == some '\x7d' then rest.tail else rest)

/-- Reads the rest of a member whose key has been read. -/
def readMember (s : Settings) (key : String) (cs : List Char) :
    Except Json.Fault (Settings × List Char) :=
  match OptionField.ofName? key with
  | some field =>
    if s.sets field then .error (duplicate field cs)
    else
      match Json.readColon cs with
      | .error e => .error e
      | .ok r => s.readValue field r
  | none =>
    match Json.readColon cs with
    | .error e => .error e
    | .ok r => (Json.skip r).map fun r => (s, r)

theorem length_readMember_le {s t : Settings} {key : String} {cs rest : List Char}
    (h : s.readMember key cs = .ok (t, rest)) : rest.length ≤ cs.length := by
  unfold readMember at h
  split at h
  · rename_i field _
    split at h
    · cases h
    split at h
    · cases h
    rename_i r colon
    have := Json.length_readColon_lt colon
    have := length_readValue_le h
    omega
  · split at h
    · cases h
    rename_i r colon
    obtain ⟨r', skipped, same⟩ := Json.map_eq_ok h
    cases same
    have := Json.length_readColon_lt colon
    have := Json.length_skip_lt skipped
    omega

/-- Reads the members of an object up to its brace. -/
def readMembers (s : Settings) (first : Bool) (cs : List Char) :
    Except Json.Fault (Settings × List Char) :=
  match _key : Json.nextKey first cs with
  | .error e => .error e
  | .ok (none, r) => .ok (s, r)
  | .ok (some key, r) =>
    match _member : s.readMember key r with
    | .error e => .error e
    | .ok (s, r) => s.readMembers false r
termination_by cs.length
decreasing_by
  exact Nat.lt_of_le_of_lt (length_readMember_le _member) (Json.length_nextKey_lt _key)

/-- Reads the elements of an array, one for each option, up to its bracket. -/
def readElements : List OptionField → Bool → Settings → List Char →
    Except Json.Fault (Settings × List Char)
  | [], _, s, cs => .ok (s, cs)
  | field :: fields, first, s, cs =>
    match Json.nextElement first cs with
    | .error e => .error e
    | .ok (false, r) => .ok (s, r)
    | .ok (true, r) =>
      match s.readValue field r with
      | .error e => .error e
      | .ok (s, r) => readElements fields false s r

/-- Reads an object or an array of options. -/
def read (cs : List Char) : Except Json.Fault (Settings × List Char) :=
  match Json.readHead cs with
  | .error e => .error e
  | .ok (.object, r) =>
    match readMembers {} true r.tail with
    | .error e => .error e
    | .ok (s, r) => (Json.endObject r).map fun r => (s, r)
  | .ok (.array, r) =>
    match readElements OptionField.all true {} r.tail with
    | .error e => .error e
    | .ok (s, r) => (Json.endArray r).map fun r => (s, r)
  | .ok (found, r) => .error (.before (.wrongType found "struct ShOpts") r)

/-- The settings of a whole document. -/
def ofDocument (document : List Char) : Except Json.Fault Settings :=
  match read document with
  | .error e => .error e
  | .ok (s, r) => (Json.endDocument r).map fun () => s

end Settings

namespace Options

/-- What is said of limits that are zero. -/
def zeroLimit : String :=
  "max_args and max_line must be greater than zero"

/-- Whether a shell can work with the options. -/
def isUsable (o : Options) : Bool :=
  o.maxArgs != 0 && o.maxLine != 0

/-- The options that a document gives. -/
def ofDocument (document : String) : Except ShellError Options :=
  match Settings.ofDocument document.toList with
  | .error e => .error (.config (e.message document.toList))
  | .ok s => if s.complete.isUsable then .ok s.complete else .error (.config zeroLimit)

end Options

end JobShell
