import JobShell.Options.Document
import JobShell.Proofs.Entries
import Mathlib.Tactic.Tauto

/-!
# Documents of options

A document tells the values of some options: an object those that its members name, in any order and
among members of other names, an array those of the first options in the order of their declaration.
Everything that is told is taken, each option once, or the document is refused; options that are not
told keep their defaults, and the limits must not be zero in the end.

* `Settings.Taken`: what a document tells is taken one by one.
* `Settings.ofDocument_iff`: a document is read exactly as what it tells is taken.
* `options_of_document`: the options that a document gives, and the documents that are refused.
-/

namespace JobShell

open Json

/-! ## Options by name -/

/-- The value of an option. -/
inductive OptionValue where
  | text (s : String)
  | size (n : Nat)
  deriving DecidableEq, Repr

/-- A value of a document is one of an option: the prompt is a text, the others are sizes. -/
def OptionField.Writes : OptionField → OptionValue → List Char → Prop
  | .prompt, .text s, value => IsText s value
  | .maxJobs, .size n, value => IsSize n value
  | .maxArgs, .size n, value => IsSize n value
  | .maxLine, .size n, value => IsSize n value
  | _, _, _ => False

/-- The value of an option. -/
def Options.get (o : Options) : OptionField → OptionValue
  | .prompt => .text o.prompt
  | .maxJobs => .size o.maxJobs
  | .maxArgs => .size o.maxArgs
  | .maxLine => .size o.maxLine

/-- The option and the value that a member tells, if its key is the name of one. -/
def Json.Member.told? (m : Member) : Option (OptionField × List Char) :=
  (OptionField.ofName? m.name).map fun f => (f, m.value)

variable {s t u : Settings} {f g : OptionField} {v : OptionValue} {value rest r : List Char}
variable {facts : List (OptionField × List Char)}

namespace Settings

/-- The value of an option, if it is set. -/
def get? (s : Settings) : OptionField → Option OptionValue
  | .prompt => s.prompt.map .text
  | .maxJobs => s.maxJobs.map .size
  | .maxArgs => s.maxArgs.map .size
  | .maxLine => s.maxLine.map .size

/-- Settings are the same if they give the same to every field. -/
theorem ext_get? (same : ∀ f, s.get? f = t.get? f) : s = t := by
  have prompt := same .prompt
  have jobs := same .maxJobs
  have args := same .maxArgs
  have line := same .maxLine
  obtain ⟨p, j, a, l⟩ := s
  obtain ⟨p', j', a', l'⟩ := t
  have text : Function.Injective OptionValue.text := fun _ _ => OptionValue.text.inj
  have size : Function.Injective OptionValue.size := fun _ _ => OptionValue.size.inj
  rw [Settings.mk.injEq]
  exact ⟨Option.map_injective text prompt, Option.map_injective size jobs,
    Option.map_injective size args, Option.map_injective size line⟩

theorem sets_eq (s : Settings) (f : OptionField) : s.sets f = (s.get? f).isSome := by
  cases f <;> simp [sets, get?]

/-- Sets an option to a value of its kind. -/
def put (s : Settings) : OptionField → OptionValue → Settings
  | .prompt, .text p => { s with prompt := some p }
  | .maxJobs, .size n => { s with maxJobs := some n }
  | .maxArgs, .size n => { s with maxArgs := some n }
  | .maxLine, .size n => { s with maxLine := some n }
  | _, _ => s

/-- A field that is set has the value that it is set to. -/
theorem get?_put (written : f.Writes v value) : (s.put f v).get? f = some v := by
  cases f <;> cases v <;> first | rfl | cases written

theorem get?_put_of_ne (other : g ≠ f) : (s.put f v).get? g = s.get? g := by
  cases f <;> cases v <;> cases g <;> first | rfl | exact absurd rfl other

/-- A value is taken for an option. -/
def Takes (s : Settings) (f : OptionField) (value : List Char) (t : Settings) : Prop :=
  ∃ v, f.Writes v value ∧ t = s.put f v

/-- What is read for an option is a value of its kind. -/
theorem readValue_iff (gap : Gap) (wellFormed : WellFormed .value value) (closes : Closes rest) :
    s.readValue f (gap.text ++ (value ++ rest)) = .ok (t, r) ↔ r = rest ∧ s.Takes f value t := by
  constructor
  · intro taken
    unfold readValue at taken
    cases f with
    | prompt =>
      obtain ⟨⟨p, _⟩, read, same⟩ := map_eq_ok taken
      cases same
      obtain ⟨rfl, text⟩ := (readString_value_iff gap wellFormed closes).1 read
      exact ⟨rfl, .text p, text, rfl⟩
    | maxJobs | maxArgs | maxLine =>
      obtain ⟨⟨n, _⟩, read, same⟩ := map_eq_ok taken
      cases same
      obtain ⟨rfl, size⟩ := (readSize_value_iff gap wellFormed closes).1 read
      exact ⟨rfl, .size n, size, rfl⟩
  · rintro ⟨rfl, v, written, rfl⟩
    cases f with
    | prompt =>
      cases v with
      | size n => cases written
      | text p =>
        rw [readValue, (readString_value_iff gap wellFormed closes).2 ⟨rfl, written⟩]
        rfl
    | maxJobs | maxArgs | maxLine =>
      cases v with
      | text p => cases written
      | size n =>
        rw [readValue, (readSize_value_iff gap wellFormed closes).2 ⟨rfl, written⟩]
        rfl

/-- The values that a document tells are taken one after the other, each for an option that is not
set yet. -/
inductive Taken : Settings → List (OptionField × List Char) → Settings → Prop
  | nil {s : Settings} : Taken s [] s
  | cons {s t u : Settings} {f : OptionField} {value : List Char}
    {told : List (OptionField × List Char)} : s.sets f = false → s.Takes f value t →
    Taken t told u → Taken s ((f, value) :: told) u

/-! ## Objects -/

theorem readColon_body (m : Member) (rest : List Char) :
    readColon (m.body rest) = .ok (m.after.text ++ (m.value ++ rest)) :=
  readColon_gap m.before _

/-- A member that names a field is read as its value, and may come once only. -/
theorem readMember_of_told {m : Member} (closes : Closes rest) (told : m.told? = some (f, value)) :
    s.readMember m.name (m.body rest) = .ok (t, r) ↔
      r = rest ∧ s.sets f = false ∧ s.Takes f value t := by
  obtain ⟨f, named, same⟩ := Option.map_eq_some_iff.1 told
  cases same
  rw [readMember, named]
  dsimp only
  split
  · rename_i set
    simp [set]
  · rename_i unset
    rw [readColon_body]
    dsimp only
    rw [readValue_iff m.after m.wellFormed closes]
    simp [unset]

/-- The value of a name that no option has is passed over. -/
theorem readMember_of_untold {m : Member} (closes : Closes rest) (untold : m.told? = none) :
    s.readMember m.name (m.body rest) = .ok (s, rest) := by
  have named : OptionField.ofName? m.name = none := Option.map_eq_none_iff.1 untold
  rw [readMember, named]
  dsimp only
  rw [readColon_body]
  dsimp only
  rw [skip_of_wellFormed m.after m.wellFormed closes]
  rfl

theorem readMembers_of_key {first : Bool} {cs : List Char} {key : String}
    (found : nextKey first cs = .ok (some key, rest)) : s.readMembers first cs = .ok (u, r) ↔
      ∃ t after, s.readMember key rest = .ok (t, after) ∧
        t.readMembers false after = .ok (u, r) := by
  rw [readMembers]
  split <;> rename_i next <;> rw [found] at next <;> cases next
  split <;> rename_i member <;> rw [member] <;> simp

theorem readMembers_of_end {first : Bool} {cs : List Char}
    (ended : nextKey first cs = .ok (none, rest)) : s.readMembers first cs = .ok (s, rest) := by
  rw [readMembers]
  split <;> rename_i next <;> rw [ended] at next <;> cases next
  rfl

theorem taken_nil_iff : Taken s [] u ↔ u = s :=
  ⟨fun taken => by cases taken; rfl, fun same => same ▸ .nil⟩

theorem taken_cons_iff : Taken s ((f, value) :: facts) u ↔
    s.sets f = false ∧ ∃ t, s.Takes f value t ∧ Taken t facts u := by
  constructor
  · rintro ⟨⟩
    rename_i t unset takes taken
    exact ⟨unset, t, takes, taken⟩
  · rintro ⟨unset, t, takes, taken⟩
    exact .cons unset takes taken

/-- The members of an object are read exactly as what they tell is taken. -/
theorem readMembers_iff (members : List Member) (s : Settings) (first : Bool) (gap : Gap) :
    s.readMembers first (gap.text ++ (entries .object first (members.map Member.text) ++ rest)) =
        .ok (u, r) ↔ r = '\x7d' :: rest ∧ Taken s (members.filterMap Member.told?) u := by
  -- The gap is what follows the value of the member before.
  induction members generalizing s first gap with
  | nil =>
    have ended := nextKey_closer first gap rest
    rw [List.map_nil, entries, List.singleton_append, Container.closer, readMembers_of_end ended]
    simp [taken_nil_iff, eq_comm, and_comm]
  | cons m members ih =>
    have closes : Closes (m.trail.text ++
        (entries .object false (members.map Member.text) ++ rest)) := closes_entries m.trail
    have found := nextKey_member first gap m
      (entries .object false (members.map Member.text) ++ rest)
    rw [List.map_cons, entries, List.append_assoc, List.append_assoc, readMembers_of_key found]
    cases telling : m.told? with
    | none =>
      rw [List.filterMap_cons_none telling, readMember_of_untold closes telling,
        ← ih s false m.trail]
      simp
    | some told =>
      obtain ⟨f, value⟩ := told
      rw [List.filterMap_cons_some telling, taken_cons_iff]
      constructor
      · rintro ⟨t, after, member, others⟩
        obtain ⟨rfl, unset, takes⟩ := (readMember_of_told closes telling).1 member
        obtain ⟨rfl, taken⟩ := (ih t false m.trail).1 others
        exact ⟨rfl, unset, t, takes, taken⟩
      · rintro ⟨rfl, unset, t, takes, taken⟩
        exact ⟨t, _, (readMember_of_told closes telling).2 ⟨rfl, unset, takes⟩,
          (ih t false m.trail).2 ⟨rfl, taken⟩⟩

/-! ## Arrays -/

theorem readElements_of_end {first : Bool} {cs : List Char} (fields : List OptionField)
    (ended : nextElement first cs = .ok (false, rest)) :
    readElements (f :: fields) first s cs = .ok (s, rest) := by
  rw [readElements, ended]

theorem readElements_of_value {first : Bool} {cs : List Char} {fields : List OptionField}
    (found : nextElement first cs = .ok (true, rest)) :
    readElements (f :: fields) first s cs = .ok (u, r) ↔
      ∃ t after, s.readValue f rest = .ok (t, after) ∧
        readElements fields false t after = .ok (u, r) := by
  rw [readElements, found]
  dsimp only
  split <;> rename_i value <;> rw [value] <;> simp

/-- An option that is not set stays so while a value is taken for another. -/
theorem sets_of_takes (takes : s.Takes f value t) (other : g ≠ f) (unset : s.sets g = false) :
    t.sets g = false := by
  obtain ⟨v, -, rfl⟩ := takes
  rw [sets_eq] at unset ⊢
  rw [get?_put_of_ne other, unset]

/-- The elements of an array are read exactly as they are taken for the options in their order, if
there are not more of them. -/
theorem readElements_iff (fields : List OptionField) (elements : List Element) (s : Settings)
    (first : Bool) (gap : Gap) (nodup : fields.Nodup) (unset : ∀ f ∈ fields, s.sets f = false) :
    (∃ after, readElements fields first s
        (gap.text ++ (entries .array first (elements.map Element.text) ++ rest)) = .ok (u, after) ∧
        endArray after = .ok r) ↔
      r = rest ∧ elements.length ≤ fields.length ∧
        Taken s (fields.zip (elements.map Element.value)) u := by
  induction fields generalizing s first gap elements with
  | nil =>
    constructor
    · rintro ⟨_, ⟨⟩, ended⟩
      obtain ⟨rfl, rfl⟩ := (endArray_entries first gap elements).1 ended
      exact ⟨rfl, Nat.le_refl 0, .nil⟩
    · rintro ⟨rfl, none, taken⟩
      obtain rfl : elements = [] := List.eq_nil_of_length_eq_zero (Nat.le_zero.1 none)
      cases taken
      exact ⟨_, rfl, (endArray_entries first gap []).2 ⟨rfl, rfl⟩⟩
  | cons f fields ih =>
    obtain ⟨fresh, nodup⟩ := List.nodup_cons.1 nodup
    obtain ⟨unset', others⟩ := List.forall_mem_cons.1 unset
    cases elements with
    | nil =>
      have ended := nextElement_closer first gap rest
      rw [List.map_nil, entries, List.singleton_append, Container.closer,
        readElements_of_end fields ended]
      have closed : endArray (']' :: rest) = .ok rest := rfl
      constructor
      · rintro ⟨_, ⟨⟩, ended⟩
        rw [closed] at ended
        cases ended
        exact ⟨rfl, Nat.zero_le _, .nil⟩
      · rintro ⟨rfl, -, taken⟩
        cases taken
        exact ⟨_, rfl, closed⟩
    | cons e elements =>
      have closes : Closes (e.trail.text ++
          (entries .array false (elements.map Element.text) ++ rest)) := closes_entries e.trail
      have found := nextElement_element first gap e
        (entries .array false (elements.map Element.text) ++ rest)
      have value (t : Settings) (after : List Char) := readValue_iff (s := s) (f := f) (t := t)
        (r := after) {} e.wellFormed closes
      simp only [List.nil_append] at value
      rw [List.map_cons, entries, List.append_assoc, List.append_assoc, List.map_cons,
        List.zip_cons_cons, taken_cons_iff]
      simp only [readElements_of_value found]
      -- The options are all different, so those that are left stay unset.
      have left {t : Settings} (takes : s.Takes f e.value t) : ∀ g ∈ fields, t.sets g = false :=
        fun g member => sets_of_takes takes (fun same => fresh (same ▸ member)) (others g member)
      constructor
      · rintro ⟨after, ⟨t, after', taken, read⟩, ended⟩
        obtain ⟨rfl, takes⟩ := (value t after').1 taken
        obtain ⟨rfl, length, taken⟩ :=
          (ih elements t false e.trail nodup (left takes)).1 ⟨after, read, ended⟩
        exact ⟨rfl, Nat.succ_le_succ length, unset', t, takes, taken⟩
      · rintro ⟨rfl, length, -, t, takes, taken⟩
        obtain ⟨after, read, ended⟩ := (ih elements t false e.trail nodup (left takes)).2
          ⟨rfl, Nat.le_of_succ_le_succ length, taken⟩
        exact ⟨after, ⟨t, _, (value t _).2 ⟨rfl, takes⟩, read⟩, ended⟩

end Settings

/-! ## Documents -/

/-- A document of options: an object or an array. -/
inductive Document where
  | object (members : List Member)
  | array (elements : List Element)

namespace Document

def container : Document → Container
  | object _ => .object
  | array _ => .array

/-- The entries as they are written. -/
def texts : Document → List (List Char)
  | object members => members.map Member.text
  | array elements => elements.map Element.text

/-- The options that are told, with their values. -/
def told : Document → List (OptionField × List Char)
  | object members => members.filterMap Member.told?
  | array elements => OptionField.all.zip (elements.map Element.value)

/-- An array has not more elements than there are options. -/
def Fits : Document → Prop
  | object _ => True
  | array elements => elements.length ≤ OptionField.all.length

/-- The text of a document, with white space around it and before its first entry. -/
def text (d : Document) (lead inner trail : Gap) : List Char :=
  lead.text ++ d.container.opener ::
    (inner.text ++ (entries d.container true d.texts ++ trail.text))

end Document

namespace Settings

theorem readHead_opener (inner : Container) (gap : Gap) (cs : List Char) :
    readHead (gap.text ++ inner.opener :: cs) =
      .ok (match inner with | .array => .array | .object => .object, inner.opener :: cs) := by
  cases inner <;> rw [readHead, trim_gap_cons gap rfl] <;> rfl

theorem ofDocument_eq_ok_iff {cs : List Char} :
    ofDocument cs = .ok u ↔ ∃ r, read cs = .ok (u, r) ∧ endDocument r = .ok () := by
  unfold ofDocument
  cases read cs with
  | error e => simp
  | ok result =>
    obtain ⟨s, r⟩ := result
    cases ended : endDocument r <;> simp [Except.map, ended]

/-- A document that is an object is read member by member. -/
theorem read_object {cs : List Char} (head : readHead cs = .ok (.object, '\x7b' :: rest)) :
    read cs = .ok (u, r) ↔
      ∃ after, readMembers {} true rest = .ok (u, after) ∧ endObject after = .ok r := by
  rw [read, head]
  dsimp only [List.tail_cons]
  cases readMembers {} true rest with
  | error e => simp
  | ok result =>
    obtain ⟨s, after⟩ := result
    cases ended : endObject after <;> simp [Except.map, ended]

/-- A document that is an array is read element by element, in the order of the fields. -/
theorem read_array {cs : List Char} (head : readHead cs = .ok (.array, '[' :: rest)) :
    read cs = .ok (u, r) ↔
      ∃ after, readElements OptionField.all true {} rest = .ok (u, after) ∧
        endArray after = .ok r := by
  rw [read, head]
  dsimp only [List.tail_cons]
  cases readElements OptionField.all true {} rest with
  | error e => simp
  | ok result =>
    obtain ⟨s, after⟩ := result
    cases ended : endArray after <;> simp [Except.map, ended]

/-- Which documents are read, and what is taken from them. -/
theorem read_document_iff (d : Document) (lead inner trail : Gap) :
    read (d.text lead inner trail) = .ok (u, r) ↔
      r = trail.text ∧ d.Fits ∧ Taken {} d.told u := by
  cases d with
  | object members =>
    have head := readHead_opener .object lead
      (inner.text ++ (entries .object true (members.map Member.text) ++ trail.text))
    have closed : endObject ('\x7d' :: trail.text) = .ok trail.text := rfl
    rw [Document.text, Document.container, Document.texts, read_object head]
    simp only [readMembers_iff]
    constructor
    · rintro ⟨_, ⟨rfl, taken⟩, ended⟩
      rw [closed] at ended
      cases ended
      exact ⟨rfl, trivial, taken⟩
    · rintro ⟨rfl, -, taken⟩
      exact ⟨_, ⟨rfl, taken⟩, closed⟩
  | array elements =>
    have head := readHead_opener .array lead
      (inner.text ++ (entries .array true (elements.map Element.text) ++ trail.text))
    have nodup : OptionField.all.Nodup := by decide
    have unset : ∀ f ∈ OptionField.all, ({} : Settings).sets f = false := by decide
    rw [Document.text, Document.container, Document.texts, read_array head]
    exact readElements_iff OptionField.all elements {} true inner nodup unset

/-- A document is read exactly as what it tells is taken. -/
theorem ofDocument_iff (d : Document) (lead inner trail : Gap) :
    ofDocument (d.text lead inner trail) = .ok u ↔ d.Fits ∧ Taken {} d.told u := by
  rw [ofDocument_eq_ok_iff]
  simp only [read_document_iff]
  constructor
  · rintro ⟨r, ⟨-, fits, taken⟩, -⟩
    exact ⟨fits, taken⟩
  · rintro ⟨fits, taken⟩
    exact ⟨_, ⟨rfl, fits, taken⟩, endDocument_gap trail⟩

/-! ## What is taken -/

theorem sets_put (written : f.Writes v value) : (s.put f v).sets f = true := by
  rw [sets_eq, get?_put written]
  rfl

/-- What is set stays: the options that are told are different and not set before, and in the end
each has a value that is told of it. -/
theorem Taken.spec (taken : Taken s facts t) : (facts.map Prod.fst).Nodup ∧
    (∀ f, s.sets f = true → f ∉ facts.map Prod.fst ∧ t.get? f = s.get? f) ∧
    ∀ f value, (f, value) ∈ facts → ∃ v, f.Writes v value ∧ t.get? f = some v := by
  induction taken with
  | nil => exact ⟨List.nodup_nil, fun f _ => ⟨List.not_mem_nil, rfl⟩, nofun⟩
  | @cons s _ u f value facts unset takes _ ih =>
    obtain ⟨nodup, kept, held⟩ := ih
    obtain ⟨v, written, rfl⟩ := takes
    obtain ⟨fresh, same⟩ := kept f (sets_put written)
    refine ⟨List.nodup_cons.2 ⟨fresh, nodup⟩, fun g set => ?_, fun g other member => ?_⟩
    · have apart : g ≠ f := by
        rintro rfl
        rw [set] at unset
        cases unset
      have set' : (s.put f v).sets g = true := by
        rw [sets_eq, get?_put_of_ne apart, ← sets_eq, set]
      obtain ⟨absent, stays⟩ := kept g set'
      exact ⟨List.not_mem_cons_of_ne_of_not_mem apart absent, stays.trans (get?_put_of_ne apart)⟩
    · rcases List.mem_cons.1 member with first | later
      · cases first
        exact ⟨v, written, same.trans (get?_put written)⟩
      · exact held g other later

end Settings

namespace Options

variable {o : Options} {fields : List OptionField} {text : String}

/-- The values of some options, set by a document. -/
def pick (o : Options) (fields : List OptionField) : Settings where
  prompt := if .prompt ∈ fields then some o.prompt else none
  maxJobs := if .maxJobs ∈ fields then some o.maxJobs else none
  maxArgs := if .maxArgs ∈ fields then some o.maxArgs else none
  maxLine := if .maxLine ∈ fields then some o.maxLine else none

/-- Picked options are set where they are picked. -/
theorem get?_pick (o : Options) (fields : List OptionField) (f : OptionField) :
    (o.pick fields).get? f = if f ∈ fields then some (o.get f) else none := by
  cases f <;> simp only [pick, Settings.get?, get] <;> split <;> rfl

theorem pick_congr {others : List OptionField} (same : ∀ f, f ∈ fields ↔ f ∈ others) :
    o.pick fields = o.pick others := by
  refine Settings.ext_get? fun f => ?_
  simp only [get?_pick, same]

/-- To pick one more field is to put its value. -/
theorem pick_cons {f : OptionField} {value : List Char} (written : f.Writes (o.get f) value) :
    o.pick (f :: fields) = (o.pick fields).put f (o.get f) := by
  refine Settings.ext_get? fun g => ?_
  by_cases same : g = f
  · subst same
    rw [get?_pick, if_pos List.mem_cons_self, Settings.get?_put written]
  · rw [Settings.get?_put_of_ne same, get?_pick, get?_pick]
    simp only [List.mem_cons, same, false_or]

/-- Values of options that are all different are taken as they are told. -/
theorem taken_pick {facts : List (OptionField × List Char)} {done : List OptionField}
    (nodup : (facts.map Prod.fst).Nodup) (fresh : ∀ f ∈ facts.map Prod.fst, f ∉ done)
    (written : ∀ e ∈ facts, e.1.Writes (o.get e.1) e.2)
    (all : ∀ f, f ∈ fields ↔ f ∈ facts.map Prod.fst ∨ f ∈ done) :
    (o.pick done).Taken facts (o.pick fields) := by
  induction facts generalizing done with
  | nil =>
    have same : ∀ f, f ∈ fields ↔ f ∈ done := by simpa using all
    rw [pick_congr same]
    exact .nil
  | cons fact facts ih =>
    obtain ⟨f, value⟩ := fact
    obtain ⟨once, nodup⟩ := List.nodup_cons.1 nodup
    obtain ⟨first, others⟩ := List.forall_mem_cons.1 written
    obtain ⟨new, fresh⟩ := List.forall_mem_cons.1 fresh
    have unset : (o.pick done).sets f = false := by
      rw [Settings.sets_eq, get?_pick, if_neg new]
      rfl
    refine .cons unset ⟨o.get f, first, pick_cons first⟩ (ih nodup ?_ others fun g => ?_)
    · intro g member
      exact List.not_mem_cons_of_ne_of_not_mem (fun same => once (same ▸ member)) (fresh g member)
    · rw [all g, List.map_cons, List.mem_cons, List.mem_cons]
      tauto

theorem isUsable_iff : o.isUsable = true ↔ 1 ≤ o.maxArgs ∧ 1 ≤ o.maxLine := by
  simp [isUsable, Nat.one_le_iff_ne_zero]

/-- A document gives options if its settings, completed by the defaults, are usable. -/
theorem ofDocument_eq_ok_iff : ofDocument text = .ok o ↔
    ∃ s, Settings.ofDocument text.toList = .ok s ∧ s.complete = o ∧ o.isUsable = true := by
  unfold ofDocument
  cases Settings.ofDocument text.toList with
  | error e => simp
  | ok s =>
    dsimp only
    split
    · rename_i usable
      constructor
      · rintro ⟨⟩
        exact ⟨s, rfl, rfl, usable⟩
      · rintro ⟨_, ⟨⟩, rfl, -⟩
        rfl
    · rename_i unusable
      refine iff_of_false (by simp) ?_
      rintro ⟨_, ⟨⟩, rfl, usable⟩
      exact unusable usable

/-- A document that is refused is refused as a fault of the configuration. -/
theorem ofDocument_error {e : ShellError} (refused : ofDocument text = .error e) :
    ∃ detail, e = .config detail := by
  unfold ofDocument at refused
  split at refused
  · cases refused
    exact ⟨_, rfl⟩
  · split at refused <;> cases refused
    exact ⟨_, rfl⟩

/-- The options of a document with values of options that are all different are those values, and
the defaults for the others. -/
theorem ofDocument_of_told {d : Document} {lead inner trail : Gap} (args : 1 ≤ o.maxArgs)
    (line : 1 ≤ o.maxLine) (fits : d.Fits) (nodup : (d.told.map Prod.fst).Nodup)
    (written : ∀ e ∈ d.told, e.1.Writes (o.get e.1) e.2) :
    ofDocument (String.ofList (d.text lead inner trail)) =
      .ok (o.pick (d.told.map Prod.fst)).complete := by
  refine ofDocument_eq_ok_iff.2 ⟨o.pick (d.told.map Prod.fst), ?_, rfl, isUsable_iff.2 ?_⟩
  · rw [String.toList_ofList, Settings.ofDocument_iff]
    have taken : (o.pick []).Taken d.told (o.pick (d.told.map Prod.fst)) :=
      taken_pick nodup (fun _ _ => List.not_mem_nil) written (by simp)
    exact ⟨fits, taken⟩
  · unfold pick Settings.complete
    dsimp only
    constructor <;> split <;> simp [args, line]

end Options

/-! ## What is wrong with options -/

/-- What is wrong with what a document tells: an option is told twice, a limit is zero, or a size is
negative, fractional or too large, the minus sign and the fraction counting even where they make no
difference. -/
inductive Faulty (facts : List (OptionField × List Char)) : Prop
  | repeated : ¬ (facts.map Prod.fst).Nodup → Faulty facts
  | zero {f : OptionField} {n : Numeral} : (f, n.text) ∈ facts → f = .maxArgs ∨ f = .maxLine →
    n.value = 0 → Faulty facts
  | negative {f : OptionField} {n : Numeral} : (f, n.text) ∈ facts → f ≠ .prompt →
    n.negative = true ∨ n.value < 0 → Faulty facts
  | fractional {f : OptionField} {n : Numeral} : (f, n.text) ∈ facts → f ≠ .prompt →
    n.fraction.isSome = true ∨ (∀ z : ℤ, n.value ≠ z) → Faulty facts
  | tooLarge {f : OptionField} {n : Numeral} : (f, n.text) ∈ facts → f ≠ .prompt →
    (Decimal.maxSize : ℚ) < n.value → Faulty facts

theorem OptionField.isSize_of_writes {f : OptionField} {n : Numeral} {v : OptionValue}
    (size : f ≠ .prompt) (written : f.Writes v n.text) : n.IsSize ∧ v = .size n.whole := by
  cases f with
  | prompt => exact absurd rfl size
  | maxJobs | maxArgs | maxLine =>
    cases v with
    | text s => cases written
    | size k =>
      obtain ⟨isSize, rfl⟩ := Numeral.isSize_of_text written
      exact ⟨isSize, rfl⟩

/-- What can be taken, with limits that are not zero, is not faulty. -/
theorem Settings.Taken.not_faulty {facts : List (OptionField × List Char)} {s : Settings}
    (taken : Taken {} facts s) (usable : s.complete.isUsable = true) : ¬ Faulty facts := by
  obtain ⟨nodup, -, held⟩ := taken.spec
  have size {f : OptionField} {n : Numeral} (member : (f, n.text) ∈ facts) (size : f ≠ .prompt) :
      n.IsSize ∧ s.get? f = some (.size n.whole) := by
    obtain ⟨v, written, set⟩ := held f n.text member
    obtain ⟨isSize, rfl⟩ := OptionField.isSize_of_writes size written
    exact ⟨isSize, set⟩
  rintro faulty
  cases faulty with
  | repeated again => exact again nodup
  | @zero f n member limit zero =>
    have other : f ≠ .prompt := by rcases limit with rfl | rfl <;> decide
    obtain ⟨isSize, set⟩ := size member other
    rw [Numeral.value_of_isSize isSize, Nat.cast_eq_zero] at zero
    rw [zero] at set
    obtain ⟨args, line⟩ := Options.isUsable_iff.1 usable
    rcases limit with rfl | rfl
    · have : s.maxArgs = some 0 := by simpa [Settings.get?] using set
      simp [Settings.complete, this] at args
    · have : s.maxLine = some 0 := by simpa [Settings.get?] using set
      simp [Settings.complete, this] at line
  | negative member other below =>
    obtain ⟨⟨positive, -⟩, -⟩ := size member other
    rcases below with sign | below
    · rw [positive] at sign
      cases sign
    · exact absurd (Numeral.value_nonneg positive) (not_le.2 below)
  | fractional member other part =>
    obtain ⟨isSize, -⟩ := size member other
    rcases part with fraction | fraction
    · rw [isSize.2.1] at fraction
      cases fraction
    · exact fraction _ (Numeral.value_of_isSize isSize)
  | tooLarge member other large =>
    obtain ⟨isSize, -⟩ := size member other
    rw [Numeral.value_of_isSize isSize, Nat.cast_lt] at large
    exact absurd isSize.2.2.2 (Nat.not_le.2 large)

/-! ## Options -/

/-- Every value of an option can be written, sizes if they have 64 bits. -/
theorem OptionField.exists_writes {o : Options}
    (sizes : ∀ f n, o.get f = .size n → n ≤ Decimal.maxSize) (f : OptionField) :
    ∃ value, WellFormed .value value ∧ f.Writes (o.get f) value := by
  cases f with
  | prompt =>
    obtain ⟨text, spelled⟩ := StringLiteral.exists_spells o.prompt.toList
    exact ⟨_, .string spelled.isLiteral, text, spelled, rfl⟩
  | maxJobs => exact ⟨_, wellFormed_toDigits o.maxJobs, sizes .maxJobs _ rfl, rfl⟩
  | maxArgs => exact ⟨_, wellFormed_toDigits o.maxArgs, sizes .maxArgs _ rfl, rfl⟩
  | maxLine => exact ⟨_, wellFormed_toDigits o.maxLine, sizes .maxLine _ rfl, rfl⟩

/-- For options with sizes of 64 bits and limits that are not zero: all their values can be written.
An object whose members of known names hold some of them, each once and among members of other names
in any order, gives these values, and the defaults for the others. An array of all four in the order
of their declaration gives the options themselves. And whatever else it holds, a document that is
faulty is refused. White space makes no difference. -/
theorem options_of_document {o : Options} (args : 1 ≤ o.maxArgs) (line : 1 ≤ o.maxLine)
    (sizes : ∀ f n, o.get f = .size n → n ≤ Decimal.maxSize) (lead inner trail : Gap) :
    (∀ f : OptionField, ∃ value, WellFormed .value value ∧ f.Writes (o.get f) value) ∧
    (∀ members, ((members.filterMap Member.told?).map Prod.fst).Nodup →
      (∀ e ∈ members.filterMap Member.told?, e.1.Writes (o.get e.1) e.2) →
      Options.ofDocument (String.ofList ((Document.object members).text lead inner trail)) =
        .ok (o.pick ((members.filterMap Member.told?).map Prod.fst)).complete) ∧
    (∀ p j a l : Element, IsText o.prompt p.value → IsSize o.maxJobs j.value →
      IsSize o.maxArgs a.value → IsSize o.maxLine l.value →
      Options.ofDocument (String.ofList ((Document.array [p, j, a, l]).text lead inner trail)) =
        .ok o) ∧
    ∀ d : Document, Faulty d.told →
      ∃ detail, Options.ofDocument (String.ofList (d.text lead inner trail)) =
        .error (.config detail) := by
  refine ⟨OptionField.exists_writes sizes, fun members nodup written => ?_,
    fun p j a l text jobs args' line' => ?_, fun d faulty => ?_⟩
  · exact Options.ofDocument_of_told (d := .object members) args line trivial nodup written
  · have written : ∀ e ∈ (Document.array [p, j, a, l]).told, e.1.Writes (o.get e.1) e.2 := by
      simpa [Document.told, OptionField.all, OptionField.Writes, Options.get] using
        ⟨text, jobs, args', line'⟩
    have nodup : OptionField.all.Nodup := by decide
    exact Options.ofDocument_of_told (d := .array [p, j, a, l]) args line (Nat.le_refl 4) nodup
      written
  · cases given : Options.ofDocument (String.ofList (d.text lead inner trail)) with
    | error e =>
      obtain ⟨detail, rfl⟩ := Options.ofDocument_error given
      exact ⟨detail, rfl⟩
    | ok o' =>
      obtain ⟨s, read, rfl, usable⟩ := Options.ofDocument_eq_ok_iff.1 given
      rw [String.toList_ofList, Settings.ofDocument_iff] at read
      exact absurd faulty (read.2.not_faulty usable)

/-- Two options among members of other names, the prompt with an escape in its key; the array of all
four; and a limit of zero. -/
theorem options_of_document_with_other_members :
    let o : Options := { prompt := "$ ", maxJobs := 18446744073709551615, maxArgs := 1 }
    Options.ofDocument "\x7b\"x\": [null, \x7b\x7d], \"pr\\u006fmpt\" : \"$ \"\x7d\n" =
        .ok { prompt := "$ " } ∧
      Options.ofDocument "[\"$ \",18446744073709551615,1,2048]" = .ok o ∧
      ∃ detail, Options.ofDocument "\x7b\"max_args\":0\x7d" = .error (.config detail) := by
  intro o
  have sizes : ∀ f n, o.get f = .size n → n ≤ Decimal.maxSize := by
    rintro (_ | _ | _ | _) n ⟨⟩ <;> decide
  have result (trail : Gap) :=
    options_of_document (o := o) (by decide) (by decide) sizes {} {} trail
  have dollar : StringLiteral.Spells "$ ".toList ['$', ' '] := StringLiteral.spells_self (by decide)
  refine ⟨?_, ?_, ?_⟩
  · let blank : Gap := { text := [' '], spaces := by simp [isSpace] }
    let newline : Gap := { text := ['\n'], spaces := by simp [isSpace] }
    have null : WellFormed .value ['n', 'u', 'l', 'l'] := .word (by decide)
    let x : Member :=
      { name := "x", key := ['x'], spelled := StringLiteral.spells_self (by decide), value := _
        wellFormed := .filled {} .element null
          (.next {} blank .element (.empty .object {}) (.closed .array {}))
        after := blank }
    have escaped : StringLiteral.Escapes 'o' ['u', '0', '0', '6', 'f'] := .single (by decide)
    have key : StringLiteral.Spells "prompt".toList
        ['p', 'r', '\\', 'u', '0', '0', '6', 'f', 'm', 'p', 't'] :=
      .plain (by decide) (.plain (by decide)
        (.escaped escaped (StringLiteral.spells_self (by decide))))
    let prompt : Member :=
      { name := "prompt", key := _, spelled := key, value := _
        wellFormed := .string dollar.isLiteral, lead := blank, before := blank, after := blank }
    have told : [x, prompt].filterMap Member.told? = [(.prompt, prompt.value)] := by rfl
    have object := (result newline).2.1 [x, prompt]
    rw [told] at object
    exact object (by simp) (by simpa using ⟨_, dollar, rfl⟩)
  · let size {n : Nat} {text : List Char} (size : IsSize n text) : Element :=
      { value := text, wellFormed := size.2 ▸ wellFormed_toDigits n }
    have jobs : IsSize 18446744073709551615 "18446744073709551615".toList :=
      ⟨by decide, by decide +kernel⟩
    have args : IsSize 1 ['1'] := ⟨by decide, by decide +kernel⟩
    have line : IsSize 2048 "2048".toList := ⟨by decide, by decide +kernel⟩
    exact (result {}).2.2.1 { value := _, wellFormed := .string dollar.isLiteral }
      (size jobs) (size args) (size line) ⟨_, dollar, rfl⟩ jobs args line
  · let zero : Numeral := { whole := 0 }
    have shape : zero.text = ['0'] := by decide +kernel
    let args : Member :=
      { name := "max_args", key := _, spelled := StringLiteral.spells_self (by decide)
        value := ['0'], wellFormed := shape ▸ .number zero }
    have told : (Document.object [args]).told = [(.maxArgs, zero.text)] := by
      rw [shape]
      rfl
    have faulty : Faulty (Document.object [args]).told := by
      rw [told]
      exact .zero List.mem_cons_self (.inl rfl) (by simp [Numeral.value, zero])
    exact (result {}).2.2.2 (.object [args]) faulty

end JobShell
