import JobShell.Error

/-!
# Descriptor tables

A process refers to open files by small numbers. Its table maps each open number to an open file;
several numbers, and numbers of several processes, can refer to one open file and then share its
offset. A new descriptor gets the least number that is free.

* The table after `set`, `erase` and `insert`, number by number: `get?_set`, `get?_erase`,
  `get?_insert`.
* `get?_lowestFree`: the number that `insert` takes is free.
-/

namespace JobShell

/-- The number of an open file. -/
abbrev OpenId := Nat

/-- The open descriptors of a process and the open files that they refer to. -/
structure Descriptors where
  entries : List (Nat × OpenId)
  deriving DecidableEq, Repr

namespace Descriptors

/-- The open file that a descriptor refers to. -/
def get? (d : Descriptors) (n : Nat) : Option OpenId :=
  d.entries.lookup n

/-- Closes a descriptor. -/
def erase (d : Descriptors) (n : Nat) : Descriptors :=
  ⟨d.entries.filter fun e => e.1 != n⟩

/-- Makes a descriptor refer to an open file. -/
def set (d : Descriptors) (n : Nat) (id : OpenId) : Descriptors :=
  ⟨(n, id) :: (d.erase n).entries⟩

/-- A number above every open descriptor. -/
def bound (d : Descriptors) : Nat :=
  d.entries.foldr (fun e b => max (e.1 + 1) b) 0

/-- The least number that no open descriptor has. -/
def lowestFree (d : Descriptors) : Nat :=
  ((List.range d.bound).find? fun n => (d.get? n).isNone).getD d.bound

/-- Opens a descriptor with the least free number. -/
def insert (d : Descriptors) (id : OpenId) : Nat × Descriptors :=
  (d.lowestFree, d.set d.lowestFree id)

/-- Descriptor numbers lie below this limit. -/
def limit : Nat := 1048576

/-- Makes `target` refer to the open file of `source`. -/
def duplicate (d : Descriptors) (source target : Nat) : Except Errno Descriptors :=
  match d.get? source with
  | none => .error .badDescriptor
  | some id => if target < limit then .ok (d.set target id) else .error .badDescriptor

/-- Closes an open descriptor. -/
def close (d : Descriptors) (n : Nat) : Except Errno Descriptors :=
  match d.get? n with
  | none => .error .badDescriptor
  | some _ => .ok (d.erase n)

/-! ## The table, number by number -/

theorem lookup_cons_ite (k : Nat) (v : OpenId) (entries : List (Nat × OpenId)) (m : Nat) :
    ((k, v) :: entries).lookup m = if m = k then some v else entries.lookup m := by
  rw [List.lookup_cons]
  by_cases h : m = k
  · simp [h]
  · simp [h, beq_false_of_ne h]

theorem lookup_filter_ne (entries : List (Nat × OpenId)) (n m : Nat) :
    (entries.filter fun e => e.1 != n).lookup m = if m = n then none else entries.lookup m := by
  induction entries with
  | nil => simp
  | cons e es ih =>
    obtain ⟨k, v⟩ := e
    by_cases hk : k = n
    · have skip : ((k, v) :: es).filter (fun e => e.1 != n) = es.filter fun e => e.1 != n := by
        simp [hk]
      rw [skip, ih, lookup_cons_ite]
      by_cases hm : m = n <;> simp [hm, hk]
    · have keep : ((k, v) :: es).filter (fun e => e.1 != n) =
          (k, v) :: es.filter fun e => e.1 != n := by
        simp [hk]
      rw [keep, lookup_cons_ite, ih, lookup_cons_ite]
      by_cases hm : m = k <;> simp [hm, hk]

theorem get?_erase (d : Descriptors) (n m : Nat) :
    (d.erase n).get? m = if m = n then none else d.get? m :=
  lookup_filter_ne d.entries n m

/-- The table after a number has been given another meaning. -/
theorem get?_set (d : Descriptors) (n m : Nat) (id : OpenId) :
    (d.set n id).get? m = if m = n then some id else d.get? m := by
  have h := lookup_cons_ite n id (d.erase n).entries m
  have e := d.get?_erase n m
  unfold get? at e
  rw [e] at h
  unfold set get?
  rw [h]
  by_cases hm : m = n <;> simp [hm]

theorem get?_insert (d : Descriptors) (id : OpenId) (m : Nat) :
    (d.insert id).2.get? m = if m = (d.insert id).1 then some id else d.get? m :=
  d.get?_set d.lowestFree m id

/-- Above all numbers in use nothing is found. -/
theorem lookup_eq_none_of_bound_le (entries : List (Nat × OpenId)) {n : Nat}
    (h : entries.foldr (fun e b => max (e.1 + 1) b) 0 ≤ n) : entries.lookup n = none := by
  induction entries with
  | nil => rfl
  | cons e es ih =>
    obtain ⟨k, v⟩ := e
    simp only [List.foldr_cons] at h
    rw [lookup_cons_ite, if_neg (by omega)]
    exact ih (by omega)

theorem get?_lowestFree (d : Descriptors) : d.get? d.lowestFree = none := by
  unfold lowestFree
  cases h : (List.range d.bound).find? fun n => (d.get? n).isNone with
  | none => exact lookup_eq_none_of_bound_le d.entries (Nat.le_refl _)
  | some n => simpa using List.find?_some h

end Descriptors

/-! ## Handles -/

/-- The numbers of the three standard streams. -/
def standardInput : Nat := 0

def standardOutput : Nat := 1

def standardError : Nat := 2

/-- An owned descriptor number, or nothing once it is closed. Nothing keeps a handle's number from
being closed or reused behind its back. -/
structure Handle where
  number? : Option Nat
  deriving DecidableEq, Repr

namespace Handle

/-- The refusal of a number that is no descriptor. -/
def invalid : ShellError := .io "Invalid RustFd"

/-- A handle on a descriptor number, open or not. -/
def ofNumber (n : Int) : Except ShellError Handle :=
  if n < 0 then .error invalid else .ok ⟨some n.toNat⟩

def isValid (h : Handle) : Bool :=
  h.number?.isSome

/-- The descriptor number, -1 once closed. -/
def raw (h : Handle) : Int :=
  match h.number? with
  | some n => n
  | none => -1

/-- Makes the number of `target` refer to the open file of `h`. Equal numbers need nothing done,
whatever they are. -/
def duplicate (h target : Handle) (d : Descriptors) : Except ShellError Descriptors :=
  if h.number? = target.number? then .ok d
  else match h.number?, target.number? with
    | some n, some m =>
      match d.duplicate n m with
      | .ok d => .ok d
      | .error e => .error (.system e)
    | _, _ => .error invalid

/-- Gives the handle up. The standard streams stay open, and a closed handle closes nothing. -/
def close (h : Handle) (d : Descriptors) : Handle × Descriptors × Except ShellError Unit :=
  match h.number? with
  | none => (h, d, .ok ())
  | some n =>
    if n ≤ standardError then (⟨none⟩, d, .ok ())
    else match d.close n with
      | .ok d => (⟨none⟩, d, .ok ())
      | .error e => (⟨none⟩, d, .error (.system e))

end Handle

end JobShell
