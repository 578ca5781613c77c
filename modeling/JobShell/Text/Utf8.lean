/-!
# Bytes as text

Input lines and files are bytes. `decode?` reads them strictly; `display` shows any bytes, with one
replacement character for each maximal part that is not well formed: the longest start of a valid
sequence, or a single byte where there is none.
-/

namespace JobShell

/-- A run of bytes. -/
abbrev Bytes := List UInt8

namespace Text

/-- The text that `bytes` encode, if they are well-formed UTF-8. -/
def decode? (bytes : Bytes) : Option String :=
  String.fromUTF8? bytes.toByteArray

/-- The UTF-8 encoding of a text. -/
def encode (text : String) : Bytes :=
  text.toUTF8.toList

/-- The range of the second byte after `first` in a well-formed sequence, and the number of bytes
that follow `first`. -/
def continuation? (first : UInt8) : Option (UInt8 × UInt8 × Nat) :=
  if 0xC2 ≤ first ∧ first ≤ 0xDF then some (0x80, 0xBF, 1)
  else if first = 0xE0 then some (0xA0, 0xBF, 2)
  else if first = 0xED then some (0x80, 0x9F, 2)
  else if 0xE1 ≤ first ∧ first ≤ 0xEF then some (0x80, 0xBF, 2)
  else if first = 0xF0 then some (0x90, 0xBF, 3)
  else if 0xF1 ≤ first ∧ first ≤ 0xF3 then some (0x80, 0xBF, 3)
  else if first = 0xF4 then some (0x80, 0x8F, 3)
  else none

/-- A multi-byte character that is being read: its bits so far, how many bytes it lacks, and the
range that the next one must lie in. -/
structure Pending where
  value : Nat
  missing : Nat
  low : UInt8
  high : UInt8

/-- The replacement character. -/
def replacement : Char := '\uFFFD'

/-- The start of a character at the byte `b`: a finished character, one that lacks bytes, or
neither. -/
def startAt (b : UInt8) : Char ⊕ Option Pending :=
  if b < 0x80 then .inl (Char.ofNat b.toNat)
  else match continuation? b with
    | some (low, high, n) => .inr (some ⟨b.toNat % Nat.pow 2 (6 - n), n, low, high⟩)
    | none => .inr none

/-- The characters shown for bytes, continuing the character `pending`. -/
def displayFrom : Option Pending → Bytes → List Char
  | none, [] => []
  | some _, [] => [replacement]
  | pending, b :: bs =>
    let fresh (before : List Char) : List Char :=
      before ++ match startAt b with
        | .inl c => c :: displayFrom none bs
        | .inr (some p) => displayFrom (some p) bs
        | .inr none => replacement :: displayFrom none bs
    match pending with
    | none => fresh []
    | some p =>
      if p.low ≤ b ∧ b ≤ p.high then
        let value := p.value * 64 + b.toNat % 64
        if p.missing ≤ 1 then Char.ofNat value :: displayFrom none bs
        else displayFrom (some ⟨value, p.missing - 1, 0x80, 0xBF⟩) bs
      else fresh [replacement]

/-- Bytes as text, each part that is not UTF-8 as U+FFFD. -/
def display (bytes : Bytes) : String :=
  String.ofList (displayFrom none bytes)

end Text

end JobShell
