import Mathlib.Data.List.Basic
import Mathlib.Order.Nat
import Mathlib.Tactic.Common

/-!
# Reading UTF-8

The decoder that never fails.  A first byte says how many bytes are to follow it
and which ones may come next.  A byte that may not come next leaves the
character unfinished, which is replaced, and is read again as a first byte.  What
is the UTF-8 form of a text is read as that text.
-/

namespace EvoPlatform
namespace Utf8

/-- What stands for bytes that are no character. -/
def replacement : Char := Char.ofNat 0xFFFD

/-- A character of which more bytes are to come. -/
structure Pending where
  point : Nat
  /-- The next byte is at least `lower` and below `upper`. -/
  lower : Nat
  upper : Nat
  /-- How many bytes follow the next one. -/
  more : Nat

/-- What a first byte writes, and what it leaves to be read. -/
def first (byte : Nat) : List Char × Option Pending :=
  if byte < 0x80 then ([Char.ofNat byte], none)
  else if 0xC2 ≤ byte ∧ byte < 0xE0 then
    ([], some ⟨byte - 0xC0, 0x80, 0xC0, 0⟩)
  else if 0xE0 ≤ byte ∧ byte < 0xF0 then
    ([], some ⟨byte - 0xE0, if byte = 0xE0 then 0xA0 else 0x80,
      if byte = 0xED then 0xA0 else 0xC0, 1⟩)
  else if 0xF0 ≤ byte ∧ byte < 0xF5 then
    ([], some ⟨byte - 0xF0, if byte = 0xF0 then 0x90 else 0x80,
      if byte = 0xF4 then 0x90 else 0xC0, 2⟩)
  else ([replacement], none)

namespace Pending

/-- The value with the next byte. -/
def add (pending : Pending) (byte : Nat) : Nat :=
  pending.point * 0x40 + (byte - 0x80)

/-- What the next byte writes, and what it leaves to be read. -/
def next (pending : Pending) (byte : Nat) : List Char × Option Pending :=
  if pending.lower ≤ byte ∧ byte < pending.upper then
    match pending.more with
    | 0 => ([Char.ofNat (pending.add byte)], none)
    | more + 1 => ([], some ⟨pending.add byte, 0x80, 0xC0, more⟩)
  else (replacement :: (first byte).1, (first byte).2)

end Pending

/-- Read one byte. -/
def read : Option Pending → Nat → List Char × Option Pending
  | none, byte => first byte
  | some pending, byte => pending.next byte

/-- Read bytes after a character that may be unfinished. -/
def decodeFrom : Option Pending → List UInt8 → List Char
  | none, [] => []
  | some _, [] => [replacement]
  | pending, byte :: rest =>
      (read pending byte.toNat).1 ++
        decodeFrom (read pending byte.toNat).2 rest

/-- The text that bytes are read as. -/
def decode (bytes : List UInt8) : String :=
  String.ofList (decodeFrom none bytes)

/-- The UTF-8 form of a text. -/
def encode (text : String) : List UInt8 :=
  text.toList.flatMap String.utf8EncodeChar

theorem encode_append (left right : String) :
    encode (left ++ right) = encode left ++ encode right := by
  rw [encode, String.toList_append, List.flatMap_append]
  rfl

/-! ## Reading back -/

section Characters

variable {byte : Nat} {rest : List UInt8}

/-- A byte of which the value is known is read. -/
theorem decodeFrom_ofNat
    (pending : Option Pending)
    (small : byte < 0x100) :
    decodeFrom pending (UInt8.ofNat byte :: rest) =
      (read pending byte).1 ++ decodeFrom (read pending byte).2 rest := by
  have same : (UInt8.ofNat byte).toNat = byte := by
    rw [UInt8.toNat_ofNat']
    omega
  cases pending <;> rw [decodeFrom, same]

/-- A first byte that is followed by others. -/
theorem decodeFrom_lead
    {pending : Pending}
    (small : byte < 0x100)
    (leads : first byte = ([], some pending)) :
    decodeFrom none (UInt8.ofNat byte :: rest) =
      decodeFrom (some pending) rest := by
  rw [decodeFrom_ofNat none small, read, leads]
  rfl

variable {point lower upper : Nat}

/-- A byte that continues a character, and ends it. -/
theorem decodeFrom_last
    (small : byte < 0x100)
    (within : lower ≤ byte ∧ byte < upper) :
    decodeFrom (some ⟨point, lower, upper, 0⟩) (UInt8.ofNat byte :: rest) =
      Char.ofNat (point * 0x40 + (byte - 0x80)) :: decodeFrom none rest := by
  rw [decodeFrom_ofNat _ small, read, Pending.next, if_pos within]
  rfl

/-- A byte that continues a character, after which more are to come. -/
theorem decodeFrom_more
    {more : Nat}
    (small : byte < 0x100)
    (within : lower ≤ byte ∧ byte < upper) :
    decodeFrom (some ⟨point, lower, upper, more + 1⟩)
        (UInt8.ofNat byte :: rest) =
      decodeFrom (some ⟨point * 0x40 + (byte - 0x80), 0x80, 0xC0, more⟩)
        rest := by
  rw [decodeFrom_ofNat _ small, read, Pending.next, if_pos within]
  rfl

end Characters

section FirstBytes

variable {byte : Nat}

theorem first_one (within : byte < 0x80) :
    first byte = ([Char.ofNat byte], none) := by
  rw [first, if_pos within]

theorem first_two (within : 0xC2 ≤ byte ∧ byte < 0xE0) :
    first byte = ([], some ⟨byte - 0xC0, 0x80, 0xC0, 0⟩) := by
  rw [first, if_neg (by omega), if_pos within]

theorem first_three (within : 0xE0 ≤ byte ∧ byte < 0xF0) :
    first byte = ([], some ⟨byte - 0xE0, if byte = 0xE0 then 0xA0 else 0x80,
      if byte = 0xED then 0xA0 else 0xC0, 1⟩) := by
  rw [first, if_neg (by omega), if_neg (by omega), if_pos within]

theorem first_four (within : 0xF0 ≤ byte ∧ byte < 0xF5) :
    first byte = ([], some ⟨byte - 0xF0, if byte = 0xF0 then 0x90 else 0x80,
      if byte = 0xF4 then 0x90 else 0xC0, 2⟩) := by
  rw [first, if_neg (by omega), if_neg (by omega), if_neg (by omega),
    if_pos within]

end FirstBytes

section Forms

variable {lead second third fourth : Nat} (rest : List UInt8)

/-- A byte that only continues a character. -/
def Continues (byte : Nat) : Prop := 0x80 ≤ byte ∧ byte < 0xC0

theorem Continues.small {byte : Nat} (continues : Continues byte) :
    byte < 0x100 :=
  continues.2.trans (by decide)

theorem decodeFrom_two
    (isLead : 0xC2 ≤ lead ∧ lead < 0xE0)
    (isSecond : Continues second) :
    decodeFrom none (UInt8.ofNat lead :: UInt8.ofNat second :: rest) =
      Char.ofNat ((lead - 0xC0) * 0x40 + (second - 0x80)) ::
        decodeFrom none rest := by
  rw [decodeFrom_lead (by omega) (first_two isLead),
    decodeFrom_last isSecond.small isSecond]

theorem decodeFrom_three
    (isLead : 0xE0 ≤ lead ∧ lead < 0xF0)
    (isSecond : Continues second)
    (notShorter : lead = 0xE0 → 0xA0 ≤ second)
    (noSurrogate : lead = 0xED → second < 0xA0)
    (isThird : Continues third) :
    decodeFrom none (UInt8.ofNat lead :: UInt8.ofNat second ::
        UInt8.ofNat third :: rest) =
      Char.ofNat (((lead - 0xE0) * 0x40 + (second - 0x80)) * 0x40 +
        (third - 0x80)) :: decodeFrom none rest := by
  have within : (if lead = 0xE0 then 0xA0 else 0x80) ≤ second ∧
      second < if lead = 0xED then 0xA0 else 0xC0 := by
    obtain ⟨secondLower, secondUpper⟩ := isSecond
    constructor <;> split <;> omega
  rw [decodeFrom_lead (by omega) (first_three isLead),
    decodeFrom_more isSecond.small within,
    decodeFrom_last isThird.small isThird]

theorem decodeFrom_four
    (isLead : 0xF0 ≤ lead ∧ lead < 0xF5)
    (isSecond : Continues second)
    (notShorter : lead = 0xF0 → 0x90 ≤ second)
    (isScalar : lead = 0xF4 → second < 0x90)
    (isThird : Continues third)
    (isFourth : Continues fourth) :
    decodeFrom none (UInt8.ofNat lead :: UInt8.ofNat second ::
        UInt8.ofNat third :: UInt8.ofNat fourth :: rest) =
      Char.ofNat ((((lead - 0xF0) * 0x40 + (second - 0x80)) * 0x40 +
        (third - 0x80)) * 0x40 + (fourth - 0x80)) ::
          decodeFrom none rest := by
  have within : (if lead = 0xF0 then 0x90 else 0x80) ≤ second ∧
      second < if lead = 0xF4 then 0x90 else 0xC0 := by
    obtain ⟨secondLower, secondUpper⟩ := isSecond
    constructor <;> split <;> omega
  rw [decodeFrom_lead (by omega) (first_four isLead),
    decodeFrom_more isSecond.small within,
    decodeFrom_more isThird.small isThird,
    decodeFrom_last isFourth.small isFourth]

end Forms

theorem continues_of_mod (point : Nat) : Continues (point % 0x40 + 0x80) := by
  unfold Continues
  omega

/-- The bytes of a character are read as that character. -/
theorem decodeFrom_char (char : Char) (rest : List UInt8) :
    decodeFrom none (String.utf8EncodeChar char ++ rest) =
      char :: decodeFrom none rest := by
  have scalar : char.toNat < 0xD800 ∨
      (0xDFFF < char.toNat ∧ char.toNat < 0x110000) := char.valid
  have back : Char.ofNat char.toNat = char := Char.ofNat_toNat char
  have value : char.val.toNat = char.toNat := rfl
  rw [String.utf8EncodeChar, value]
  generalize char.toNat = point at *
  split
  · rw [List.cons_append, List.nil_append, decodeFrom_ofNat none (by omega),
      read, first_one (by omega), back]
    rfl
  split
  · simp only [List.cons_append, List.nil_append]
    have whole : (point / 64 % 0x20 + 0xC0 - 0xC0) * 0x40 +
        (point % 0x40 + 0x80 - 0x80) = point := by omega
    rw [decodeFrom_two rest (by omega) (continues_of_mod _), whole, back]
  split
  · simp only [List.cons_append, List.nil_append]
    have whole : ((point / 4096 % 0x10 + 0xE0 - 0xE0) * 0x40 +
        (point / 64 % 0x40 + 0x80 - 0x80)) * 0x40 +
          (point % 0x40 + 0x80 - 0x80) = point := by omega
    rw [decodeFrom_three rest (by omega) (continues_of_mod _) (by omega)
      (by omega) (continues_of_mod _), whole, back]
  · simp only [List.cons_append, List.nil_append]
    have whole : (((point / 262144 % 8 + 0xF0 - 0xF0) * 0x40 +
        (point / 4096 % 0x40 + 0x80 - 0x80)) * 0x40 +
          (point / 64 % 0x40 + 0x80 - 0x80)) * 0x40 +
            (point % 0x40 + 0x80 - 0x80) = point := by omega
    rw [decodeFrom_four rest (by omega) (continues_of_mod _) (by omega)
      (by omega) (continues_of_mod _) (continues_of_mod _), whole, back]

/-- The UTF-8 form of a text is read as the text. -/
theorem decode_encode (text : String) : decode (encode text) = text := by
  have ofList : ∀ chars : List Char,
      decodeFrom none (chars.flatMap String.utf8EncodeChar) = chars := by
    intro chars
    induction chars with
    | nil => rfl
    | cons char chars inductionHypothesis =>
        rw [List.flatMap_cons, decodeFrom_char, inductionHypothesis]
  rw [decode, encode, ofList, String.ofList_toList]

-- The bytes of a surrogate are no character, and neither is an unfinished one.
example : decodeFrom none [0xED, 0xA0, 0x80, 0x41, 0xE2, 0x82] =
    [replacement, replacement, replacement, 'A', replacement] := by
  decide +kernel

end Utf8
end EvoPlatform
