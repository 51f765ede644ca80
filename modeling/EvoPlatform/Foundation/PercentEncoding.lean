import Mathlib.Data.List.Basic
import Mathlib.Tactic.Common

/-!
# Percent-encoding

A percent-encoder keeps some characters and writes every byte of the UTF-8 form
of the others as a percent sign and two hexadecimal digits.  Encoders differ only
in what they keep, and two of them agree on a text exactly when they keep the
same characters of it.
-/

namespace EvoPlatform

/-- A hexadecimal digit, in upper case. -/
def hexDigit (digit : Nat) : Char :=
  Char.ofNat (if digit < 10 then 48 + digit else 55 + digit)

/-- The escape of a byte. -/
def percentByte (byte : UInt8) : List Char :=
  ['%', hexDigit (byte.toNat / 16), hexDigit (byte.toNat % 16)]

/-- What an encoder writes for a character. -/
def percentChar (keeps : Char → Bool) (char : Char) : List Char :=
  if keeps char then [char]
  else (String.utf8EncodeChar char).flatMap percentByte

/-- Percent-encode a text. -/
def percentEncode (keeps : Char → Bool) (text : String) : String :=
  String.ofList (text.toList.flatMap (percentChar keeps))

/-- An encoder that keeps every character leaves a text alone. -/
theorem flatMap_percentChar
    {keeps : Char → Bool}
    {chars : List Char}
    (kept : ∀ char ∈ chars, keeps char = true) :
    chars.flatMap (percentChar keeps) = chars := by
  induction chars with
  | nil => rfl
  | cons char chars inductionHypothesis =>
      obtain ⟨keepsIt, keptRest⟩ := List.forall_mem_cons.mp kept
      rw [List.flatMap_cons, inductionHypothesis keptRest, percentChar,
        if_pos keepsIt]
      rfl

/-- An escape is kept by an encoder that keeps the characters it is made of. -/
theorem flatMap_percentByte
    {keeps : Char → Bool}
    (percent : keeps '%' = true)
    (hex : ∀ digit < 16, keeps (hexDigit digit) = true)
    (byte : UInt8) :
    (percentByte byte).flatMap (percentChar keeps) = percentByte byte := by
  have high : byte.toNat / 16 < 16 := by
    have bounded := byte.toNat_lt
    omega
  have low : byte.toNat % 16 < 16 := Nat.mod_lt _ (by decide)
  apply flatMap_percentChar
  simp [percentByte, percent, hex _ high, hex _ low]

/-- Two encoders in a row keep what both keep, if the second one leaves the
escapes of the first one alone. -/
theorem percentEncode_percentEncode
    {first second : Char → Bool}
    (percent : second '%' = true)
    (hex : ∀ digit < 16, second (hexDigit digit) = true)
    (text : String) :
    percentEncode second (percentEncode first text) =
      percentEncode (fun char => first char && second char) text := by
  have escapes (bytes : List UInt8) :
      (bytes.flatMap percentByte).flatMap (percentChar second) =
        bytes.flatMap percentByte := by
    rw [List.flatMap_assoc]
    apply congrArg fun write => bytes.flatMap write
    funext byte
    exact flatMap_percentByte percent hex byte
  rw [percentEncode, percentEncode, percentEncode, String.toList_ofList,
    List.flatMap_assoc]
  congr 2
  funext char
  cases kept : first char with
  | true => simp [percentChar, kept]
  | false => simp [percentChar, kept, escapes]

section Agree

variable {left right : Char → Bool} {char : Char}

/-- An escape begins with a percent sign. -/
theorem exists_percentChar_of_not_keeps
    (escapes : left char = false) :
    ∃ rest, percentChar left char = '%' :: rest := by
  obtain ⟨byte, bytes, encoded⟩ :=
    List.exists_cons_of_ne_nil (String.utf8EncodeChar_ne_nil (c := char))
  simp [percentChar, escapes, encoded, percentByte]

/-- A kept character never looks like an escape. -/
theorem percentChar_append_ne
    (noPercent : left '%' = false)
    (keeps : left char = true)
    (escapes : right char = false)
    (after other : List Char) :
    percentChar left char ++ after ≠ percentChar right char ++ other := by
  obtain ⟨rest, escaped⟩ := exists_percentChar_of_not_keeps escapes
  rw [escaped, percentChar, keeps, if_pos rfl]
  intro same
  obtain ⟨isPercent, _⟩ := List.cons.inj same
  rw [isPercent, noPercent] at keeps
  contradiction

/-- Two encoders that escape the percent sign agree exactly on the texts of
which they keep the same characters. -/
theorem percentEncode_eq_iff
    (leftPercent : left '%' = false)
    (rightPercent : right '%' = false)
    (text : String) :
    percentEncode left text = percentEncode right text ↔
      ∀ char ∈ text.toList, left char = right char := by
  rw [percentEncode, percentEncode, String.ofList_inj]
  induction text.toList with
  | nil => simp
  | cons char rest inductionHypothesis =>
      rw [List.flatMap_cons, List.flatMap_cons, List.forall_mem_cons]
      cases keptLeft : left char <;> cases keptRight : right char
      · have same : percentChar left char = percentChar right char := by
          simp [percentChar, keptLeft, keptRight]
        rw [same, List.append_cancel_left_eq, inductionHypothesis]
        simp
      · have apart := percentChar_append_ne rightPercent keptRight keptLeft
          (rest.flatMap (percentChar right)) (rest.flatMap (percentChar left))
        simp [apart.symm]
      · have apart := percentChar_append_ne leftPercent keptLeft keptRight
          (rest.flatMap (percentChar left)) (rest.flatMap (percentChar right))
        simp [apart]
      · have same : percentChar left char = percentChar right char := by
          simp [percentChar, keptLeft, keptRight]
        rw [same, List.append_cancel_left_eq, inductionHypothesis]
        simp

end Agree

end EvoPlatform
