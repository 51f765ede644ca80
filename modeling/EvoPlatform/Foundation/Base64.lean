import Mathlib.Data.List.Basic
import Mathlib.Tactic.Common

/-!
# Base64

The two encodings of bytes as text, which characters may occur in it, and the
decoder that reads both.
-/

namespace EvoPlatform
namespace Base64

/-- The digits of an encoding, and the text that stands for missing bytes. -/
structure Alphabet where
  digits : List Char
  /-- For one or two missing bytes. -/
  padding : Nat → List Char
  nonempty : digits ≠ []

/-- The letters and figures, in the order of their values. -/
def alphanumeric : List Char :=
  "ABCDEFGHIJKLMNOPQRSTUVWXYZabcdefghijklmnopqrstuvwxyz0123456789".toList

/-- `base64`. -/
def standard : Alphabet where
  digits := alphanumeric ++ ['+', '/']
  padding := fun missing => List.replicate missing '='
  nonempty := by simp

/-- `base64url`, which has no padding. -/
def url : Alphabet where
  digits := alphanumeric ++ ['-', '_']
  padding := fun _ => []
  nonempty := by simp

variable (alphabet : Alphabet)

/-- The digit of a value below 64. -/
def Alphabet.digit (value : Nat) : Char :=
  alphabet.digits.getD value (alphabet.digits.head alphabet.nonempty)

theorem Alphabet.digit_mem (value : Nat) :
    alphabet.digit value ∈ alphabet.digits := by
  unfold digit
  rw [List.getD_eq_getElem?_getD]
  cases found : alphabet.digits[value]? with
  | none => exact List.head_mem alphabet.nonempty
  | some char => exact List.mem_of_getElem? found

/-- Three bytes are four digits. -/
def encode : List UInt8 → List Char
  | [] => []
  | [first] =>
      [alphabet.digit (first.toNat / 4),
        alphabet.digit (first.toNat % 4 * 16)] ++ alphabet.padding 2
  | [first, second] =>
      [alphabet.digit (first.toNat / 4),
        alphabet.digit (first.toNat % 4 * 16 + second.toNat / 16),
        alphabet.digit (second.toNat % 16 * 4)] ++ alphabet.padding 1
  | first :: second :: third :: rest =>
      [alphabet.digit (first.toNat / 4),
        alphabet.digit (first.toNat % 4 * 16 + second.toNat / 16),
        alphabet.digit (second.toNat % 16 * 4 + third.toNat / 64),
        alphabet.digit (third.toNat % 64)] ++ encode rest

/-- Only digits and padding occur in an encoding. -/
theorem mem_of_mem_encode
    {bytes : List UInt8}
    {char : Char}
    (present : char ∈ encode alphabet bytes) :
    char ∈ alphabet.digits ∨ ∃ missing, char ∈ alphabet.padding missing := by
  have ofDigits : ∀ {digits rest : List Char},
      (∀ digit ∈ digits, digit ∈ alphabet.digits) → char ∈ digits ++ rest →
        char ∈ alphabet.digits ∨ char ∈ rest := by
    intro digits rest areDigits isChar
    rcases List.mem_append.mp isChar with isDigit | isRest
    · exact Or.inl (areDigits char isDigit)
    · exact Or.inr isRest
  induction bytes using encode.induct with
  | case1 => contradiction
  | case2 first =>
      rcases ofDigits (by simp [alphabet.digit_mem]) present with
        isDigit | isPadding
      · exact Or.inl isDigit
      · exact Or.inr ⟨2, isPadding⟩
  | case3 first second =>
      rcases ofDigits (by simp [alphabet.digit_mem]) present with
        isDigit | isPadding
      · exact Or.inl isDigit
      · exact Or.inr ⟨1, isPadding⟩
  | case4 first second third rest inductionHypothesis =>
      rcases ofDigits (by simp [alphabet.digit_mem]) present with
        isDigit | isRest
      · exact Or.inl isDigit
      · exact inductionHypothesis isRest

/-- A text that may be the `base64` of some bytes. -/
def isStandard (text : String) : Bool :=
  text.toList.all fun char => standard.digits.contains char || char = '='

/-- What is encoded has this form. -/
theorem isStandard_encode (bytes : List UInt8) :
    isStandard (String.ofList (encode standard bytes)) = true := by
  rw [isStandard, String.toList_ofList, List.all_eq_true]
  intro char present
  rcases mem_of_mem_encode standard present with isDigit | ⟨missing, isPadding⟩
  · simp [isDigit]
  · simp [(List.mem_replicate.mp isPadding).2]

example :
    String.ofList (encode standard [77, 97, 110, 77]) = "TWFuTQ==" := by
  decide +kernel

/-! ## Decoding -/

/-- The value of a digit of either alphabet. -/
def value (char : Char) : Option Nat :=
  (standard.digits.idxOf? char).or (url.digits.idxOf? char)

/-- The bytes of digits, of which a last one alone is dropped. -/
def bytesOf : List Nat → List UInt8
  | first :: second :: third :: fourth :: rest =>
      UInt8.ofNat (first * 4 + second / 16) ::
        UInt8.ofNat (second % 16 * 16 + third / 4) ::
          UInt8.ofNat (third % 4 * 64 + fourth) :: bytesOf rest
  | [first, second, third] =>
      [UInt8.ofNat (first * 4 + second / 16),
        UInt8.ofNat (second % 16 * 16 + third / 4)]
  | [first, second] => [UInt8.ofNat (first * 4 + second / 16)]
  | _ => []

/-- The digits up to the padding; what is no digit is skipped. -/
def valuesOf (text : List Char) : List Nat :=
  (text.takeWhile fun char => char ≠ '=').filterMap value

/-- `Buffer.from(text, 'base64')`. -/
def decode (text : List Char) : List UInt8 :=
  bytesOf (valuesOf text)

/-- An alphabet of which the digits are read back, and padding is not. -/
structure Alphabet.Readable (alphabet : Alphabet) : Prop where
  digits : ∀ number < 64, value (alphabet.digit number) = some number
  noPadding : ∀ number < 64, alphabet.digit number ≠ '='
  padding : ∀ missing, ∀ char ∈ alphabet.padding missing, char = '='

theorem standard_readable : standard.Readable where
  digits := by decide +kernel
  noPadding := by decide +kernel
  padding := fun _ _ present => (List.mem_replicate.mp present).2

theorem url_readable : url.Readable where
  digits := by decide +kernel
  noPadding := by decide +kernel
  padding := fun _ _ present => absurd present List.not_mem_nil

section Decode

variable {alphabet : Alphabet}

theorem valuesOf_digit
    (readable : alphabet.Readable)
    {number : Nat}
    (small : number < 64)
    (rest : List Char) :
    valuesOf (alphabet.digit number :: rest) = number :: valuesOf rest := by
  have isDigit := readable.noPadding number small
  rw [valuesOf, List.takeWhile_cons_of_pos (by simpa using isDigit),
    List.filterMap_cons_some (readable.digits number small)]
  rfl

theorem valuesOf_padding
    (readable : alphabet.Readable)
    (missing : Nat) :
    valuesOf (alphabet.padding missing) = [] := by
  have isPadding := readable.padding missing
  unfold valuesOf
  cases shape : alphabet.padding missing with
  | nil => rfl
  | cons char rest =>
      rw [shape] at isPadding
      rw [isPadding char List.mem_cons_self,
        List.takeWhile_cons_of_neg (by decide)]
      rfl

/-- What is encoded can be read back, in either alphabet. -/
theorem decode_encode
    (readable : alphabet.Readable)
    (bytes : List UInt8) :
    decode (encode alphabet bytes) = bytes := by
  unfold decode
  induction bytes using encode.induct with
  | case1 => rfl
  | case2 first =>
      have bound := first.toNat_lt
      have isFirst : first.toNat / 4 * 4 + first.toNat % 4 * 16 / 16 =
          first.toNat := by omega
      simp only [encode, List.cons_append, List.nil_append]
      rw [valuesOf_digit readable (by omega), valuesOf_digit readable (by omega),
        valuesOf_padding readable, bytesOf, isFirst, UInt8.ofNat_toNat]
  | case3 first second =>
      have bound := first.toNat_lt
      have secondBound := second.toNat_lt
      have isFirst : first.toNat / 4 * 4 +
          (first.toNat % 4 * 16 + second.toNat / 16) / 16 = first.toNat := by
        omega
      have isSecond : (first.toNat % 4 * 16 + second.toNat / 16) % 16 * 16 +
          second.toNat % 16 * 4 / 4 = second.toNat := by omega
      simp only [encode, List.cons_append, List.nil_append]
      rw [valuesOf_digit readable (by omega),
        valuesOf_digit readable (by omega), valuesOf_digit readable (by omega),
        valuesOf_padding readable, bytesOf, isFirst, isSecond,
        UInt8.ofNat_toNat, UInt8.ofNat_toNat]
  | case4 first second third rest inductionHypothesis =>
      have bound := first.toNat_lt
      have secondBound := second.toNat_lt
      have thirdBound := third.toNat_lt
      have isFirst : first.toNat / 4 * 4 +
          (first.toNat % 4 * 16 + second.toNat / 16) / 16 = first.toNat := by
        omega
      have isSecond : (first.toNat % 4 * 16 + second.toNat / 16) % 16 * 16 +
          (second.toNat % 16 * 4 + third.toNat / 64) / 4 =
            second.toNat := by omega
      have isThird : (second.toNat % 16 * 4 + third.toNat / 64) % 4 * 64 +
          third.toNat % 64 = third.toNat := by omega
      simp only [encode, List.cons_append, List.nil_append]
      rw [valuesOf_digit readable (by omega),
        valuesOf_digit readable (by omega), valuesOf_digit readable (by omega),
        valuesOf_digit readable (by omega), bytesOf, isFirst, isSecond, isThird,
        UInt8.ofNat_toNat, UInt8.ofNat_toNat, UInt8.ofNat_toNat,
        inductionHypothesis]

end Decode

end Base64
end EvoPlatform
